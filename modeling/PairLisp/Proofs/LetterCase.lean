import PairLisp.Proofs.AsciiCase
import PairLisp.Proofs.Correspondence
import PairLisp.Proofs.ListNotation

/-!
# Evaluation without regard to letter case

Tokens are kept as they were written, and their case is set aside wherever one is compared with
another. That this is done everywhere is a law of evaluation as a whole: whatever differs only in
the case of ASCII letters is evaluated alike.

Expressions, environments, tables and errors are each taken to capitals by a function
`asciiUpper`, and two of them are alike if they are the same in capitals. So the law comes down to
one comparison, that of an evaluation with the same evaluation in capitals:

* every function on data commutes with `asciiUpper`, from the items of a list up to the definition
  that a `DEFUN` describes;
* so do the checks on a form and the built-in functions (`sound_inCapitals`);
* so does evaluation (`run_evaluate_asciiUpper`), and what is alike has the same run in capitals.
-/

namespace PairLisp

open Text

/-! ## Expressions -/

namespace Expr

/-- An expression with the ASCII letters of its tokens in capitals. -/
def asciiUpper : Expr → Expr
  | .atom token => .atom (Text.asciiUpper token)
  | .pair first rest => .pair first.asciiUpper rest.asciiUpper
  | .blank => .blank

@[simp] theorem asciiUpper_ofBool (b : Bool) : (ofBool b).asciiUpper = ofBool b := by
  cases b with
  | false => decide +kernel
  | true => decide +kernel

@[simp] theorem isAtom_asciiUpper (e : Expr) : e.asciiUpper.isAtom = e.isAtom := by
  cases e <;> rfl

@[simp] theorem isTrue_asciiUpper (e : Expr) : e.asciiUpper.isTrue = e.isTrue := by
  cases e with
  | atom token => exact Symbol.isTrue_asciiUpper token
  | pair first rest => rfl
  | blank => rfl

/-- The items of a list in capitals are its items, each in capitals. -/
@[simp] theorem toList?_asciiUpper (e : Expr) :
    e.asciiUpper.toList? = e.toList?.map (List.map asciiUpper) := by
  induction e with
  | atom token =>
      simp only [asciiUpper, toList?, Symbol.isNil_asciiUpper]
      split <;> rfl
  | pair first rest _ ih =>
      simp only [asciiUpper, toList?, ih, Option.map_map]
      rfl
  | blank => rfl

@[simp] theorem length_asciiUpper (e : Expr) : e.asciiUpper.length = e.length := by
  induction e with
  | atom token => simp only [asciiUpper, length, Symbol.isNil_asciiUpper]
  | pair first rest _ ih => simp only [asciiUpper, length, ih]
  | blank => rfl

/-- List notation shows capitals where the expression has them, and nothing else changes. -/
theorem alike_listed_asciiUpper (e : Expr) :
    Text.Alike e.asciiUpper.listed e.listed ∧
      Text.Alike e.asciiUpper.listedRest e.listedRest := by
  induction e with
  | atom token =>
      refine ⟨alike_asciiUpper token, ?_⟩
      simp only [asciiUpper, listedRest, Symbol.isNil_asciiUpper]
      split
      · exact .refl ")"
      · exact .append (.append (.refl " . ") (alike_asciiUpper token)) (.refl ")")
  | pair first rest ihfirst ihrest =>
      obtain ⟨hfirst, _⟩ := ihfirst
      obtain ⟨_, hrest⟩ := ihrest
      rw [asciiUpper, listed, listed, listedRest, listedRest]
      exact ⟨.append (.append (.refl "(") hfirst) hrest,
        .append (.append (.refl " ") hfirst) hrest⟩
  | blank => exact ⟨.refl "", .refl ")"⟩

/-- Capitals do not change whether an expression can be written as a list. -/
theorem listable_asciiUpper (e : Expr) : e.asciiUpper.listable = e.listable := by
  induction e with
  | atom token => rfl
  | pair first rest ihfirst ihrest =>
      have hblank : rest.asciiUpper.isBlank = rest.isBlank := by cases rest <;> rfl
      rw [asciiUpper, listable, listable, ihfirst, ihrest, hblank]
  | blank => rfl

/-- What can be quoted can be quoted in capitals. -/
theorem quoting_asciiUpper (kind : ErrorKind) (e : Expr) :
    kind.quoting e.asciiUpper = kind.quoting e := by
  rw [ErrorKind.quoting, ErrorKind.quoting, listing_eq, listing_eq, listable_asciiUpper]
  cases e.listable <;> rfl

end Expr

/-! ## Errors -/

/-- A fault with the ASCII letters of what it names in capitals. -/
def DefunFault.asciiUpper : DefunFault → DefunFault
  | .form => .form
  | .name => .name
  | .parameterList => .parameterList
  | .parameter given => .parameter given.asciiUpper
  | .misuse cause => .misuse cause

namespace EvalError

/-- An error with the ASCII letters of what it names in capitals. -/
def asciiUpper : EvalError → EvalError
  | .invalidIdentifier token => .invalidIdentifier (Text.asciiUpper token)
  | .illegalFunctionName head => .illegalFunctionName head.asciiUpper
  | .unboundIdentifier name => .unboundIdentifier (Text.asciiUpper name)
  | .malformedConditional fault => .malformedConditional fault
  | .malformedDefun fault => .malformedDefun fault.asciiUpper
  | .nestedDefunForbidden => .nestedDefunForbidden
  | .badArguments name => .badArguments (Text.asciiUpper name)
  | .arityMismatch name expected actual => .arityMismatch (Text.asciiUpper name) expected actual
  | .operandNotPair name => .operandNotPair (Text.asciiUpper name)
  | .atomsOnly name => .atomsOnly (Text.asciiUpper name)
  | .nonIntegerOperand name => .nonIntegerOperand (Text.asciiUpper name)
  | .integerTooLarge name => .integerTooLarge (Text.asciiUpper name)
  | .divisionByZero name => .divisionByZero (Text.asciiUpper name)
  | .undefinedFunction name => .undefinedFunction (Text.asciiUpper name)
  | .noMatchingClause => .noMatchingClause
  | .recursionDepthExceeded => .recursionDepthExceeded
  | .blankForm => .blankForm
  | .misuse cause => .misuse cause

/-- Capitals do not change what kind of error it is. -/
theorem kind_asciiUpper (cause : EvalError) : cause.asciiUpper.kind = cause.kind := by
  cases cause with
  | illegalFunctionName head => exact Expr.quoting_asciiUpper .illegalFunctionName head
  | malformedDefun fault =>
      cases fault with
      | parameter given => exact Expr.quoting_asciiUpper .malformedDefun given
      | form | name | parameterList | misuse _ => rfl
  | _ => rfl

/-- What is said about an error in capitals is what is said about the error, up to case. -/
theorem alike_message_asciiUpper (cause : EvalError) :
    Text.Alike cause.asciiUpper.message cause.message := by
  have hbefore {s t : String} (h : Text.Alike s t) (after : String) :
      Text.Alike (s ++ after) (t ++ after) := .append h (.refl after)
  have hwithin {s t : String} (h : Text.Alike s t) (before after : String) :
      Text.Alike (before ++ s ++ after) (before ++ t ++ after) :=
    hbefore (.append (.refl before) h) after
  have hquoting (e : Expr) (said : String) :
      Text.Alike (quotingMessage e.asciiUpper said) (quotingMessage e said) := by
    rw [quotingMessage, quotingMessage, Expr.listing_eq, Expr.listing_eq, Expr.listable_asciiUpper]
    cases e.listable with
    | true => exact hbefore (hwithin e.alike_listed_asciiUpper.1 _ _) _
    | false => exact .refl _
  cases cause with
  | invalidIdentifier name | badArguments name | undefinedFunction name =>
      exact hwithin (alike_asciiUpper name) _ _
  | illegalFunctionName head => exact hquoting head _
  | malformedDefun fault =>
      cases fault with
      | parameter given => exact hquoting given _
      | form | name | parameterList | misuse _ => exact .refl _
  | unboundIdentifier name | operandNotPair name | atomsOnly name | nonIntegerOperand name
  | integerTooLarge name | divisionByZero name => exact hbefore (alike_asciiUpper name) _
  | arityMismatch name expected actual =>
      exact hbefore (hbefore (hbefore (hbefore (hbefore (alike_asciiUpper name) _) _) _) _) _
  | malformedConditional fault => exact .refl _
  | nestedDefunForbidden | noMatchingClause | recursionDepthExceeded | blankForm | misuse _ =>
      exact .refl _

end EvalError

/-- A result with its ASCII letters in capitals. -/
def capitals : Except EvalError Expr → Except EvalError Expr
  | .ok value => .ok value.asciiUpper
  | .error cause => .error cause.asciiUpper

/-! ## Environments and definitions -/

namespace Env

/-- An environment with the ASCII letters of its names and values in capitals. -/
def asciiUpper (env : Env) : Env :=
  env.bindings.foldr (fun pair outer => .bind (Text.asciiUpper pair.1) pair.2.asciiUpper outer) .empty

/-- A binding in capitals has its name and its value in capitals. -/
theorem asciiUpper_bind (name : String) (value : Expr) (outer : Env) :
    (bind name value outer).asciiUpper =
      bind (Text.asciiUpper name) value.asciiUpper outer.asciiUpper := by
  rw [asciiUpper, bindings_bind]
  rfl

/-- In capitals a name has its value in capitals. -/
theorem lookup?_asciiUpper (env : Env) (token : String) :
    env.asciiUpper.lookup? (Text.asciiUpper token) = (env.lookup? token).map Expr.asciiUpper := by
  induction env with
  | empty => rfl
  | bind name value outer ih =>
      rw [asciiUpper_bind, lookup?_bind, lookup?_bind, Symbol.key_asciiUpper, Symbol.key_asciiUpper,
        ih]
      split <;> rfl

/-- Binding parameters and arguments in capitals gives the bindings in capitals. -/
theorem extend_asciiUpper (env : Env) (names : List String) (values : List Expr) :
    env.asciiUpper.extend (names.map Text.asciiUpper) (values.map Expr.asciiUpper) =
      (env.extend names values).asciiUpper := by
  induction names generalizing env values with
  | nil => rfl
  | cons name names ih =>
      cases values with
      | nil => rfl
      | cons value values =>
          rw [extend_cons, ← ih, asciiUpper_bind]
          rfl

end Env

namespace Definition

/-- A definition with the ASCII letters of its names and its body in capitals. -/
def asciiUpper (d : Definition) : Definition where
  name := Text.asciiUpper d.name
  formals := d.formals.map Text.asciiUpper
  body := d.body.asciiUpper

@[simp] theorem arity_asciiUpper (d : Definition) : d.asciiUpper.arity = d.arity :=
  List.length_map Text.asciiUpper

/-- What can name something can do so in capitals, and nothing else can. -/
theorem identifier?_asciiUpper (e : Expr) :
    identifier? e.asciiUpper = (identifier? e).map Text.asciiUpper := by
  cases e with
  | atom token =>
      simp only [Expr.asciiUpper, identifier?, Symbol.isIdentifier_asciiUpper]
      split <;> rfl
  | pair first rest => rfl
  | blank => rfl

/-- The parameters of a list in capitals are its parameters in capitals, and the one at fault stays
    at fault. -/
theorem formalNames_asciiUpper (items : List Expr) :
    formalNames (items.map Expr.asciiUpper) =
      ((formalNames items).map (List.map Text.asciiUpper)).mapError DefunFault.asciiUpper := by
  induction items with
  | nil => rfl
  | cons e items ih =>
      rw [List.map_cons, formalNames, formalNames, identifier?_asciiUpper, ih]
      cases identifier? e with
      | none => rfl
      | some name => cases formalNames items <;> rfl

/-- The operands of a `DEFUN` describe in capitals what they describe, or have the same fault. -/
theorem ofOperands_asciiUpper (tail : Expr) :
    ofOperands tail.asciiUpper =
      ((ofOperands tail).map asciiUpper).mapError DefunFault.asciiUpper := by
  rw [ofOperands_eq, ofOperands_eq, Expr.toList?_asciiUpper]
  rcases tail.toList? with _ | _ | ⟨name, _ | ⟨formals, _ | ⟨body, _ | ⟨extra, rest⟩⟩⟩⟩
  · rfl
  · rfl
  · rfl
  · rfl
  · simp only [Option.map_some, List.map_cons, List.map_nil, identifier?_asciiUpper,
      Expr.toList?_asciiUpper]
    cases identifier? name with
    | none => rfl
    | some name =>
        cases formals.toList? with
        | none => rfl
        | some items =>
            simp only [Option.map_some, formalNames_asciiUpper]
            cases formalNames items <;> rfl
  · rfl

end Definition

namespace Definitions

/-- A table with the ASCII letters of its definitions in capitals. The keys stay: they are the same
    for both spellings. -/
def asciiUpper (defs : Definitions) : Definitions where
  current := defs.current.map fun entry => (entry.1, entry.2.asciiUpper)
  history := defs.history.map Definition.asciiUpper

/-- In capitals a name has its definition in capitals. -/
theorem get?_asciiUpper (defs : Definitions) (name : String) :
    defs.asciiUpper.get? (Text.asciiUpper name) = (defs.get? name).map Definition.asciiUpper := by
  rw [get?, get?, Symbol.key_asciiUpper, asciiUpper]
  induction defs.current with
  | nil => rfl
  | cons entry entries ih =>
      rw [List.map_cons, List.lookup_cons, List.lookup_cons, ih]
      split <;> rfl

/-- Adding a definition in capitals gives the table in capitals. -/
theorem add_asciiUpper (defs : Definitions) (d : Definition) :
    defs.asciiUpper.add d.asciiUpper = (defs.add d).asciiUpper := by
  simp [add, asciiUpper, Definition.asciiUpper, List.filter_map, Function.comp_def]

end Definitions

/-! ## Built-in functions -/

namespace Primitive

/-- Primitives are found in any case. -/
theorem ofName?_asciiUpper (name : String) : ofName? (asciiUpper name) = ofName? name := by
  rw [ofName?, ofName?, Symbol.key_asciiUpper]

/-- The labels of primitives are in capitals already. -/
theorem asciiUpper_label (p : Primitive) : asciiUpper p.label = p.label := by
  cases p <;> decide +kernel

/-- There are no letters in an integer. -/
theorem integer_asciiUpper_iff {x : Expr} : Integer x.asciiUpper ↔ Integer x := by
  rw [← isInteger_iff, ← isInteger_iff]
  cases x with
  | atom token => simp [Expr.asciiUpper, isInteger]
  | pair _ _ | blank => rfl

/-- A numeral has no letters. -/
theorem asciiUpper_of_integer {x : Expr} (h : Integer x) : x.asciiUpper = x := by
  obtain ⟨h⟩ := h
  exact congrArg Expr.atom (Numeral.asciiUpper_of_isNumeral h)

/-- Capitals do not change the integer that a numeral denotes. -/
theorem denotes_asciiUpper_iff {x : Expr} {a : Int} : Denotes x.asciiUpper a ↔ Denotes x a := by
  have hinteger {y : Expr} (h : Denotes y a) : Integer y := by
    obtain ⟨h, -⟩ := h
    exact .numeral h
  constructor
  · intro h
    rwa [asciiUpper_of_integer (integer_asciiUpper_iff.mp (hinteger h))] at h
  · intro h
    rwa [asciiUpper_of_integer (hinteger h)]

/-- A test asks in capitals what it asks. -/
theorem tests_asciiUpper {p : Primitive} {x : Expr} {P : Prop} (h : Tests p x P) :
    ∃ P', (P' ↔ P) ∧ Tests p x.asciiUpper P' := by
  cases h with
  | atom => exact ⟨_, by cases x <;> simp [Expr.asciiUpper], .atom⟩
  | null => exact ⟨_, by cases x <;> simp [Expr.asciiUpper], .null⟩
  | int => exact ⟨_, integer_asciiUpper_iff, .int⟩

/-- **The rules for built-in functions allow in capitals what they allow.** -/
theorem applies_asciiUpper {p : Primitive} {args : List Expr} {r : Except EvalError Expr}
    (h : Applies p args r) : Applies p (args.map Expr.asciiUpper) (capitals r) := by
  have hlabel := asciiUpper_label p
  have htruth : capitals (.ok Expr.truth) = .ok Expr.truth :=
    congrArg Except.ok (Expr.asciiUpper_ofBool true)
  have hnil : capitals (.ok Expr.nil) = .ok Expr.nil :=
    congrArg Except.ok (Expr.asciiUpper_ofBool false)
  cases h with
  | arity hlen =>
      rw [capitals, EvalError.asciiUpper, hlabel, ← List.length_map Expr.asciiUpper]
      exact .arity (by rwa [List.length_map])
  | car => exact .car
  | cdr => exact .cdr
  | cons => exact .cons
  | notPair hp hx =>
      rw [capitals, EvalError.asciiUpper, hlabel]
      refine .notPair hp fun a b heq => ?_
      next x =>
      cases x with
      | pair first rest => exact hx first rest rfl
      | atom token => cases heq
      | blank => cases heq
  | same hkey =>
      rw [htruth]
      exact .same (by rwa [Symbol.key_asciiUpper, Symbol.key_asciiUpper])
  | different hkey =>
      rw [hnil]
      exact .different (by rwa [Symbol.key_asciiUpper, Symbol.key_asciiUpper])
  | notAtoms h =>
      rw [capitals, EvalError.asciiUpper, show asciiUpper "EQ" = "EQ" from asciiUpper_label .eq]
      refine .notAtoms fun s t heq => ?_
      next x y =>
      cases x with
      | atom s' =>
          cases y with
          | atom t' => exact h s' t' ⟨rfl, rfl⟩
          | pair _ _ | blank => cases heq.2
      | pair _ _ | blank => cases heq.1
  | holds htest hP =>
      obtain ⟨P', hiff, htest'⟩ := tests_asciiUpper htest
      rw [htruth]
      exact .holds htest' (hiff.mpr hP)
  | fails htest hP =>
      obtain ⟨P', hiff, htest'⟩ := tests_asciiUpper htest
      rw [hnil]
      exact .fails htest' (mt hiff.mp hP)
  | notIntegers hp hnot =>
      rw [capitals, EvalError.asciiUpper, hlabel]
      exact .notIntegers hp (by rwa [integer_asciiUpper_iff, integer_asciiUpper_iff])
  | operandTooLarge hp hx hy hlarge =>
      rw [capitals, EvalError.asciiUpper, hlabel]
      refine .operandTooLarge hp (integer_asciiUpper_iff.mpr hx) (integer_asciiUpper_iff.mpr hy) ?_
      intro a b
      rw [denotes_asciiUpper_iff, denotes_asciiUpper_iff]
      exact hlarge a b
  | zeroDivisor hp hx hy =>
      rw [capitals, EvalError.asciiUpper, hlabel]
      exact .zeroDivisor hp (denotes_asciiUpper_iff.mpr hx) (denotes_asciiUpper_iff.mpr hy)
  | result hx hy hc hfits =>
      rw [capitals, Expr.asciiUpper, Numeral.asciiUpper_ofInt]
      exact .result (denotes_asciiUpper_iff.mpr hx) (denotes_asciiUpper_iff.mpr hy) hc hfits
  | resultTooLarge hx hy hc hfits =>
      rw [capitals, EvalError.asciiUpper, hlabel]
      exact .resultTooLarge (denotes_asciiUpper_iff.mpr hx) (denotes_asciiUpper_iff.mpr hy) hc hfits
  | compares hx hy hc hP =>
      rw [htruth]
      exact .compares (denotes_asciiUpper_iff.mpr hx) (denotes_asciiUpper_iff.mpr hy) hc hP
  | comparesNot hx hy hc hP =>
      rw [hnil]
      exact .comparesNot (denotes_asciiUpper_iff.mpr hx) (denotes_asciiUpper_iff.mpr hy) hc hP

/-- **Primitives treat all cases alike**: arguments in capitals give the answer in capitals. -/
theorem apply_asciiUpper (p : Primitive) (args : List Expr) :
    p.apply (args.map Expr.asciiUpper) = capitals (p.apply args) :=
  apply_of_applies (applies_asciiUpper (applies_iff.mpr rfl))

end Primitive

/-! ## Evaluation -/

namespace Eval

/-- Special forms are found in any case. -/
theorem SpecialForm.ofName?_asciiUpper (name : String) :
    SpecialForm.ofName? (asciiUpper name) = SpecialForm.ofName? name := by
  rw [SpecialForm.ofName?, SpecialForm.ofName?, Symbol.key_asciiUpper]

/-- The value of an atom in capitals is its value in capitals. -/
theorem atom_asciiUpper (token : String) (env : Env) :
    atom (asciiUpper token) env.asciiUpper = capitals (atom token env) := by
  simp only [atom, Numeral.isNumeral_asciiUpper, Symbol.isTrue_asciiUpper,
    Symbol.isNil_asciiUpper, Symbol.isIdentifier_asciiUpper, Env.lookup?_asciiUpper]
  split
  · rfl
  · split
    · exact congrArg Except.ok (Expr.asciiUpper_ofBool true).symm
    · split
      · exact congrArg Except.ok (Expr.asciiUpper_ofBool false).symm
      · split
        · cases env.lookup? token <;> rfl
        · rfl

/-- What is quoted in capitals is given in capitals. -/
theorem quote_asciiUpper (tail : Expr) : quote tail.asciiUpper = capitals (quote tail) := by
  have hlabel : asciiUpper "QUOTE" = "QUOTE" := by decide +kernel
  rw [quote_eq, quote_eq, Expr.toList?_asciiUpper, Expr.length_asciiUpper]
  rcases tail.toList? with _ | _ | ⟨e, _ | ⟨other, rest⟩⟩
  · simp [capitals, EvalError.asciiUpper, hlabel]
  · simp [capitals, EvalError.asciiUpper, hlabel]
  · rfl
  · simp [capitals, EvalError.asciiUpper, hlabel]

/-- A clause with its ASCII letters in capitals. -/
def clauseUpper (clause : Expr × Expr) : Expr × Expr :=
  (clause.1.asciiUpper, clause.2.asciiUpper)

/-- Capitals do not change what a clause is. -/
theorem clause_asciiUpper (e : Expr) : clause e.asciiUpper = (clause e).map clauseUpper := by
  rw [clause_eq, clause_eq, Expr.toList?_asciiUpper]
  rcases e.toList? with _ | _ | ⟨test, _ | ⟨result, _ | ⟨extra, rest⟩⟩⟩
  all_goals rfl

/-- Capitals do not change which clause of a list is the first at fault. -/
theorem mapM_clause_asciiUpper (items : List Expr) :
    (items.map Expr.asciiUpper).mapM clause = (items.mapM clause).map (List.map clauseUpper) := by
  induction items with
  | nil => rfl
  | cons e items ih =>
      rw [List.map_cons, mapM_clause_cons, mapM_clause_cons, clause_asciiUpper, ih]
      cases clause e with
      | error fault => rfl
      | ok c => cases items.mapM clause <;> rfl

/-- Capitals do not change which clauses a conditional has. -/
theorem clauses_asciiUpper (tail : Expr) :
    clauses tail.asciiUpper = (clauses tail).map (List.map clauseUpper) := by
  rw [clauses, clauses, Expr.isAtom_asciiUpper, Expr.toList?_asciiUpper]
  split
  · rfl
  · cases tail.toList? with
    | none => rfl
    | some items => exact mapM_clause_asciiUpper items

/-- A function with the ASCII letters of its definition in capitals. -/
def Function.asciiUpper : Function → Function
  | .primitive p => .primitive p
  | .defined d => .defined d.asciiUpper

/-- A call in capitals finds the same function, in capitals. -/
theorem function?_asciiUpper (defs : Definitions) (name : String) :
    function? defs.asciiUpper (Text.asciiUpper name) =
      (function? defs name).map Function.asciiUpper := by
  rw [function?, function?, Primitive.ofName?_asciiUpper, Definitions.get?_asciiUpper]
  cases Primitive.ofName? name with
  | some p => rfl
  | none => cases defs.get? name <;> rfl

/-- The comparison of an evaluation with the same one in capitals. -/
def inCapitals : Matching where
  excused _ := False
  errors cause cause' := cause' = cause.asciiUpper
  values value value' := value' = value.asciiUpper
  forms e env e' env' := e' = e.asciiUpper ∧ env' = env.asciiUpper

/-- Answers correspond if the second one is the first one in capitals. -/
theorem answers_inCapitals_iff {r r' : Except EvalError Expr} :
    inCapitals.Answers inCapitals.values r r' ↔ r' = capitals r := by
  constructor
  · intro h
    cases h with
    | value hvalue => rw [capitals, hvalue]
    | error hcause => rw [capitals, hcause]
    | excused hcause => exact False.elim hcause
  · rintro rfl
    cases r with
    | ok value => exact .value rfl
    | error cause => exact .error rfl

/-- A function and the same one in capitals give corresponding answers to corresponding arguments.
    -/
theorem functions_inCapitals (f : Function) (env : Env) :
    inCapitals.Functions env env.asciiUpper f f.asciiUpper := by
  intro args args' hargs
  obtain rfl : args' = args.map Expr.asciiUpper := by
    induction hargs with
    | nil => rfl
    | cons hvalue _ ih => rw [List.map_cons, hvalue, ih]
  cases f with
  | primitive p => exact .settled (answers_inCapitals_iff.mpr (p.apply_asciiUpper args))
  | defined d =>
      simp only [Function.asciiUpper, enter, Definition.bindArguments, List.length_map,
        Definition.arity_asciiUpper]
      by_cases hlen : args.length = d.arity
      · rw [if_pos hlen, if_pos hlen]
        exact .body ⟨rfl, env.extend_asciiUpper d.formals args⟩
      · rw [if_neg hlen, if_neg hlen]
        exact .settled (.error rfl)

/-- A conditional has the same shape in capitals. -/
theorem shapes_conditional_inCapitals (tail : Expr) (env : Env) :
    inCapitals.Shapes env env.asciiUpper (conditionalShape tail)
      (conditionalShape tail.asciiUpper) := by
  rw [conditionalShape, conditionalShape, clauses_asciiUpper]
  cases clauses tail with
  | error fault => exact .settled (.error rfl)
  | ok cs =>
      refine .clauses (List.forall₂_map_right_iff.mpr (List.forall₂_same.mpr fun clause _ => ?_))
      exact ⟨⟨rfl, rfl⟩, ⟨rfl, rfl⟩⟩

/-- A call has the same shape in capitals. -/
theorem shapes_call_inCapitals (defs : Definitions) (name : String) (tail : Expr) (env : Env) :
    inCapitals.Shapes env env.asciiUpper (callShape defs name tail)
      (callShape defs.asciiUpper (asciiUpper name) tail.asciiUpper) := by
  rw [callShape, callShape, function?_asciiUpper, Expr.toList?_asciiUpper]
  cases function? defs name with
  | none => exact .settled (.error rfl)
  | some f =>
      cases tail.toList? with
      | none => exact .settled (.error rfl)
      | some items =>
          refine .call (functions_inCapitals f env) ?_
          exact List.forall₂_map_right_iff.mpr (List.forall₂_same.mpr fun e _ => ⟨rfl, rfl⟩)

/-- **The checks on a form come out alike in capitals.** -/
theorem sound_inCapitals (defs : Definitions) : inCapitals.Sound defs defs.asciiUpper where
  isTrue := by
    rintro value _ rfl
    exact (Expr.isTrue_asciiUpper value).symm
  noMatchingClause := rfl
  shapes := by
    rintro e env _ _ ⟨rfl, rfl⟩
    match e with
    | .atom token => exact .settled (answers_inCapitals_iff.mpr (atom_asciiUpper token env))
    | .blank => exact .settled (.error rfl)
    | .pair .blank tail => exact .settled (.error rfl)
    | .pair (.pair first rest) tail => exact .settled (.error rfl)
    | .pair (.atom name) tail =>
        simp only [Expr.asciiUpper, shape, SpecialForm.ofName?_asciiUpper]
        cases SpecialForm.ofName? name with
        | none => exact shapes_call_inCapitals defs name tail env
        | some form =>
            cases form with
            | quote => exact .settled (answers_inCapitals_iff.mpr (quote_asciiUpper tail))
            | cond => exact shapes_conditional_inCapitals tail env
            | defun => exact .settled (.error rfl)

/-- Capitals make nothing a definition that is none. -/
theorem isDefun_of_asciiUpper {e : Expr} (h : IsDefun e.asciiUpper) : IsDefun e := by
  obtain ⟨name, tail, he, hkey⟩ := h
  match e with
  | .atom token => cases he
  | .blank => cases he
  | .pair .blank rest => cases he
  | .pair (.pair first second) rest => cases he
  | .pair (.atom token) rest =>
      cases he
      exact ⟨token, rest, rfl, (Symbol.key_asciiUpper token).symm.trans hkey⟩

/-- A `DEFUN` form defines in capitals what it defines. -/
theorem run_define_asciiUpper (tail : Expr) (topLevel : Bool) (defs : Definitions) :
    ((define tail.asciiUpper topLevel).run defs.asciiUpper).result =
        capitals ((define tail topLevel).run defs).result ∧
      ((define tail.asciiUpper topLevel).run defs.asciiUpper).defs =
        ((define tail topLevel).run defs).defs.asciiUpper := by
  cases topLevel with
  | false => exact ⟨rfl, rfl⟩
  | true =>
      have hoperands := Definition.ofOperands_asciiUpper tail
      cases hd : Definition.ofOperands tail with
      | error fault =>
          rw [hd] at hoperands
          simp only [define, hd, hoperands]
          exact ⟨rfl, rfl⟩
      | ok d =>
          rw [hd] at hoperands
          obtain ⟨hresult, hdefs⟩ := run_define_accepted hd defs
          obtain ⟨hresult', hdefs'⟩ := run_define_accepted hoperands defs.asciiUpper
          rw [hresult, hdefs, hresult', hdefs', Definitions.add_asciiUpper]
          exact ⟨rfl, rfl⟩

end Eval

open Eval

/-- **Evaluation in capitals comes to what evaluation comes to, in capitals.** -/
theorem run_evaluate_asciiUpper (depth : Nat) (e : Expr) (env : Env) (top : Bool)
    (defs : Definitions) :
    ((evaluate depth e.asciiUpper env.asciiUpper top).run defs.asciiUpper).result =
        capitals ((evaluate depth e env top).run defs).result ∧
      ((evaluate depth e.asciiUpper env.asciiUpper top).run defs.asciiUpper).defs =
        ((evaluate depth e env top).run defs).defs.asciiUpper := by
  by_cases hform : IsDefun e
  · obtain ⟨name, tail, rfl, hkey⟩ := hform
    cases depth with
    | zero => exact ⟨rfl, rfl⟩
    | succ depth =>
        have hkey' : Symbol.key (asciiUpper name) = SpecialForm.defun.label :=
          (Symbol.key_asciiUpper name).trans hkey
        rw [Expr.asciiUpper, Expr.asciiUpper, evaluate,
          step_defun (evaluate depth) tail env top hkey,
          step_defun (evaluate depth) tail.asciiUpper env.asciiUpper top hkey']
        exact run_define_asciiUpper tail top defs
  · have hform' : ¬ IsDefun e.asciiUpper := mt isDefun_of_asciiUpper hform
    obtain ⟨hresult, hdefs⟩ := run_evaluate_of_not_isDefun hform depth env top defs
    obtain ⟨hresult', hdefs'⟩ :=
      run_evaluate_of_not_isDefun hform' depth env.asciiUpper top defs.asciiUpper
    rw [hresult, hdefs, hresult', hdefs']
    refine ⟨answers_inCapitals_iff.mp ?_, rfl⟩
    exact Matching.answers_answer (sound_inCapitals defs) (.inl ⟨rfl, rfl⟩) ⟨rfl, rfl⟩

/-! ## What differs only in letter case -/

/-- Two expressions have the same shape and alike tokens. -/
def Expr.Alike (e e' : Expr) : Prop :=
  e.asciiUpper = e'.asciiUpper

/-- Two environments bind alike names to alike values, in the same order. -/
def Env.Alike (env env' : Env) : Prop :=
  env.asciiUpper = env'.asciiUpper

/-- Two tables have alike definitions, in the same order and under the same keys. -/
def Definitions.Alike (defs defs' : Definitions) : Prop :=
  defs.asciiUpper = defs'.asciiUpper

instance (e e' : Expr) : Decidable (e.Alike e') :=
  inferInstanceAs (Decidable (_ = _))

instance (env env' : Env) : Decidable (env.Alike env') :=
  inferInstanceAs (Decidable (_ = _))

instance (defs defs' : Definitions) : Decidable (defs.Alike defs') :=
  inferInstanceAs (Decidable (_ = _))

/-- Two results are alike values, or errors of the same kind about which alike things are said. -/
inductive ResultsAlike : Except EvalError Expr → Except EvalError Expr → Prop where
  | value {v v' : Expr} : v.Alike v' → ResultsAlike (.ok v) (.ok v')
  | error {cause cause' : EvalError} : cause.kind = cause'.kind →
      Text.Alike cause.message cause'.message → ResultsAlike (.error cause) (.error cause')

/-- Results with the same capitals differ in the case of letters only. -/
theorem resultsAlike_of_capitals {r r' : Except EvalError Expr} (h : capitals r = capitals r') :
    ResultsAlike r r' := by
  match r, r' with
  | .ok v, .ok v' => exact .value (Except.ok.inj h)
  | .error cause, .error cause' =>
      have hcause : cause.asciiUpper = cause'.asciiUpper := Except.error.inj h
      refine .error ?_ ?_
      · rw [← cause.kind_asciiUpper, hcause, cause'.kind_asciiUpper]
      · have hmessage := cause.alike_message_asciiUpper
        rw [hcause] at hmessage
        exact hmessage.symm.trans cause'.alike_message_asciiUpper
  | .ok v, .error cause => cases h
  | .error cause, .ok v => cases h

/-- **Evaluation does not regard letter case.** Expressions, environments and tables that differ
    only in the case of ASCII letters are evaluated alike, within any number of levels: to values
    that differ only so, or to errors of the same kind with messages that differ only so. The
    tables that are left differ only so too. -/
theorem evaluate_ignores_letter_case {e e' : Expr} {env env' : Env} {defs defs' : Definitions}
    (he : e.Alike e') (henv : env.Alike env') (hdefs : defs.Alike defs') (depth : Nat)
    (top : Bool) :
    ResultsAlike ((evaluate depth e env top).run defs).result
        ((evaluate depth e' env' top).run defs').result ∧
      ((evaluate depth e env top).run defs).defs.Alike
        ((evaluate depth e' env' top).run defs').defs := by
  obtain ⟨hresult, htable⟩ := run_evaluate_asciiUpper depth e env top defs
  obtain ⟨hresult', htable'⟩ := run_evaluate_asciiUpper depth e' env' top defs'
  -- both sides have one and the same run in capitals
  rw [he, henv, hdefs] at hresult htable
  exact ⟨resultsAlike_of_capitals (hresult.symm.trans hresult'), htable.symm.trans htable'⟩

/-- Two spellings of a call, of the function that it calls and of a variable. -/
theorem evaluate_ignores_letter_case_of_call :
    ((evaluate 3 (.ofList [.atom "twice", .atom "Y"] Expr.nil) (.bind "y" (.atom "aB") .empty)
          true).run (Definitions.empty.add ⟨"Twice", ["x"],
        .ofList [.atom "Cons", .atom "X", .atom "x"] Expr.nil⟩)).result =
      .ok (.pair (.atom "aB") (.atom "aB")) ∧
    ResultsAlike
      ((evaluate 3 (.ofList [.atom "twice", .atom "Y"] Expr.nil) (.bind "y" (.atom "aB") .empty)
          true).run (Definitions.empty.add ⟨"Twice", ["x"],
        .ofList [.atom "Cons", .atom "X", .atom "x"] Expr.nil⟩)).result
      ((evaluate 3 (.ofList [.atom "tWICE", .atom "y"] (.atom "nil"))
          (.bind "Y" (.atom "Ab") .empty) true).run (Definitions.empty.add ⟨"TWICE", ["X"],
        .ofList [.atom "cons", .atom "x", .atom "X"] Expr.nil⟩)).result :=
  ⟨by decide +kernel, (evaluate_ignores_letter_case (by decide +kernel) (by decide +kernel)
    (by decide +kernel) 3 true).1⟩

end PairLisp
