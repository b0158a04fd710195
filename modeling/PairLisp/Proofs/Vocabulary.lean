import PairLisp.Proofs.Correspondence

/-!
# What evaluation can build

Evaluation takes values apart and puts them together, but the only atoms it makes itself are `T`,
`NIL` and numerals. So a condition that holds of these and of all atoms it starts from holds of all
atoms of every value it comes to, and the texts that its errors quote are under control in the same
way. The route:

* a `Vocabulary` is such a condition, on the tokens of atoms and on the names in errors, and it says
  whether there may be blanks;
* `Within` says of expressions, environments, tables and errors that they keep to a vocabulary. The
  error of evaluating a blank needs one that allows blanks, and a misuse keeps to none;
* every primitive keeps to the vocabulary of its arguments (`within_apply`), and so do the checks on
  a form (`within_of_shape_settled`);
* an evaluation is compared with itself: the values that correspond are those within the vocabulary
  (`sound_within`), and forms of the session are added at the end (`within_evaluate`).
-/

namespace PairLisp

/-- A condition on atoms, and one on the names in errors, that evaluation cannot break. -/
structure Vocabulary where
  /-- The tokens that atoms may have. -/
  atoms : String → Prop
  /-- The names that errors may give. -/
  names : String → Prop
  /-- Whether blanks are allowed. -/
  blanks : Prop
  /-- An error may name any atom. -/
  names_of_atoms : ∀ {token}, atoms token → names token
  truth : atoms "T"
  nil : atoms "NIL"
  /-- The numerals that arithmetic results in. -/
  numeral : ∀ n, Numeral.fits (Numeral.ofInt n) = true → atoms (Numeral.ofInt n)
  /-- An error may name any primitive. -/
  label : ∀ p : Primitive, names p.label
  quote : names "QUOTE"

/-- The vocabulary of everything but blanks. -/
def Vocabulary.all : Vocabulary where
  atoms _ := True
  names _ := True
  blanks := False
  names_of_atoms _ := trivial
  truth := trivial
  nil := trivial
  numeral _ _ := trivial
  label _ := trivial
  quote := trivial

variable {v : Vocabulary}

/-! ## Expressions -/

namespace Expr

/-- All atoms are within the vocabulary, and blanks are in the expression only if it allows them. -/
def Within (v : Vocabulary) (e : Expr) : Prop :=
  e.ComposedOf v.atoms v.blanks

/-- What holds of a list holds of its items. -/
theorem Within.of_proper {e item : Expr} {items : List Expr} (h : e.Within v)
    (hproper : e.Proper items) (hitem : item ∈ items) : item.Within v :=
  ComposedOf.of_part h (part_of_proper hproper hitem)

end Expr

/-! ## Environments and tables -/

namespace Env

/-- All values are within the vocabulary. -/
def Within (v : Vocabulary) (env : Env) : Prop :=
  ∀ binding ∈ env.bindings, binding.2.Within v

theorem within_empty (v : Vocabulary) : Env.empty.Within v := by
  intro binding hbinding
  cases hbinding

theorem Within.bind {env : Env} (h : env.Within v) (name : String) {value : Expr}
    (hvalue : value.Within v) : (Env.bind name value env).Within v := by
  rw [Within, bindings_bind]
  exact List.forall_mem_cons.mpr ⟨hvalue, h⟩

/-- What is bound to a name is one of the values. -/
theorem Within.lookup? {env : Env} {token : String} {value : Expr} (h : env.Within v)
    (hvalue : env.lookup? token = some value) : value.Within v := by
  induction env with
  | empty => cases hvalue
  | bind name bound outer ih =>
      rw [Within, bindings_bind] at h
      obtain ⟨hbound, houter⟩ := List.forall_mem_cons.mp h
      rw [lookup?_bind] at hvalue
      by_cases hname : Symbol.key name = Symbol.key token
      · rw [if_pos hname] at hvalue
        cases hvalue
        exact hbound
      · rw [if_neg hname] at hvalue
        exact ih houter hvalue

/-- Arguments that keep to the vocabulary can be bound. -/
theorem Within.extend {env : Env} (h : env.Within v) (names : List String) {values : List Expr}
    (hvalues : ∀ value ∈ values, value.Within v) : (env.extend names values).Within v := by
  induction names generalizing env values with
  | nil => exact h
  | cons name names ih =>
      cases values with
      | nil => exact h
      | cons value values =>
          obtain ⟨hvalue, hvalues⟩ := List.forall_mem_cons.mp hvalues
          exact ih (h.bind name hvalue) hvalues

end Env

/-- The body is within the vocabulary, and errors may give the name. -/
def Definition.Within (v : Vocabulary) (d : Definition) : Prop :=
  v.names d.name ∧ d.body.Within v

/-- All definitions in force are within the vocabulary. -/
def Definitions.Within (v : Vocabulary) (defs : Definitions) : Prop :=
  ∀ name d, defs.get? name = some d → d.Within v

theorem Definitions.within_empty (v : Vocabulary) : Definitions.empty.Within v := by
  intro name d hd
  cases hd

/-- A definition that keeps to the vocabulary can be added. -/
theorem Definitions.Within.add {defs : Definitions} (h : defs.Within v) {d : Definition}
    (hd : d.Within v) : (defs.add d).Within v := by
  intro name found hfound
  rw [get?_add] at hfound
  split at hfound
  · cases hfound
    exact hd
  · exact h name found hfound

/-! ## Errors -/

/-- The fault lies in the clauses. -/
def ClauseFault.Within : ClauseFault → Prop
  | .atomic | .improper | .notTestResult => True
  | .misuse _ => False

/-- The fault lies in the definition, and the parameter that is refused, if one is, is within the
    vocabulary. -/
def DefunFault.Within (v : Vocabulary) : DefunFault → Prop
  | .form | .name | .parameterList => True
  | .parameter given => given.Within v
  | .misuse _ => False

/-- An error is no misuse, and what it quotes is within the vocabulary. -/
def EvalError.Within (v : Vocabulary) : EvalError → Prop
  | .illegalFunctionName head => head.Within v
  | .malformedDefun fault => fault.Within v
  | .invalidIdentifier name | .unboundIdentifier name | .badArguments name
  | .arityMismatch name _ _ | .operandNotPair name | .atomsOnly name | .nonIntegerOperand name
  | .integerTooLarge name | .divisionByZero name | .undefinedFunction name => v.names name
  | .malformedConditional fault => fault.Within
  | .nestedDefunForbidden | .noMatchingClause | .recursionDepthExceeded => True
  | .blankForm => v.blanks
  | .misuse _ => False

/-- A value, or an error, that is within the vocabulary. -/
def ResultWithin (v : Vocabulary) : Except EvalError Expr → Prop
  | .ok value => value.Within v
  | .error cause => cause.Within v

/-! ## Primitives and definitions -/

/-- **Primitives keep to the vocabulary of their arguments.** -/
theorem Primitive.within_apply (p : Primitive) {args : List Expr}
    (hargs : ∀ x ∈ args, x.Within v) : ResultWithin v (p.apply args) := by
  have happlies : p.Applies args (p.apply args) := applies_iff.mpr rfl
  generalize p.apply args = r at happlies
  cases happlies with
  | car => exact (hargs _ List.mem_cons_self).1
  | cdr => exact (hargs _ List.mem_cons_self).2
  | cons => exact ⟨hargs _ List.mem_cons_self, hargs _ (List.mem_cons_of_mem _ List.mem_cons_self)⟩
  | same | holds | compares => exact v.truth
  | different | fails | comparesNot => exact v.nil
  | result _ _ _ hfits => exact v.numeral _ hfits
  | notAtoms => exact v.label .eq
  | arity | notPair | notIntegers | operandTooLarge | zeroDivisor | resultTooLarge =>
      exact v.label p

/-- What the operands of a `DEFUN` form describe is within their vocabulary. -/
theorem Definition.within_of_ofOperands {tail : Expr} (h : tail.Within v) {d : Definition}
    (hd : ofOperands tail = .ok d) : v.atoms d.name ∧ d.Within v := by
  cases describes_iff.mpr hd with
  | definition hproper _ _ _ =>
      have hname : v.atoms _ := h.of_proper hproper List.mem_cons_self
      exact ⟨hname, v.names_of_atoms hname, h.of_proper hproper (by simp)⟩

/-- And so is what is wrong with them. -/
theorem Definition.fault_within_of_ofOperands {tail : Expr} (h : tail.Within v)
    {fault : DefunFault} (hfault : ofOperands tail = .error fault) : fault.Within v := by
  cases describes_iff.mpr hfault with
  | form | name | parameterList => trivial
  | parameter hproper _ hformals _ _ =>
      have hlist := h.of_proper hproper (List.mem_cons_of_mem _ List.mem_cons_self)
      exact hlist.of_proper hformals (by simp)

namespace Eval

/-! ## The checks on a form -/

/-- The value of an atom keeps to the vocabulary, as do the errors about it. -/
theorem within_atom {token : String} {env : Env} (htoken : v.atoms token) (henv : env.Within v) :
    ResultWithin v (atom token env) := by
  rw [atom]
  split
  · exact htoken
  · split
    · exact v.truth
    · split
      · exact v.nil
      · split
        · split
          · next hvalue => exact henv.lookup? hvalue
          · exact v.names_of_atoms htoken
        · exact v.names_of_atoms htoken

/-- What is quoted keeps to the vocabulary. -/
theorem within_quote {tail : Expr} (h : tail.Within v) : ResultWithin v (quote tail) := by
  rw [quote_eq]
  split
  · next hlist => exact h.of_proper (Expr.toList?_eq_some_iff.mp hlist) List.mem_cons_self
  · exact v.quote

/-- What is wrong with clauses is never a misuse. -/
theorem within_of_clauses {tail : Expr} {fault : ClauseFault} (h : clauses tail = .error fault) :
    fault.Within := by
  cases clauses_iff.mpr h <;> trivial

/-- What the checks on a form settle is within the vocabulary. -/
theorem within_of_shape_settled {defs : Definitions} {e : Expr} {env : Env}
    {r : Except EvalError Expr} (he : e.Within v) (henv : env.Within v)
    (h : shape defs e env = .settled r) : ResultWithin v r := by
  match e with
  | .atom token =>
      cases h
      exact within_atom he henv
  | .blank =>
      cases h
      exact he
  | .pair .blank tail =>
      cases h
      exact he.1
  | .pair (.pair first rest) tail =>
      cases h
      exact he.1
  | .pair (.atom name) tail =>
      rw [shape] at h
      split at h
      · cases h
        exact within_quote he.2
      · rw [conditionalShape] at h
        split at h
        · next hfault =>
            cases h
            exact within_of_clauses hfault
        · cases h
      · cases h
        trivial
      · rw [callShape] at h
        split at h
        · cases h
          exact v.names_of_atoms he.1
        · split at h
          · cases h
            exact v.names_of_atoms he.1
          · cases h

/-! ## Evaluation -/

/-- An evaluation beside itself, with the values and errors within the vocabulary. -/
def within (v : Vocabulary) : Matching where
  excused _ := False
  errors cause cause' := cause = cause' ∧ cause.Within v
  values value value' := value = value' ∧ value.Within v
  forms e env e' env' := (e = e' ∧ env = env') ∧ e.Within v ∧ env.Within v

theorem answers_within_iff {r : Except EvalError Expr} :
    (within v).Answers (within v).values r r ↔ ResultWithin v r := by
  constructor
  · intro h
    cases h with
    | value hvalue => exact hvalue.2
    | error hcause => exact hcause.2
    | excused hcause => exact False.elim hcause
  · intro h
    cases r with
    | ok value => exact .value ⟨rfl, h⟩
    | error cause => exact .error ⟨rfl, h⟩

/-- A function leads from arguments within the vocabulary to a result or a body within it. -/
theorem functions_within {f : Function} {env : Env} (henv : env.Within v)
    (hf : ∀ d, f = .defined d → d.Within v) : (within v).Functions env env f f := by
  intro args args' hargs
  obtain ⟨rfl, hwithin⟩ : args = args' ∧ ∀ x ∈ args, x.Within v := by
    induction hargs with
    | nil => exact ⟨rfl, by simp⟩
    | cons hvalue _ ih =>
        obtain ⟨rfl, hvalue⟩ := hvalue
        obtain ⟨rfl, hvalues⟩ := ih
        exact ⟨rfl, by simpa using ⟨hvalue, hvalues⟩⟩
  cases f with
  | primitive p => exact .settled (answers_within_iff.mpr (p.within_apply hwithin))
  | defined d =>
      obtain ⟨hname, hbody⟩ := hf d rfl
      by_cases hlen : args.length = d.arity
      · simp only [enter, Definition.bindArguments, if_pos hlen]
        exact .body ⟨⟨rfl, rfl⟩, hbody, henv.extend d.formals hwithin⟩
      · simp only [enter, Definition.bindArguments, if_neg hlen]
        exact .settled (.error ⟨rfl, hname⟩)

/-- **Evaluation keeps to the vocabulary** of its form, its environment and its table. -/
theorem sound_within {defs : Definitions} (hdefs : defs.Within v) :
    (within v).Sound defs defs where
  isTrue h := congrArg Expr.isTrue h.1
  noMatchingClause := ⟨rfl, trivial⟩
  shapes := by
    rintro e env _ _ ⟨⟨rfl, rfl⟩, he, henv⟩
    have hparts : ∀ part ∈ (shape defs e env).parts, (within v).forms part env part env := by
      intro part hpart
      obtain ⟨head, tail, rfl, htail⟩ := part_of_mem_parts hpart
      exact ⟨⟨rfl, rfl⟩, Expr.ComposedOf.of_part he (.rest htail), henv⟩
    cases hs : shape defs e env with
    | settled r => exact .settled (answers_within_iff.mpr (within_of_shape_settled he henv hs))
    | clauses cs =>
        rw [hs] at hparts
        refine .clauses (List.forall₂_same.mpr fun clause hclause => ?_)
        have hboth : ∀ part ∈ [clause.1, clause.2], (within v).forms part env part env :=
          fun part hpart => hparts part (List.mem_flatMap.mpr ⟨clause, hclause, hpart⟩)
        exact ⟨hboth _ (by simp), hboth _ (by simp)⟩
    | call f items =>
        rw [hs] at hparts
        refine .call (functions_within henv ?_) (List.forall₂_same.mpr hparts)
        rintro d rfl
        obtain ⟨name, hd⟩ := get?_of_shape_call hs
        exact hdefs name d hd

/-- **Evaluation keeps to the vocabulary** of the form, the environment and the table. -/
theorem within_answer {defs : Definitions} (hdefs : defs.Within v) (depth : Nat) {e : Expr}
    {env : Env} (he : e.Within v) (henv : env.Within v) :
    ResultWithin v (answer defs depth e env) :=
  answers_within_iff.mp (Matching.answers_answer (sound_within hdefs)
    (.inl ⟨rfl, rfl, trivial⟩) ⟨⟨rfl, rfl⟩, he, henv⟩)

/-- A `DEFUN` form of the session, too, keeps to the vocabulary. -/
theorem within_define {defs : Definitions} (hdefs : defs.Within v) {tail : Expr}
    (h : tail.Within v) (top : Bool) :
    ResultWithin v ((define tail top).run defs).result ∧
      ((define tail top).run defs).defs.Within v := by
  cases top with
  | false => exact ⟨trivial, hdefs⟩
  | true =>
      cases hd : Definition.ofOperands tail with
      | error fault =>
          simp only [define, hd]
          exact ⟨Definition.fault_within_of_ofOperands h hd, hdefs⟩
      | ok d =>
          obtain ⟨hname, hwithin⟩ := Definition.within_of_ofOperands h hd
          obtain ⟨hresult, htable⟩ := run_define_accepted hd defs
          rw [hresult, htable]
          exact ⟨hname, hdefs.add hwithin⟩

end Eval

open Eval

/-- **What is evaluated within a vocabulary leads to results within it**, and to a table within
    it. -/
theorem within_evaluate {defs : Definitions} (hdefs : defs.Within v) {e : Expr} {env : Env}
    (he : e.Within v) (henv : env.Within v) (depth : Nat) (top : Bool) :
    ResultWithin v ((evaluate depth e env top).run defs).result ∧
      ((evaluate depth e env top).run defs).defs.Within v := by
  by_cases hform : IsDefun e
  · obtain ⟨name, tail, rfl, hkey⟩ := hform
    cases depth with
    | zero => exact ⟨trivial, hdefs⟩
    | succ below =>
        rw [evaluate, step_defun (evaluate below) tail env top hkey]
        exact within_define hdefs he.2 top
  · obtain ⟨hresult, htable⟩ := run_evaluate_of_not_isDefun hform depth env top defs
    rw [hresult, htable]
    exact ⟨within_answer hdefs depth he henv, hdefs⟩

end PairLisp
