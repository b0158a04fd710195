import PairLisp.Proofs.Rules

/-!
# The evaluator and the rules agree

`evaluate` computes what the rules of evaluation allow: a conclusion other than running out of
levels is reached within some number of levels exactly when it is derivable, and no form has two
conclusions. The route:

* `Action.conclude` forgets the record of an outcome and, in the case of an error, its table. It
  turns sequencing into `Conclusion.andThen`, so that a run is followed conclusion by conclusion;
* soundness goes by induction on the number of levels. What one level concludes is derivable from
  what the level below concludes (`explained_step`), unless the levels run out;
* completeness goes by induction on the derivation. A judgement is `Settled` when all numbers of
  levels from some bound on give its conclusion; the bound of a rule is assembled from the bounds
  of its premises (`settled_of_derivable`);
* uniqueness follows from completeness, since two settled conclusions meet at the larger bound.
-/

namespace PairLisp

/-! ## Conclusions of actions -/

namespace Conclusion

variable {α β : Type}

/-- A conclusion, and then what is concluded from its value and its table. -/
def andThen : Conclusion α → (α → Definitions → Conclusion β) → Conclusion β
  | .value a defs, f => f a defs
  | .error cause, _ => .error cause

@[simp] theorem value_andThen (a : α) (defs : Definitions)
    (f : α → Definitions → Conclusion β) : (value a defs).andThen f = f a defs := rfl

@[simp] theorem error_andThen (cause : EvalError) (f : α → Definitions → Conclusion β) :
    (error cause : Conclusion α).andThen f = .error cause := rfl

@[simp] theorem ofExcept_ok (a : α) (defs : Definitions) :
    ofExcept defs (.ok a) = .value a defs := rfl

@[simp] theorem ofExcept_error (cause : EvalError) (defs : Definitions) :
    ofExcept defs (.error cause : Except EvalError α) = .error cause := rfl

end Conclusion

namespace Action

variable {α β : Type}

/-- What an action concludes from a table. -/
def conclude (m : Action α) (defs : Definitions) : Conclusion α :=
  .ofExcept (m.run defs).defs (m.run defs).result

/-- An action concludes in an error if its result is that error, whatever it did before. -/
theorem conclude_eq_error_iff {m : Action α} {defs : Definitions} {cause : EvalError} :
    m.conclude defs = .error cause ↔ (m.run defs).result = .error cause := by
  rw [conclude]
  cases (m.run defs).result with
  | ok a => simp [Conclusion.ofExcept]
  | error fault => simp [Conclusion.ofExcept]

@[simp] theorem conclude_pure (a : α) (defs : Definitions) :
    (pure a : Action α).conclude defs = .value a defs := rfl

@[simp] theorem conclude_fail (cause : EvalError) (defs : Definitions) :
    (fail cause : Action α).conclude defs = .error cause := rfl

@[simp] theorem conclude_ofExcept (result : Except EvalError α) (defs : Definitions) :
    (ofExcept result).conclude defs = .ofExcept defs result := rfl

@[simp] theorem conclude_definitions (defs : Definitions) :
    definitions.conclude defs = .value defs defs := rfl

@[simp] theorem conclude_record (event : Event) (defs : Definitions) :
    (record event).conclude defs = .value () defs := rfl

/-- One action after another concludes like the second one, from where the first one ended. -/
@[simp] theorem conclude_bind (m : Action α) (f : α → Action β) (defs : Definitions) :
    (m >>= f).conclude defs =
      (m.conclude defs).andThen fun a defs' => (f a).conclude defs' := by
  simp only [conclude, run_bind, follow]
  cases (m.run defs).result with
  | ok a => rfl
  | error cause => rfl

end Action

namespace Rules

open Eval

/-! ## One level in the words of the rules -/

/-- The check for truth lets exactly the atoms pass that stand for truth. -/
theorem holds_iff {value : Expr} : value.isTrue = true ↔ Holds value := by
  cases value with
  | atom token => simp [Expr.isTrue, Symbol.isTrue, Holds]
  | pair _ _ => simp [Expr.isTrue, Holds]
  | blank => simp [Expr.isTrue, Holds]

/-- A plain token does not stand for truth. -/
theorem Plain.isTrue_eq_false {token : String} (h : Plain token) :
    Symbol.isTrue token = false := by
  simp [Symbol.isTrue, h.notTruth]

/-- A plain token does not stand for the empty list. -/
theorem Plain.isNil_eq_false {token : String} (h : Plain token) :
    Symbol.isNil token = false := by
  simp [Symbol.isNil, h.notNil]

/-- The first check of a call lets exactly the callable names pass. -/
theorem callable_iff {name : String} {defs : Definitions} :
    ((Primitive.ofName? name).isSome || defs.contains name) = true ↔ Callable name defs := by
  rw [Bool.or_eq_true, Option.isSome_iff_exists, Definitions.contains, Option.isSome_iff_exists]
  exact or_congr (exists_congr fun p => Primitive.ofName?_eq_some_iff) Iff.rfl

/-- No primitive is found under a name just if none has it. -/
theorem ofName?_eq_none_iff {name : String} :
    Primitive.ofName? name = none ↔ NoPrimitive name := by
  rw [Option.eq_none_iff_forall_ne_some]
  exact forall_congr' fun p => not_congr Primitive.ofName?_eq_some_iff

/-- A quotation needs exactly one operand. -/
theorem quote_of_not_proper {tail : Expr} (h : ∀ e, ¬ tail.Proper [e]) :
    Eval.quote tail = .error (.arityMismatch "QUOTE" 1 tail.length) := by
  rw [Eval.quote_eq]
  split
  · next e he => exact absurd (Expr.toList?_eq_some_iff.mp he) (h e)
  · rfl

section Level

variable (eval : Evaluator) (env : Env) (defs : Definitions)

/-- Operands are evaluated from left to right. -/
theorem conclude_each_cons (e : Expr) (rest : List Expr) :
    (each eval env (e :: rest)).conclude defs =
      ((eval e env false).conclude defs).andThen fun value defs' =>
        ((each eval env rest).conclude defs').andThen fun values defs'' =>
          .value (value :: values) defs'' := by
  simp [each]

/-- The first clause is chosen if its test comes out true, and otherwise the rest is looked
    through. -/
theorem conclude_select_cons (test result : Expr) (rest : List (Expr × Expr)) :
    (select eval env ((test, result) :: rest)).conclude defs =
      ((eval test env false).conclude defs).andThen fun value defs' =>
        if value.isTrue = true then (eval result env false).conclude defs'
        else (select eval env rest).conclude defs' := by
  simp only [select, Action.conclude_bind]
  congr 1
  funext value defs'
  split <;> rfl

/-- A call whose operands are no list fails before any of them is evaluated. -/
theorem conclude_operands_improper {tail : Expr} (name : String)
    (h : ∀ items, ¬ tail.Proper items) :
    (operands eval name tail env).conclude defs = .error (.badArguments name) := by
  simp [operands, Expr.toList?_eq_none_iff.mpr h]

/-- The operands of a call are the items of its list. -/
theorem conclude_operands_proper {tail : Expr} {items : List Expr} (name : String)
    (h : tail.Proper items) :
    (operands eval name tail env).conclude defs = (each eval env items).conclude defs := by
  simp [operands, Expr.toList?_eq_some_iff.mpr h]

/-- A function of the table is applied by evaluating its body with the arguments bound. -/
theorem conclude_applyDefinition (d : Definition) (args : List Expr) :
    (applyDefinition eval d args env).conclude defs =
      if args.length = d.formals.length then
        (eval d.body (env.extend d.formals args) false).conclude defs
      else .error (.arityMismatch d.name d.formals.length args.length) := by
  by_cases h : args.length = d.formals.length
  · simp [applyDefinition, Definition.bindArguments, Definition.arity, h]
  · simp [applyDefinition, Definition.bindArguments, Definition.arity, h]

/-- A name that nothing is known under is refused before the operands are looked at. -/
theorem conclude_call_undefined {name : String} (tail : Expr) (h : ¬ Callable name defs) :
    (call eval name tail env).conclude defs = .error (.undefinedFunction name) := by
  have hcheck := mt callable_iff.mp h
  simp only [call, Action.conclude_bind, Action.conclude_definitions,
    Conclusion.value_andThen, if_neg hcheck, Action.conclude_fail]

/-- A primitive is applied to what its operands evaluate to. -/
theorem conclude_call_primitive {name : String} {p : Primitive} (tail : Expr)
    (h : Symbol.key name = p.label) :
    (call eval name tail env).conclude defs =
      ((operands eval name tail env).conclude defs).andThen fun args defs' =>
        .ofExcept defs' (p.apply args) := by
  have hp := Primitive.ofName?_eq_some_iff.mpr h
  simp [call, apply, hp]

/-- A function of the table is applied to what its operands evaluate to. Operands leave the table
    as it is, so the definition is still there behind them. -/
theorem conclude_call_definition (heval : ∀ e env, (eval e env false).KeepsTable)
    {name : String} {d : Definition} (tail : Expr) (hp : NoPrimitive name)
    (hd : defs.get? name = some d) :
    (call eval name tail env).conclude defs =
      ((operands eval name tail env).conclude defs).andThen fun args defs' =>
        (applyDefinition eval d args env).conclude defs' := by
  rw [call_eq_callOnce heval]
  simp [callOnce, ofName?_eq_none_iff.mpr hp, hd]

/-- If the operands fail, the call fails in the same way, whatever its name stands for. -/
theorem conclude_call_of_operands_error {name : String} {tail : Expr} {cause : EvalError}
    (hcall : Callable name defs)
    (h : (operands eval name tail env).conclude defs = .error cause) :
    (call eval name tail env).conclude defs = .error cause := by
  simp only [call, Action.conclude_bind, Action.conclude_definitions,
    Conclusion.value_andThen, if_pos (callable_iff.mpr hcall), h, Conclusion.error_andThen]

end Level

/-! ## Soundness -/

/-- What the evaluator concludes is derivable, or it has run out of levels. -/
def Explained (eval : Evaluator) : Prop :=
  ∀ e env defs top, (eval e env top).conclude defs = .error .recursionDepthExceeded ∨
    Derivable (.expression e env defs top ((eval e env top).conclude defs))

section Soundness

variable {eval : Evaluator} (heval : Explained eval)
include heval

/-- The first operand decides whether there is a failure to report; the others follow from the
    table that it left. -/
theorem explained_each (env : Env) (items : List Expr) : ∀ defs,
    (each eval env items).conclude defs = .error .recursionDepthExceeded ∨
      Derivable (.operands items env defs ((each eval env items).conclude defs)) := by
  induction items with
  | nil =>
      intro defs
      exact .inr .noOperand
  | cons e rest ih =>
      intro defs
      rw [conclude_each_cons]
      rcases heval e env defs false with h | h
      · exact .inl (by rw [h]; rfl)
      · cases hc : (eval e env false).conclude defs with
        | error cause =>
            rw [hc] at h
            exact .inr (.firstFails h)
        | value value defs' =>
            rw [hc] at h
            rw [Conclusion.value_andThen]
            rcases ih defs' with h' | h'
            · exact .inl (by rw [h']; rfl)
            · cases hc' : (each eval env rest).conclude defs' with
              | error cause =>
                  rw [hc'] at h'
                  exact .inr (.laterFails h h')
              | value values defs'' =>
                  rw [hc'] at h'
                  exact .inr (.evaluated h h')

/-- Where evaluation is explained, so is the choice of a clause. -/
theorem explained_select (env : Env) (clauses : List (Expr × Expr)) : ∀ defs,
    (select eval env clauses).conclude defs = .error .recursionDepthExceeded ∨
      Derivable (.clauses clauses env defs ((select eval env clauses).conclude defs)) := by
  induction clauses with
  | nil =>
      intro defs
      exact .inr .noClause
  | cons clause rest ih =>
      intro defs
      obtain ⟨test, result⟩ := clause
      rw [conclude_select_cons]
      rcases heval test env defs false with h | h
      · exact .inl (by rw [h]; rfl)
      · cases hc : (eval test env false).conclude defs with
        | error cause =>
            rw [hc] at h
            exact .inr (.testFails h)
        | value value defs' =>
            rw [hc] at h
            rw [Conclusion.value_andThen]
            by_cases hv : value.isTrue = true
            · rw [if_pos hv]
              exact (heval result env defs' false).imp_right (.selected h (holds_iff.mp hv))
            · rw [if_neg hv]
              exact (ih defs').imp_right (.skipped h (mt holds_iff.mpr hv))

omit heval in
/-- The value or the error of an atom is derivable. -/
theorem derivable_atom (token : String) (env : Env) (defs : Definitions) (top : Bool) :
    Derivable (.expression (.atom token) env defs top (.ofExcept defs (atom token env))) := by
  rw [atom]
  cases hn : Numeral.isNumeral token with
  | true => exact .integer hn
  | false =>
      by_cases ht : Symbol.key token = "T"
      · simp only [Symbol.isTrue, ht]
        exact .truth hn ht
      · by_cases hnil : Symbol.key token = "NIL"
        · simp only [Symbol.isTrue, Symbol.isNil, hnil]
          exact .null hn hnil
        · have hplain : Plain token := ⟨hn, ht, hnil⟩
          simp only [hplain.isTrue_eq_false, hplain.isNil_eq_false]
          cases hid : Symbol.isIdentifier token with
          | false => exact .invalid hplain hid
          | true =>
              cases hv : env.lookup? token with
              | none => exact .unbound hplain hid hv
              | some value => exact .bound hplain hid hv

/-- A call of an ordinary name: the name, then the shape of the operands, then the operands, then
    the application are looked at, and each of them may end it. -/
theorem explained_call (hkeep : ∀ e env, (eval e env false).KeepsTable) {name : String}
    (hname : Ordinary name) (tail : Expr) (env : Env) (defs : Definitions) (top : Bool) :
    (call eval name tail env).conclude defs = .error .recursionDepthExceeded ∨
      Derivable (.expression (.pair (.atom name) tail) env defs top
        ((call eval name tail env).conclude defs)) := by
  by_cases hcall : Callable name defs
  · by_cases htail : ∃ items, tail.Proper items
    · obtain ⟨items, hitems⟩ := htail
      have hops := conclude_operands_proper eval env defs name hitems
      rcases explained_each heval env items defs with h | h
      · exact .inl (conclude_call_of_operands_error eval env defs hcall (hops.trans h))
      · cases hc : (each eval env items).conclude defs with
        | error cause =>
            rw [hc] at h hops
            rw [conclude_call_of_operands_error eval env defs hcall hops]
            exact .inr (.operandError hname hcall hitems h)
        | value args defs' =>
            rw [hc] at h hops
            by_cases hprim : NoPrimitive name
            · obtain ⟨d, hd⟩ := hcall.resolve_left fun ⟨p, hp⟩ => hprim p hp
              rw [conclude_call_definition eval env defs hkeep tail hprim hd, hops,
                Conclusion.value_andThen, conclude_applyDefinition]
              by_cases hlen : args.length = d.formals.length
              · rw [if_pos hlen]
                exact (heval d.body _ defs' false).imp_right
                  (.call hname hprim hd hitems h hlen)
              · rw [if_neg hlen]
                exact .inr (.wrongArity hname hprim hd hitems h hlen)
            · obtain ⟨p, hp⟩ := Classical.not_forall_not.mp hprim
              rw [conclude_call_primitive eval env defs tail hp, hops]
              exact .inr (.primitive hname hp hitems h (Primitive.applies_iff.mpr rfl))
    · have himproper : ∀ items, ¬ tail.Proper items := fun items h => htail ⟨items, h⟩
      rw [conclude_call_of_operands_error eval env defs hcall
        (conclude_operands_improper eval env defs name himproper)]
      exact .inr (.badArguments hname hcall himproper)
  · rw [conclude_call_undefined eval env defs tail hcall]
    exact .inr (.undefined hname hcall)

omit heval in
/-- The value or the error of a quotation is derivable. -/
theorem derivable_quote {name : String} (hname : Symbol.key name = "QUOTE") (tail : Expr)
    (env : Env) (defs : Definitions) (top : Bool) :
    Derivable (.expression (.pair (.atom name) tail) env defs top
      (.ofExcept defs (quote tail))) := by
  by_cases h : ∃ e, tail.Proper [e]
  · obtain ⟨e, he⟩ := h
    simp only [quote_eq, Expr.toList?_eq_some_iff.mpr he]
    exact .quote hname he
  · have hnone : ∀ e, ¬ tail.Proper [e] := fun e he => h ⟨e, he⟩
    rw [quote_of_not_proper hnone]
    exact .quoteArity hname hnone

/-- Where evaluation is explained, so is a conditional. -/
theorem explained_conditional {name : String} (hname : Symbol.key name = "COND") (tail : Expr)
    (env : Env) (defs : Definitions) (top : Bool) :
    (conditional eval tail env).conclude defs = .error .recursionDepthExceeded ∨
      Derivable (.expression (.pair (.atom name) tail) env defs top
        ((conditional eval tail env).conclude defs)) := by
  rw [conditional]
  cases hc : clauses tail with
  | error fault => exact .inr (.malformedConditional hname (clauses_iff.mpr hc))
  | ok clauses =>
      exact (explained_select heval env clauses defs).imp_right
        (.conditional hname (clauses_iff.mpr hc))

omit heval in
/-- What a definition comes to is derivable, at the top and inside another form. -/
theorem derivable_define {name : String} (hname : Symbol.key name = "DEFUN") (tail : Expr)
    (env : Env) (defs : Definitions) (top : Bool) :
    Derivable (.expression (.pair (.atom name) tail) env defs top
      ((define tail top).conclude defs)) := by
  cases top with
  | false => exact .nestedDefun hname
  | true =>
      cases hd : Definition.ofOperands tail with
      | error fault =>
          simp only [define, hd]
          exact .malformedDefun hname (Definition.describes_iff.mpr hd)
      | ok d =>
          obtain ⟨hresult, htable⟩ := run_define_accepted hd defs
          simp only [Action.conclude, hresult, htable]
          exact .defun hname (Definition.describes_iff.mpr hd)

/-- **One level is sound** if the level below is. -/
theorem explained_step (hkeep : ∀ e env, (eval e env false).KeepsTable) :
    Explained (step eval) := by
  intro e env defs top
  cases e with
  | atom token => exact .inr (derivable_atom token env defs top)
  | blank => exact .inr .blank
  | pair head tail =>
      cases head with
      | blank => exact .inr (.illegalHead (by simp))
      | pair first rest => exact .inr (.illegalHead (by simp))
      | atom name =>
          by_cases hname : Ordinary name
          · rw [step_call eval tail env top hname]
            exact explained_call heval hkeep hname tail env defs top
          · obtain ⟨form, hkey⟩ := Classical.not_forall_not.mp hname
            cases form with
            | quote =>
                rw [step_quote eval tail env top hkey]
                exact .inr (derivable_quote hkey tail env defs top)
            | cond =>
                rw [step_cond eval tail env top hkey]
                exact explained_conditional heval hkey tail env defs top
            | defun =>
                rw [step_defun eval tail env top hkey]
                exact .inr (derivable_define hkey tail env defs top)

end Soundness

/-- **Soundness.** What evaluation concludes within some number of levels is derivable, unless the
    levels ran out. -/
theorem explained_evaluate (depth : Nat) : Explained (evaluate depth) := by
  induction depth with
  | zero =>
      intro e env defs top
      exact .inl rfl
  | succ depth ih => exact explained_step ih (keepsTable_evaluate depth)

/-! ## Completeness -/

/-- Evaluation within `depth` levels has the conclusion of the judgement. Operands and clauses
    are evaluated with that number of levels for each of their expressions. -/
def Reached (depth : Nat) : Judgment → Prop
  | .expression e env defs top c => (evaluate depth e env top).conclude defs = c
  | .operands items env defs c => (each (evaluate depth) env items).conclude defs = c
  | .clauses clauses env defs c => (select (evaluate depth) env clauses).conclude defs = c

/-- From some number of levels on, evaluation has the conclusion of the judgement. -/
def Settled (j : Judgment) : Prop :=
  ∃ bound, ∀ depth ≥ bound, Reached depth j

/-- Two settled judgements are reached together from the larger bound on. -/
theorem Settled.both {j j' : Judgment} (h : Settled j) (h' : Settled j') :
    ∃ bound, ∀ depth ≥ bound, Reached depth j ∧ Reached depth j' := by
  obtain ⟨bound, hbound⟩ := h
  obtain ⟨bound', hbound'⟩ := h'
  exact ⟨max bound bound', fun depth hdepth =>
    ⟨hbound depth (by omega), hbound' depth (by omega)⟩⟩

/-- What every depth carries over from one judgment to another settles the other one too. -/
theorem Settled.mono {j k : Judgment} (h : Settled j)
    (hk : ∀ depth, Reached depth j → Reached depth k) : Settled k := by
  obtain ⟨bound, hbound⟩ := h
  exact ⟨bound, fun depth hdepth => hk depth (hbound depth hdepth)⟩

/-- A judgment that rests on two others is settled from the larger of their depths on. -/
theorem Settled.mono_both {j j' k : Judgment} (h : Settled j) (h' : Settled j')
    (hk : ∀ depth, Reached depth j → Reached depth j' → Reached depth k) : Settled k := by
  obtain ⟨bound, hbound⟩ := h.both h'
  exact ⟨bound, fun depth hdepth => hk depth (hbound depth hdepth).1 (hbound depth hdepth).2⟩

/-! Operands and clauses need no level of their own: they are reached where their parts are. -/

section Reached

variable {depth : Nat} {env : Env} {defs defs' defs'' : Definitions}

/-- An operand that fails is the error of all operands. -/
theorem reached_firstFails {e : Expr} {rest : List Expr} {cause : EvalError}
    (h : Reached depth (.expression e env defs false (.error cause))) :
    Reached depth (.operands (e :: rest) env defs (.error cause)) := by
  have he : (evaluate depth e env false).conclude defs = .error cause := h
  show (each (evaluate depth) env (e :: rest)).conclude defs = .error cause
  rw [conclude_each_cons, he, Conclusion.error_andThen]

/-- An error among the later operands is the error of all operands. -/
theorem reached_laterFails {e value : Expr} {rest : List Expr} {cause : EvalError}
    (h : Reached depth (.expression e env defs false (.value value defs')))
    (h' : Reached depth (.operands rest env defs' (.error cause))) :
    Reached depth (.operands (e :: rest) env defs (.error cause)) := by
  have he : (evaluate depth e env false).conclude defs = .value value defs' := h
  have hrest : (each (evaluate depth) env rest).conclude defs' = .error cause := h'
  show (each (evaluate depth) env (e :: rest)).conclude defs = .error cause
  rw [conclude_each_cons, he, Conclusion.value_andThen, hrest, Conclusion.error_andThen]

/-- The values of the operands are the first one and the later ones. -/
theorem reached_evaluated {e value : Expr} {rest values : List Expr}
    (h : Reached depth (.expression e env defs false (.value value defs')))
    (h' : Reached depth (.operands rest env defs' (.value values defs''))) :
    Reached depth (.operands (e :: rest) env defs (.value (value :: values) defs'')) := by
  have he : (evaluate depth e env false).conclude defs = .value value defs' := h
  have hrest : (each (evaluate depth) env rest).conclude defs' = .value values defs'' := h'
  show (each (evaluate depth) env (e :: rest)).conclude defs = .value (value :: values) defs''
  rw [conclude_each_cons, he, Conclusion.value_andThen, hrest, Conclusion.value_andThen]

/-- A test that fails is the error of the conditional. -/
theorem reached_testFails {test result : Expr} {rest : List (Expr × Expr)} {cause : EvalError}
    (h : Reached depth (.expression test env defs false (.error cause))) :
    Reached depth (.clauses ((test, result) :: rest) env defs (.error cause)) := by
  have htest : (evaluate depth test env false).conclude defs = .error cause := h
  show (select (evaluate depth) env ((test, result) :: rest)).conclude defs = .error cause
  rw [conclude_select_cons, htest, Conclusion.error_andThen]

/-- A test that holds hands over to its result. -/
theorem reached_selected {test result value : Expr} {rest : List (Expr × Expr)}
    {c : Conclusion Expr} (hv : Holds value)
    (h : Reached depth (.expression test env defs false (.value value defs')))
    (h' : Reached depth (.expression result env defs' false c)) :
    Reached depth (.clauses ((test, result) :: rest) env defs c) := by
  have htest : (evaluate depth test env false).conclude defs = .value value defs' := h
  show (select (evaluate depth) env ((test, result) :: rest)).conclude defs = c
  rw [conclude_select_cons, htest, Conclusion.value_andThen, if_pos (holds_iff.mpr hv)]
  exact h'

/-- A test that does not hold hands over to the clauses behind it. -/
theorem reached_skipped {test result value : Expr} {rest : List (Expr × Expr)}
    {c : Conclusion Expr} (hv : ¬ Holds value)
    (h : Reached depth (.expression test env defs false (.value value defs')))
    (h' : Reached depth (.clauses rest env defs' c)) :
    Reached depth (.clauses ((test, result) :: rest) env defs c) := by
  have htest : (evaluate depth test env false).conclude defs = .value value defs' := h
  show (select (evaluate depth) env ((test, result) :: rest)).conclude defs = c
  rw [conclude_select_cons, htest, Conclusion.value_andThen, if_neg (mt holds_iff.mp hv)]
  exact h'

end Reached

/-- An expression takes one level more than what it is evaluated by. -/
theorem settled_of_step {e : Expr} {env : Env} {defs : Definitions} {top : Bool}
    {c : Conclusion Expr} (bound : Nat)
    (h : ∀ depth ≥ bound, (step (evaluate depth) e env top).conclude defs = c) :
    Settled (.expression e env defs top c) := by
  refine ⟨bound + 1, fun depth hdepth => ?_⟩
  obtain ⟨below, rfl⟩ : ∃ below, depth = below + 1 := ⟨depth - 1, by omega⟩
  exact h below (by omega)

/-- An atom takes one level, whatever it comes to. -/
theorem settled_atom {token : String} {env : Env} {defs : Definitions} {top : Bool}
    {c : Conclusion Expr} (h : .ofExcept defs (atom token env) = c) :
    Settled (.expression (.atom token) env defs top c) := by
  refine settled_of_step 0 fun depth _ => ?_
  show (Action.ofExcept (atom token env)).conclude defs = c
  rw [Action.conclude_ofExcept, h]

/-- A call of an ordinary name takes one level more than its operands and its body. -/
theorem settled_call {name : String} (hname : Ordinary name) {tail : Expr} {env : Env}
    {defs : Definitions} {c : Conclusion Expr} (top : Bool) (bound : Nat)
    (h : ∀ depth ≥ bound, (call (evaluate depth) name tail env).conclude defs = c) :
    Settled (.expression (.pair (.atom name) tail) env defs top c) := by
  refine settled_of_step bound fun depth hdepth => ?_
  rw [step_call _ tail env top hname]
  exact h depth hdepth

/-- The operands of a call, where the rules have reached those of a proper list. -/
theorem conclude_operands_of_reached {depth : Nat} {tail : Expr} {items : List Expr} {env : Env}
    {defs : Definitions} {c : Conclusion (List Expr)} (name : String) (hitems : tail.Proper items)
    (h : Reached depth (.operands items env defs c)) :
    (operands (evaluate depth) name tail env).conclude defs = c := by
  rw [conclude_operands_proper _ env defs name hitems]
  exact h

/-- **Completeness.** A derivable judgement is settled: the bound of a rule is the largest of the
    bounds of its premises, and one more for an expression. -/
theorem settled_of_derivable {j : Judgment} (h : Derivable j) : Settled j := by
  induction h with
  -- atoms, by the order of their checks
  | integer hn => exact settled_atom (by simp [atom, hn])
  | truth hn ht => exact settled_atom (by simp [atom, hn, Symbol.isTrue, ht])
  | null hn hnil => exact settled_atom (by simp [atom, hn, Symbol.isTrue, Symbol.isNil, hnil])
  | invalid hplain hid =>
      refine settled_atom ?_
      simp [atom, hplain.notNumeral, hplain.isTrue_eq_false, hplain.isNil_eq_false, hid]
  | bound hplain hid hv =>
      refine settled_atom ?_
      simp [atom, hplain.notNumeral, hplain.isTrue_eq_false, hplain.isNil_eq_false, hid, hv]
  | unbound hplain hid hv =>
      refine settled_atom ?_
      simp [atom, hplain.notNumeral, hplain.isTrue_eq_false, hplain.isNil_eq_false, hid, hv]
  | blank => exact settled_of_step 0 fun _ _ => rfl
  | @illegalHead head tail env defs top hhead =>
      refine settled_of_step 0 fun _ _ => ?_
      cases head with
      | atom name => exact absurd rfl (hhead name)
      | pair first rest => rfl
      | blank => rfl
  | @quote name tail e env defs top hname he =>
      refine settled_of_step 0 fun depth _ => ?_
      rw [step_quote _ tail env top hname]
      simp [quote_eq, Expr.toList?_eq_some_iff.mpr he]
  | @quoteArity name tail env defs top hname he =>
      refine settled_of_step 0 fun depth _ => ?_
      rw [step_quote _ tail env top hname, Action.conclude_ofExcept, quote_of_not_proper he,
        Conclusion.ofExcept_error]
  | @malformedConditional name tail env defs top fault hname hfault =>
      refine settled_of_step 0 fun depth _ => ?_
      rw [step_cond _ tail env top hname]
      simp [conditional, clauses_iff.mp hfault]
  | @conditional name tail env defs top clauses c hname hclauses _ ih =>
      obtain ⟨bound, hbound⟩ := ih
      refine settled_of_step bound fun depth hdepth => ?_
      rw [step_cond _ tail env top hname]
      simp only [Eval.conditional, clauses_iff.mp hclauses]
      exact hbound depth hdepth
  | @nestedDefun name tail env defs hname =>
      refine settled_of_step 0 fun depth _ => ?_
      rw [step_defun _ tail env false hname]
      rfl
  | @malformedDefun name tail env defs fault hname hfault =>
      refine settled_of_step 0 fun depth _ => ?_
      rw [step_defun _ tail env true hname]
      simp [define, Definition.describes_iff.mp hfault]
  | @defun name tail env defs d hname hd =>
      refine settled_of_step 0 fun depth _ => ?_
      rw [step_defun _ tail env true hname]
      obtain ⟨hresult, htable⟩ := run_define_accepted (Definition.describes_iff.mp hd) defs
      simp [Action.conclude, hresult, htable]
  -- calls, whose operands and body each have a bound of their own
  | @undefined name tail env defs top hname hcall =>
      refine settled_call hname top 0 fun depth _ => ?_
      exact conclude_call_undefined _ env defs tail hcall
  | @badArguments name tail env defs top hname hcall himproper =>
      refine settled_call hname top 0 fun depth _ => ?_
      have hops := conclude_operands_improper (evaluate depth) env defs name himproper
      exact conclude_call_of_operands_error _ env defs hcall hops
  | @operandError name tail env defs top items cause hname hcall hitems _ ih =>
      obtain ⟨bound, hbound⟩ := ih
      refine settled_call hname top bound fun depth hdepth => ?_
      have hops := conclude_operands_of_reached name hitems (hbound depth hdepth)
      exact conclude_call_of_operands_error _ env defs hcall hops
  | @primitive name tail env defs defs' top items args p r hname hp hitems _ happlies ih =>
      obtain ⟨bound, hbound⟩ := ih
      refine settled_call hname top bound fun depth hdepth => ?_
      have hops := conclude_operands_of_reached name hitems (hbound depth hdepth)
      rw [conclude_call_primitive _ env defs tail hp, hops, Conclusion.value_andThen,
        Primitive.applies_iff.mp happlies]
  | @wrongArity name tail env defs defs' top items args d hname hprim hd hitems _ hlen ih =>
      obtain ⟨bound, hbound⟩ := ih
      refine settled_call hname top bound fun depth hdepth => ?_
      have hops := conclude_operands_of_reached name hitems (hbound depth hdepth)
      rw [conclude_call_definition _ env defs (keepsTable_evaluate depth) tail hprim hd, hops,
        Conclusion.value_andThen, conclude_applyDefinition, if_neg hlen]
  | @call name tail env defs defs' top items args d c hname hprim hd hitems _ hlen _ ih ihbody =>
      obtain ⟨bound, hbound⟩ := ih.both ihbody
      refine settled_call hname top bound fun depth hdepth => ?_
      obtain ⟨heach, hbody⟩ := hbound depth hdepth
      have hops := conclude_operands_of_reached name hitems heach
      rw [conclude_call_definition _ env defs (keepsTable_evaluate depth) tail hprim hd, hops,
        Conclusion.value_andThen, conclude_applyDefinition, if_pos hlen]
      exact hbody
  -- operands and clauses, where the premises are reached together
  | noOperand => exact ⟨0, fun _ _ => rfl⟩
  | firstFails _ ih => exact ih.mono fun _ => reached_firstFails
  | laterFails _ _ ih ihrest => exact ih.mono_both ihrest fun _ => reached_laterFails
  | evaluated _ _ ih ihrest => exact ih.mono_both ihrest fun _ => reached_evaluated
  | noClause => exact ⟨0, fun _ _ => rfl⟩
  | testFails _ ih => exact ih.mono fun _ => reached_testFails
  | selected _ hv _ ih ihresult => exact ih.mono_both ihresult fun _ => reached_selected hv
  | skipped _ hv _ ih ihrest => exact ih.mono_both ihrest fun _ => reached_skipped hv

/-! ## Running out of levels -/

/-- The judgement concludes the error. -/
def Fails (cause : EvalError) : Judgment → Prop
  | .expression _ _ _ _ c => c = .error cause
  | .operands _ _ _ c => c = .error cause
  | .clauses _ _ _ c => c = .error cause

/-- No primitive runs out of depth. -/
theorem applies_ne_overflow {p : Primitive} {args : List Expr} {r : Except EvalError Expr}
    (h : p.Applies args r) : r ≠ .error .recursionDepthExceeded := by
  cases h <;> exact nofun

/-- The rules know no limit: running out of levels is not derivable. -/
theorem not_fails_overflow {j : Judgment} (h : Derivable j) :
    ¬ Fails .recursionDepthExceeded j := by
  induction h with
  | @primitive name tail env defs defs' top items args p r _ _ _ _ happlies _ =>
      intro hfails
      cases r with
      | ok value => exact nomatch hfails
      | error cause =>
          cases hfails
          exact applies_ne_overflow happlies rfl
  | conditional _ _ _ ih => exact ih
  | operandError _ _ _ _ ih => exact fun h => ih (by cases h; rfl)
  | call _ _ _ _ _ _ _ _ ih => exact ih
  | firstFails _ ih => exact fun h => ih (by cases h; rfl)
  | laterFails _ _ _ ih => exact fun h => ih (by cases h; rfl)
  | testFails _ ih => exact fun h => ih (by cases h; rfl)
  | selected _ _ _ _ ih => exact ih
  | skipped _ _ _ _ ih => exact ih
  | _ => exact nofun

/-! ## Adequacy -/

/-- Two conclusions of the same form are equal: both are reached within enough levels. -/
theorem derivable_unique {e : Expr} {env : Env} {defs : Definitions} {top : Bool}
    {c c' : Conclusion Expr} (h : Derivable (.expression e env defs top c))
    (h' : Derivable (.expression e env defs top c')) : c = c' := by
  obtain ⟨bound, hbound⟩ := (settled_of_derivable h).both (settled_of_derivable h')
  obtain ⟨hc, hc'⟩ := hbound bound (Nat.le_refl bound)
  exact hc.symm.trans hc'

/-- **The evaluator is sound and complete for the rules.** For every expression, environment,
    table and flag, a conclusion other than running out of levels is that of evaluation within
    some number of levels exactly when the rules derive it; the rules derive at most one
    conclusion, and never that the levels ran out. -/
theorem evaluate_iff_derivable (e : Expr) (env : Env) (defs : Definitions) (top : Bool) :
    (∀ c : Conclusion Expr, c ≠ .error .recursionDepthExceeded →
      ((∃ depth, (evaluate depth e env top).conclude defs = c) ↔
        Derivable (.expression e env defs top c))) ∧
    (∀ c c' : Conclusion Expr, Derivable (.expression e env defs top c) →
      Derivable (.expression e env defs top c') → c = c') ∧
    ¬ Derivable (.expression e env defs top (.error .recursionDepthExceeded)) := by
  refine ⟨?_, fun _ _ => derivable_unique, fun h => not_fails_overflow h rfl⟩
  intro c hc
  constructor
  · rintro ⟨depth, rfl⟩
    exact (explained_evaluate depth e env defs top).resolve_left hc
  · intro h
    obtain ⟨bound, hbound⟩ := settled_of_derivable h
    exact ⟨bound, hbound bound (Nat.le_refl bound)⟩

end Rules
end PairLisp
