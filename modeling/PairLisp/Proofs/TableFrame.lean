import PairLisp.Eval

/-!
# What evaluation does to the table of definitions

One table is handed through every operand, test, selected result and function body of an
evaluation. This file shows that all of them hand it on as they got it: the only thing that ever
changes the table is a `DEFUN` form that the session itself evaluates and whose operands describe
a definition. The route:

* `Action.KeepsTable` says of an action that it leaves the table alone whatever it comes to, a
  failure included. It holds of every basic action but `add`, and sequencing preserves it;
* a level of evaluation keeps the table if the level below it does (`keepsTable_step`), so every
  nested form keeps it, by induction on the number of levels (`keepsTable_evaluate`);
* among the forms of the session only an accepted `DEFUN` adds something
  (`keepsTable_step_of_not_accepted`, `run_step_of_accepted`);
* the operands of a call keep the table, so the second lookup of the called name finds what the
  first one found. `callOnce` is a call with a single lookup, and `call_eq_callOnce` identifies
  the two.
-/

namespace PairLisp
namespace Action

variable {α β : Type}

/-! ## Running actions -/

@[simp] theorem run_pure (a : α) (defs : Definitions) :
    (pure a : Action α).run defs = ⟨.ok a, defs, []⟩ := rfl

@[simp] theorem run_fail (cause : EvalError) (defs : Definitions) :
    (fail cause : Action α).run defs = ⟨.error cause, defs, []⟩ := rfl

@[simp] theorem run_ofExcept (result : Except EvalError α) (defs : Definitions) :
    (ofExcept result).run defs = ⟨result, defs, []⟩ := rfl

@[simp] theorem run_definitions (defs : Definitions) :
    definitions.run defs = ⟨.ok defs, defs, []⟩ := rfl

@[simp] theorem run_add (d : Definition) (defs : Definitions) :
    (add d).run defs = ⟨.ok (), defs.add d, []⟩ := rfl

@[simp] theorem run_record (event : Event) (defs : Definitions) :
    (record event).run defs = ⟨.ok (), defs, [event]⟩ := rfl

/-- An event is recorded only on its condition. -/
@[simp] theorem run_recordIf (condition : Bool) (event : Event) (defs : Definitions) :
    (recordIf condition event).run defs =
      ⟨.ok (), defs, if condition then [event] else []⟩ := by
  cases condition <;> rfl

@[simp] theorem run_bind (m : Action α) (f : α → Action β) (defs : Definitions) :
    (m >>= f).run defs = follow (m.run defs) f := rfl

@[simp] theorem follow_ok (a : α) (defs : Definitions) (events : List Event)
    (f : α → Action β) :
    follow ⟨.ok a, defs, events⟩ f =
      ⟨((f a).run defs).result, ((f a).run defs).defs, events ++ ((f a).run defs).events⟩ := rfl

@[simp] theorem follow_error (cause : EvalError) (defs : Definitions) (events : List Event)
    (f : α → Action β) :
    follow ⟨.error cause, defs, events⟩ f = ⟨.error cause, defs, events⟩ := rfl

/-- What follows an outcome matters only from the table that the outcome left. -/
theorem follow_congr {before : Outcome α} {f g : α → Action β}
    (h : ∀ a, (f a).run before.defs = (g a).run before.defs) :
    follow before f = follow before g := by
  rw [follow, follow]
  split
  · next a _ => rw [h a]
  · rfl

/-! ## Actions that keep the table -/

/-- The action leaves the table as it was, whatever it comes to. -/
def KeepsTable (m : Action α) : Prop :=
  ∀ defs, (m.run defs).defs = defs

namespace KeepsTable

theorem fail (cause : EvalError) : KeepsTable (.fail cause : Action α) :=
  fun _ => rfl

theorem ofExcept (result : Except EvalError α) : KeepsTable (.ofExcept result) :=
  fun _ => rfl

theorem pure (a : α) : KeepsTable (Pure.pure a : Action α) :=
  fun _ => rfl

theorem definitions : KeepsTable definitions :=
  fun _ => rfl

theorem record (event : Event) : KeepsTable (record event) :=
  fun _ => rfl

/-- Two actions that keep the table keep it together. The second one starts from the table that
    the first one left, also where its choice depends on a value. -/
theorem bind {m : Action α} {f : α → Action β} (hm : KeepsTable m)
    (hf : ∀ a, KeepsTable (f a)) : KeepsTable (m >>= f) := by
  intro defs
  show (follow (m.run defs) f).defs = defs
  cases hr : (m.run defs).result with
  | ok a =>
      simp only [follow, hr]
      rw [hf a, hm defs]
  | error cause =>
      simp only [follow, hr]
      exact hm defs

end KeepsTable
end Action

namespace Eval

/-! ## One level of evaluation

The level below is an arbitrary evaluator that keeps the table on nested forms. -/

section Level

variable {eval : Evaluator} (heval : ∀ e env, (eval e env false).KeepsTable)
include heval

/-- Evaluating operands leaves the table as it is. -/
theorem keepsTable_each (env : Env) (items : List Expr) : (each eval env items).KeepsTable := by
  induction items with
  | nil => exact .pure []
  | cons e rest ih =>
      refine .bind (heval e env) fun value => ?_
      refine .bind ih fun values => ?_
      exact .pure (value :: values)

/-- So does finding them in the call. -/
theorem keepsTable_operands (name : String) (tail : Expr) (env : Env) :
    (operands eval name tail env).KeepsTable := by
  rw [operands]
  cases tail.toList? with
  | none => exact .fail _
  | some items => exact keepsTable_each heval env items

/-- Choosing a clause leaves the table as it is. -/
theorem keepsTable_select (env : Env) (clauses : List (Expr × Expr)) :
    (select eval env clauses).KeepsTable := by
  induction clauses with
  | nil => exact .fail _
  | cons clause rest ih =>
      obtain ⟨test, result⟩ := clause
      refine .bind (heval test env) fun value => ?_
      by_cases hv : value.isTrue = true
      · rw [if_pos hv]
        exact heval result env
      · rw [if_neg hv]
        exact ih

/-- A conditional leaves the table as it is. -/
theorem keepsTable_conditional (tail : Expr) (env : Env) :
    (conditional eval tail env).KeepsTable := by
  rw [conditional]
  cases clauses tail with
  | error fault => exact .fail _
  | ok clauses => exact keepsTable_select heval env clauses

/-- Applying a function of the table leaves the table as it is. -/
theorem keepsTable_applyDefinition (d : Definition) (args : List Expr) (env : Env) :
    (applyDefinition eval d args env).KeepsTable := by
  refine .bind (.ofExcept _) fun inner => ?_
  refine .bind (.record _) fun _ => ?_
  -- a body is a nested form, also where the call itself is not
  exact heval d.body inner

/-- Applying any function leaves the table as it is. -/
theorem keepsTable_apply (name : String) (args : List Expr) (env : Env) :
    (apply eval name args env).KeepsTable := by
  rw [apply]
  cases Primitive.ofName? name with
  | some p => exact .ofExcept _
  | none =>
      refine .bind .definitions fun defs => ?_
      cases defs.get? name with
      | some d => exact keepsTable_applyDefinition heval d args env
      | none => exact .fail _

/-- A call leaves the table as it is. -/
theorem keepsTable_call (name : String) (tail : Expr) (env : Env) :
    (call eval name tail env).KeepsTable := by
  refine .bind .definitions fun defs => ?_
  split
  · exact .bind (keepsTable_operands heval name tail env) fun args =>
      keepsTable_apply heval name args env
  · exact .fail _

end Level

/-! ## Definitions -/

/-- The name under which a special form is called. -/
def SpecialForm.label : SpecialForm → String
  | .quote => "QUOTE"
  | .cond => "COND"
  | .defun => "DEFUN"

/-- A name stands for a special form exactly when it spells the form's name, in any case. -/
theorem SpecialForm.ofName?_eq_some_iff {name : String} {form : SpecialForm} :
    SpecialForm.ofName? name = some form ↔ Symbol.key name = form.label := by
  rw [SpecialForm.ofName?]
  constructor
  · intro h
    split at h
    · next hkey => cases h; exact hkey
    · split at h
      · next hkey => cases h; exact hkey
      · split at h
        · next hkey => cases h; exact hkey
        · exact nomatch h
  · intro h
    cases form <;> simp [h, label]

/-- A name that stands for no special form spells the name of none. -/
theorem SpecialForm.ofName?_eq_none_iff {name : String} :
    SpecialForm.ofName? name = none ↔ ∀ form : SpecialForm, Symbol.key name ≠ form.label := by
  rw [Option.eq_none_iff_forall_ne_some]
  exact forall_congr' fun form => not_congr SpecialForm.ofName?_eq_some_iff

/-! The four ways of a pair whose head is an atom. -/

section Heads

variable {name : String} (eval : Evaluator) (tail : Expr) (env : Env) (topLevel : Bool)

/-- The form of a quotation, in any case of its head. -/
theorem step_quote (h : Symbol.key name = SpecialForm.quote.label) :
    step eval (.pair (.atom name) tail) env topLevel = .ofExcept (quote tail) := by
  simp only [step, SpecialForm.ofName?_eq_some_iff.mpr h]

/-- The form of a conditional, in any case of its head. -/
theorem step_cond (h : Symbol.key name = SpecialForm.cond.label) :
    step eval (.pair (.atom name) tail) env topLevel = conditional eval tail env := by
  simp only [step, SpecialForm.ofName?_eq_some_iff.mpr h]

/-- The form of a definition, in any case of its head. -/
theorem step_defun (h : Symbol.key name = SpecialForm.defun.label) :
    step eval (.pair (.atom name) tail) env topLevel = define tail topLevel := by
  simp only [step, SpecialForm.ofName?_eq_some_iff.mpr h]

/-- Whatever is no special form is a call. -/
theorem step_call (h : ∀ form : SpecialForm, Symbol.key name ≠ form.label) :
    step eval (.pair (.atom name) tail) env topLevel = call eval name tail env := by
  simp only [step, SpecialForm.ofName?_eq_none_iff.mpr h]

end Heads

/-- The form is a `DEFUN`, in any case, whose operands describe the definition `d`. -/
def AcceptedDefun (form : Expr) (d : Definition) : Prop :=
  ∃ name tail, form = .pair (.atom name) tail ∧ Symbol.key name = "DEFUN" ∧
    Definition.ofOperands tail = .ok d

/-- Inside another form nothing is defined. -/
theorem keepsTable_define_nested (tail : Expr) : (define tail false).KeepsTable :=
  .fail _

/-- A definition with a fault is not added. -/
theorem keepsTable_define_refused {tail : Expr} {fault : DefunFault}
    (h : Definition.ofOperands tail = .error fault) (topLevel : Bool) :
    (define tail topLevel).KeepsTable := by
  cases topLevel with
  | false => exact keepsTable_define_nested tail
  | true =>
      simp only [define, h]
      exact .fail _

/-- An accepted definition is added, and its name is the answer. Which events are recorded on the
    way depends on the table; the answer does not. -/
theorem run_define_accepted {tail : Expr} {d : Definition}
    (h : Definition.ofOperands tail = .ok d) (defs : Definitions) :
    ((define tail true).run defs).result = .ok (.atom d.name) ∧
      ((define tail true).run defs).defs = defs.add d := by
  simp [define, h]

/-! ## Every level -/

section Level

variable {eval : Evaluator} (heval : ∀ e env, (eval e env false).KeepsTable)
include heval

/-- A form of the session keeps the table unless it is an accepted `DEFUN`; the only part of a
    level that looks at the flag is the `DEFUN` form itself. -/
theorem keepsTable_step_of_not_accepted {form : Expr} (env : Env) (topLevel : Bool)
    (h : ∀ d, ¬ AcceptedDefun form d) : (step eval form env topLevel).KeepsTable := by
  cases form with
  | atom token => exact .ofExcept _
  | blank => exact .fail _
  | pair head tail =>
      cases head with
      | blank => exact .fail _
      | pair first rest => exact .fail _
      | atom name =>
          by_cases hname : ∀ form : SpecialForm, Symbol.key name ≠ form.label
          · rw [step_call eval tail env topLevel hname]
            exact keepsTable_call heval name tail env
          · obtain ⟨form, hkey⟩ := Classical.not_forall_not.mp hname
            cases form with
            | quote =>
                rw [step_quote eval tail env topLevel hkey]
                exact .ofExcept _
            | cond =>
                rw [step_cond eval tail env topLevel hkey]
                exact keepsTable_conditional heval tail env
            | defun =>
                rw [step_defun eval tail env topLevel hkey]
                cases hd : Definition.ofOperands tail with
                | error fault => exact keepsTable_define_refused hd topLevel
                | ok d => exact absurd ⟨name, tail, rfl, hkey, hd⟩ (h d)

/-- A nested form keeps the table, a `DEFUN` among its parts included. -/
theorem keepsTable_step (e : Expr) (env : Env) : (step eval e env false).KeepsTable := by
  by_cases h : ∃ d, AcceptedDefun e d
  · obtain ⟨d, name, tail, rfl, hkey, -⟩ := h
    rw [step_defun eval tail env false hkey]
    exact keepsTable_define_nested tail
  · exact keepsTable_step_of_not_accepted heval env false fun d hd => h ⟨d, hd⟩

end Level

/-- An accepted `DEFUN` of the session adds its definition and answers with the name. -/
theorem run_step_of_accepted {form : Expr} {d : Definition} (h : AcceptedDefun form d)
    (eval : Evaluator) (env : Env) (defs : Definitions) :
    ((step eval form env true).run defs).result = .ok (.atom d.name) ∧
      ((step eval form env true).run defs).defs = defs.add d := by
  obtain ⟨name, tail, rfl, hkey, hd⟩ := h
  rw [step_defun eval tail env true hkey]
  exact run_define_accepted hd defs

/-! ## Calls with one lookup -/

/-- A call that looks the name up once, before the operands, and applies what it found then. -/
def callOnce (eval : Evaluator) (name : String) (tail : Expr) (env : Env) : Action Expr := do
  let defs ← Action.definitions
  match Primitive.ofName? name, defs.get? name with
  | some p, _ =>
    let args ← operands eval name tail env
    .ofExcept (p.apply args)
  | none, some d =>
    let args ← operands eval name tail env
    applyDefinition eval d args env
  | none, none => .fail (.undefinedFunction name)

/-- The second lookup of a call has the answer of the first one, as long as the table has not
    changed in between. -/
theorem run_apply_of_get? {eval : Evaluator} {name : String} {d : Definition}
    {defs : Definitions} (hp : Primitive.ofName? name = none) (hd : defs.get? name = some d)
    (args : List Expr) (env : Env) :
    (apply eval name args env).run defs = (applyDefinition eval d args env).run defs := by
  simp [apply, hp, hd]

/-- **A call needs only one lookup.** The operands keep the table, so applying what was found
    before them and looking the name up again behind them are the same. -/
theorem call_eq_callOnce {eval : Evaluator} (heval : ∀ e env, (eval e env false).KeepsTable)
    (name : String) (tail : Expr) (env : Env) :
    call eval name tail env = callOnce eval name tail env := by
  ext1
  funext defs
  have hkeep := keepsTable_operands heval name tail env defs
  cases hp : Primitive.ofName? name with
  | some p =>
      have happly : ∀ args, apply eval name args env = .ofExcept (p.apply args) := by
        intro args
        simp only [apply, hp]
      simp [call, callOnce, hp, happly]
  | none =>
      cases hd : defs.get? name with
      | none => simp [call, callOnce, Definitions.contains, hp, hd]
      | some d =>
          -- the second lookup happens in the table behind the operands, which is `defs` again
          have hsame : Action.follow ((operands eval name tail env).run defs)
              (fun args => apply eval name args env) =
              Action.follow ((operands eval name tail env).run defs)
              (fun args => applyDefinition eval d args env) := by
            refine Action.follow_congr fun args => ?_
            rw [hkeep]
            exact run_apply_of_get? hp hd args env
          simp [call, callOnce, Definitions.contains, hp, hd, hsame]

end Eval

open Eval

/-- **Nested evaluation keeps the table**, within any number of levels and whatever it comes to. -/
theorem keepsTable_evaluate (depth : Nat) :
    ∀ e env, (evaluate depth e env false).KeepsTable := by
  induction depth with
  | zero =>
      intro e env
      exact .fail _
  | succ depth ih => exact keepsTable_step ih

/-- A table always differs from the one that it was before a definition was added. -/
theorem add_ne_self (defs : Definitions) (d : Definition) : defs.add d ≠ defs := by
  intro h
  have hlen := congrArg (fun defs => defs.history.length) h
  simp at hlen

/-- A form of the session changes the table exactly when it is an accepted `DEFUN`. -/
theorem table_evaluate_ne_iff (depth : Nat) (form : Expr) (env : Env) (defs : Definitions) :
    ((evaluate (depth + 1) form env true).run defs).defs ≠ defs ↔
      ∃ d, AcceptedDefun form d := by
  constructor
  · intro hne
    by_cases h : ∃ d, AcceptedDefun form d
    · exact h
    · have hkeep := keepsTable_step_of_not_accepted (keepsTable_evaluate depth) env true
        (fun d hd => h ⟨d, hd⟩)
      exact absurd (hkeep defs) hne
  · rintro ⟨d, hd⟩
    have hadd := (run_step_of_accepted hd (evaluate depth) env defs).2
    show ((step (evaluate depth) form env true).run defs).defs ≠ defs
    rw [hadd]
    exact add_ne_self defs d

/-- A form that fails leaves the table as it was, also one of the session. -/
theorem table_evaluate_of_error {depth : Nat} {form : Expr} {env : Env} {topLevel : Bool}
    {defs : Definitions} {cause : EvalError}
    (h : ((evaluate depth form env topLevel).run defs).result = .error cause) :
    ((evaluate depth form env topLevel).run defs).defs = defs := by
  cases topLevel with
  | false => exact keepsTable_evaluate depth form env defs
  | true =>
      cases depth with
      | zero => rfl
      | succ depth =>
          refine Classical.byContradiction fun hne => ?_
          obtain ⟨d, hd⟩ := (table_evaluate_ne_iff depth form env defs).mp hne
          have hresult := (run_step_of_accepted hd (evaluate depth) env defs).1
          exact nomatch hresult.symm.trans h

/-- **Only an accepted definition of the session changes the table.** A nested form hands the
    table on as it got it, whatever it comes to. A form of the session changes the table exactly
    when it is a `DEFUN` whose operands describe a definition; then this one definition is added,
    in front of the history and in force for every spelling of its name, and the answer is the
    name. Therefore the operands of a call leave the entry of the called name alone, what is
    applied behind them is what was found before them, and a call amounts to one with a single
    lookup, which cannot fail to find its function again. -/
theorem only_accepted_defun_changes_table (depth : Nat) (form : Expr) (env : Env)
    (defs : Definitions) :
    ((evaluate depth form env false).run defs).defs = defs ∧
    (((evaluate (depth + 1) form env true).run defs).defs ≠ defs ↔
      ∃ d, AcceptedDefun form d) ∧
    (∀ d, AcceptedDefun form d →
      ((evaluate (depth + 1) form env true).run defs).result = .ok (.atom d.name) ∧
      ((evaluate (depth + 1) form env true).run defs).defs = defs.add d ∧
      (defs.add d).history = d :: defs.history ∧
      ∀ name, (defs.add d).get? name =
        if Symbol.key name = Symbol.key d.name then some d else defs.get? name) ∧
    (∀ name tail args,
      ((operands (evaluate depth) name tail env).run defs).result = .ok args →
      ((operands (evaluate depth) name tail env).run defs).defs.get? name = defs.get? name ∧
      (Primitive.ofName? name = none → defs.contains name = true →
        ∃ d, defs.get? name = some d ∧
          (apply (evaluate depth) name args env).run
              ((operands (evaluate depth) name tail env).run defs).defs =
            (applyDefinition (evaluate depth) d args env).run defs)) ∧
    ∀ name tail topLevel, (∀ special : SpecialForm, Symbol.key name ≠ special.label) →
      evaluate (depth + 1) (.pair (.atom name) tail) env topLevel =
        callOnce (evaluate depth) name tail env := by
  refine ⟨keepsTable_evaluate depth form env defs, table_evaluate_ne_iff depth form env defs,
    ?_, ?_, ?_⟩
  · intro d hd
    obtain ⟨hresult, htable⟩ := run_step_of_accepted hd (evaluate depth) env defs
    exact ⟨hresult, htable, rfl, defs.get?_add d⟩
  · intro name tail args _
    have hkeep := keepsTable_operands (keepsTable_evaluate depth) name tail env defs
    rw [hkeep]
    refine ⟨rfl, fun hp hcontains => ?_⟩
    obtain ⟨d, hd⟩ := Option.isSome_iff_exists.mp hcontains
    exact ⟨d, hd, run_apply_of_get? hp hd args env⟩
  · intro name tail topLevel hname
    show step (evaluate depth) (.pair (.atom name) tail) env topLevel = _
    rw [step_call (evaluate depth) tail env topLevel hname]
    exact call_eq_callOnce (keepsTable_evaluate depth) name tail env

end PairLisp
