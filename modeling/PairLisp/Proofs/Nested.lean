import PairLisp.Proofs.Parts
import PairLisp.Proofs.Rules

/-!
# Nested evaluation by shapes

A nested form leaves the table of definitions as it was, so from a fixed table its evaluation is a
plain function from expressions and environments to results. This file gives that function in two
parts, one for what a form is and one for what is done with it:

* `shape` carries out every check that needs no evaluation. What is left of a form is its answer,
  the clauses of a conditional, or a function together with the operands of its call;
* the forms that a shape asks for are parts of the form (`part_of_mem_parts`), and the functions
  come from the table (`get?_of_shape_call`);
* `answer` evaluates by shapes, and `result_evaluate` identifies it with nested evaluation;
* an error of a form has its origin in one of five places (`origin_of_finish`), and the checks on a
  form refuse it in one of nine ways (`refused_of_shape`);
* a form of the session that is no `DEFUN` is evaluated like a nested one
  (`evaluate_of_not_isDefun`).

What holds of every evaluation can so be read off shapes alone.
-/

namespace PairLisp

@[simp] theorem ok_bind {ε α β : Type} (a : α) (f : α → Except ε β) :
    (Except.ok a >>= f) = f a := rfl

@[simp] theorem error_bind {ε α β : Type} (cause : ε) (f : α → Except ε β) :
    (Except.error cause >>= f) = .error cause := rfl

namespace Action

variable {α β : Type}

/-- From an action that keeps the table, the next one starts from the same table. -/
theorem result_bind {m : Action α} (hm : m.KeepsTable) (f : α → Action β) (defs : Definitions) :
    ((m >>= f).run defs).result =
      (m.run defs).result >>= fun a => ((f a).run defs).result := by
  have hdefs := hm defs
  rw [run_bind, follow]
  cases hr : (m.run defs).result with
  | ok a =>
      dsimp only
      rw [hdefs, ok_bind]
  | error cause => rw [error_bind]

end Action

/-! ## Parts of expressions -/

namespace Expr

/-- The items of a list are parts of it. -/
theorem part_of_proper {e item : Expr} {items : List Expr} (h : e.Proper items)
    (hitem : item ∈ items) : Part item e := by
  induction h with
  | nil _ => cases hitem
  | cons _ ih =>
      rcases List.mem_cons.mp hitem with rfl | hrest
      · exact .first (.whole item)
      · exact .rest (ih hrest)

end Expr

namespace Eval

/-! ## Shapes -/

/-- What a name can stand for in a call. -/
inductive Function where
  | primitive (p : Primitive)
  | defined (d : Definition)

/-- What a name stands for in a call: a primitive, or else a defined function. -/
def function? (defs : Definitions) (name : String) : Option Function :=
  match Primitive.ofName? name with
  | some p => some (.primitive p)
  | none => (defs.get? name).map .defined

/-- What is left of a nested form behind the checks that need no evaluation. -/
inductive Shape where
  /-- Nothing is left to do. -/
  | settled (result : Except EvalError Expr)
  /-- The clauses of a conditional are to be tried. -/
  | clauses (clauses : List (Expr × Expr))
  /-- A function is to be called with the values of the operands. -/
  | call (f : Function) (operands : List Expr)

/-- The shape of a call: its name is looked up before its operands are looked at. -/
def callShape (defs : Definitions) (name : String) (tail : Expr) : Shape :=
  match function? defs name with
  | none => .settled (.error (.undefinedFunction name))
  | some f =>
    match tail.toList? with
    | none => .settled (.error (.badArguments name))
    | some items => .call f items

/-- The shape of a conditional. -/
def conditionalShape (tail : Expr) : Shape :=
  match clauses tail with
  | .error fault => .settled (.error (.malformedConditional fault))
  | .ok cs => .clauses cs

/-- The shape of a nested form. -/
def shape (defs : Definitions) : Expr → Env → Shape
  | .atom token, env => .settled (atom token env)
  | .blank, _ => .settled (.error .blankForm)
  | .pair .blank _, _ => .settled (.error (.illegalFunctionName .blank))
  | .pair (.pair first rest) _, _ => .settled (.error (.illegalFunctionName (.pair first rest)))
  | .pair (.atom name) tail, _ =>
    match SpecialForm.ofName? name with
    | some .quote => .settled (quote tail)
    | some .cond => conditionalShape tail
    | some .defun => .settled (.error .nestedDefunForbidden)
    | none => callShape defs name tail

/-- The forms that a shape asks to evaluate in the environment of the form itself. -/
def Shape.parts : Shape → List Expr
  | .settled _ => []
  | .clauses cs => cs.flatMap fun clause => [clause.1, clause.2]
  | .call _ items => items

/-- The only form that asks for clauses is a conditional. -/
theorem of_shape_clauses {defs : Definitions} {e : Expr} {env : Env} {cs : List (Expr × Expr)}
    (h : shape defs e env = .clauses cs) :
    ∃ name tail, e = .pair (.atom name) tail ∧ clauses tail = .ok cs := by
  match e with
  | .atom token => cases h
  | .blank => cases h
  | .pair .blank tail => cases h
  | .pair (.pair first rest) tail => cases h
  | .pair (.atom name) tail =>
      refine ⟨name, tail, rfl, ?_⟩
      rw [shape] at h
      split at h
      · cases h
      · rw [conditionalShape] at h
        split at h
        · cases h
        · next hcs =>
            cases h
            exact hcs
      · cases h
      · rw [callShape] at h
        split at h
        · cases h
        · split at h <;> cases h

/-- The only form that asks for the values of operands is a call. -/
theorem of_shape_call {defs : Definitions} {e : Expr} {env : Env} {f : Function}
    {items : List Expr} (h : shape defs e env = .call f items) :
    ∃ name tail, e = .pair (.atom name) tail ∧ SpecialForm.ofName? name = none ∧
      function? defs name = some f ∧ tail.toList? = some items := by
  match e with
  | .atom token => cases h
  | .blank => cases h
  | .pair .blank tail => cases h
  | .pair (.pair first rest) tail => cases h
  | .pair (.atom name) tail =>
      refine ⟨name, tail, rfl, ?_⟩
      rw [shape] at h
      split at h
      · cases h
      · rw [conditionalShape] at h
        split at h <;> cases h
      · cases h
      · next hform =>
          rw [callShape] at h
          split at h
          · cases h
          · next hf =>
              split at h
              · cases h
              · next hitems =>
                  cases h
                  exact ⟨hform, hf, hitems⟩

/-- A call finds a primitive whenever one has the name. -/
theorem function?_eq_primitive_iff {defs : Definitions} {name : String} {p : Primitive} :
    function? defs name = some (.primitive p) ↔ Primitive.ofName? name = some p := by
  rw [function?]
  cases Primitive.ofName? name with
  | none => simp
  | some q => simp

/-- A call finds a function of the table if no primitive has the name. -/
theorem function?_eq_defined_iff {defs : Definitions} {name : String} {d : Definition} :
    function? defs name = some (.defined d) ↔
      Primitive.ofName? name = none ∧ defs.get? name = some d := by
  rw [function?]
  cases Primitive.ofName? name with
  | none => simp
  | some q => simp

/-- A defined function that a form calls is in the table. -/
theorem get?_of_shape_call {defs : Definitions} {e : Expr} {env : Env} {d : Definition}
    {items : List Expr} (h : shape defs e env = .call (.defined d) items) :
    ∃ name, defs.get? name = some d := by
  obtain ⟨name, tail, _, _, hf, _⟩ := of_shape_call h
  exact ⟨name, (function?_eq_defined_iff.mp hf).2⟩

/-- Tests and results of clauses are parts of the items that the clauses were read from. -/
theorem part_of_clauseList {items : List Expr} {cs : List (Expr × Expr)}
    (h : ClauseList items cs) {clause : Expr × Expr} (hclause : clause ∈ cs) :
    ∃ item ∈ items, clause.1.Part item ∧ clause.2.Part item := by
  induction h with
  | nil => cases hclause
  | @cons item test result items cs hitem _ ih =>
      rcases List.mem_cons.mp hclause with rfl | hrest
      · exact ⟨item, List.mem_cons_self, Expr.part_of_proper hitem (by simp),
          Expr.part_of_proper hitem (by simp)⟩
      · obtain ⟨other, hother, hparts⟩ := ih hrest
        exact ⟨other, List.mem_cons_of_mem item hother, hparts⟩

/-- **A shape asks for parts of its form only**, and these stand behind the head. -/
theorem part_of_mem_parts {defs : Definitions} {e part : Expr} {env : Env}
    (h : part ∈ (shape defs e env).parts) : ∃ head tail, e = .pair head tail ∧ part.Part tail := by
  cases hs : shape defs e env with
  | settled r =>
      rw [hs] at h
      cases h
  | clauses cs =>
      rw [hs] at h
      obtain ⟨name, tail, rfl, hcs⟩ := of_shape_clauses hs
      refine ⟨_, _, rfl, ?_⟩
      obtain ⟨clause, hclause, hpart⟩ := List.mem_flatMap.mp h
      cases clauses_iff.mpr hcs with
      | clauses hproper hlist =>
          obtain ⟨item, hitem, htest, hresult⟩ := part_of_clauseList hlist hclause
          have hlater := Expr.part_of_proper hproper hitem
          rcases List.mem_cons.mp hpart with rfl | hpart
          · exact htest.trans hlater
          · obtain rfl := List.mem_singleton.mp hpart
            exact hresult.trans hlater
  | call f items =>
      rw [hs] at h
      obtain ⟨name, tail, rfl, _, _, hitems⟩ := of_shape_call hs
      exact ⟨_, _, rfl, Expr.part_of_proper (Expr.toList?_eq_some_iff.mp hitems) h⟩

/-! ## Evaluation by shapes -/

/-- What a function leads to on its arguments: a result, or a body to be evaluated. -/
inductive Entry where
  | settled (result : Except EvalError Expr)
  | body (e : Expr) (env : Env)

/-- Applies a function to evaluated arguments, up to the evaluation of its body. -/
def enter : Function → List Expr → Env → Entry
  | .primitive p, args, _ => .settled (p.apply args)
  | .defined d, args, env =>
    match d.bindArguments args env with
    | .error cause => .settled (.error cause)
    | .ok inner => .body d.body inner

/-- Only a function of the table has a body to be entered. -/
theorem body_of_enter {f : Function} {args : List Expr} {env inner : Env} {e : Expr}
    (h : enter f args env = .body e inner) : ∃ d, f = .defined d ∧ e = d.body := by
  cases f with
  | primitive p => cases h
  | defined d =>
      rw [enter] at h
      split at h
      · cases h
      · cases h
        exact ⟨d, rfl, rfl⟩

/-- Answers nested forms. -/
abbrev Answerer := Expr → Env → Except EvalError Expr

/-- The result of the first clause whose test is true. -/
def firstTrue (ans : Answerer) (env : Env) : List (Expr × Expr) → Except EvalError Expr
  | [] => .error .noMatchingClause
  | (test, result) :: rest => do
    let value ← ans test env
    if value.isTrue then ans result env else firstTrue ans env rest

/-- The values of expressions, up to the first failure. -/
def valuesOf (ans : Answerer) (env : Env) : List Expr → Except EvalError (List Expr)
  | [] => .ok []
  | e :: rest => do
    let value ← ans e env
    let values ← valuesOf ans env rest
    return value :: values

/-- Finishes the application of a function. -/
def Entry.finish (ans : Answerer) : Entry → Except EvalError Expr
  | .settled result => result
  | .body e env => ans e env

/-- Finishes a form, given its shape and an answerer for the level below. -/
def Shape.finish (ans : Answerer) (env : Env) : Shape → Except EvalError Expr
  | .settled result => result
  | .clauses cs => firstTrue ans env cs
  | .call f items => do
    let args ← valuesOf ans env items
    (enter f args env).finish ans

/-- Evaluates a nested form from a fixed table within a number of levels. -/
def answer (defs : Definitions) : Nat → Answerer
  | 0 => fun _ _ => .error .recursionDepthExceeded
  | depth + 1 => fun e env => (shape defs e env).finish (answer defs depth) env

/-! ## Where an error comes from -/

/-- What an error is due to that ends a form of the given shape: the checks on the form itself, the
    clauses having been tried, a part that was evaluated, a function that refused its arguments, or
    the body that it led to. -/
inductive Origin (ans : Answerer) (env : Env) : Shape → EvalError → Prop where
  | checks {cause : EvalError} : Origin ans env (.settled (.error cause)) cause
  | tried {cs : List (Expr × Expr)} : Origin ans env (.clauses cs) .noMatchingClause
  | part {s : Shape} {part : Expr} {cause : EvalError} : part ∈ s.parts →
      ans part env = .error cause → Origin ans env s cause
  | refused {f : Function} {items args : List Expr} {cause : EvalError} :
      enter f args env = .settled (.error cause) → valuesOf ans env items = .ok args →
      Origin ans env (.call f items) cause
  | body {f : Function} {items args : List Expr} {e : Expr} {inner : Env} {cause : EvalError} :
      enter f args env = .body e inner → ans e inner = .error cause →
      valuesOf ans env items = .ok args → Origin ans env (.call f items) cause

/-- What the checks on a form can find wrong with it. -/
inductive Refused : Expr → EvalError → Prop where
  | invalid {token : String} : Refused (.atom token) (.invalidIdentifier token)
  | unbound {token : String} : Refused (.atom token) (.unboundIdentifier token)
  | blank : Refused .blank .blankForm
  | head {head tail : Expr} : Refused (.pair head tail) (.illegalFunctionName head)
  | quote {name : String} {tail : Expr} : Symbol.key name = "QUOTE" → (∀ e, ¬ tail.Proper [e]) →
      Refused (.pair (.atom name) tail) (.arityMismatch "QUOTE" 1 tail.length)
  | conditional {name : String} {tail : Expr} {fault : ClauseFault} :
      Refused (.pair (.atom name) tail) (.malformedConditional fault)
  | defun {name : String} {tail : Expr} : Refused (.pair (.atom name) tail) .nestedDefunForbidden
  | undefined {name : String} {tail : Expr} :
      Refused (.pair (.atom name) tail) (.undefinedFunction name)
  | arguments {name : String} {tail : Expr} : Refused (.pair (.atom name) tail) (.badArguments name)

/-- An atom without a value is refused for what is wrong with it. -/
theorem refused_of_atom {token : String} {env : Env} {cause : EvalError}
    (h : atom token env = .error cause) : Refused (.atom token) cause := by
  rw [atom] at h
  split at h
  · cases h
  · split at h
    · cases h
    · split at h
      · cases h
      · split at h
        · split at h
          · cases h
          · cases h
            exact .unbound
        · cases h
          exact .invalid

/-- A quotation without a value is refused for what is wrong with it. -/
theorem refused_of_quote {name : String} (hname : Symbol.key name = "QUOTE") {tail : Expr}
    {cause : EvalError} (h : quote tail = .error cause) :
    Refused (.pair (.atom name) tail) cause := by
  rw [quote_eq] at h
  split at h
  · cases h
  · next hnone =>
      cases h
      exact .quote hname fun e he => hnone e (Expr.toList?_of_proper he)

/-- A form that fails before anything in it is evaluated is refused for what is wrong with it. -/
theorem refused_of_shape {defs : Definitions} {e : Expr} {env : Env} {cause : EvalError}
    (h : shape defs e env = .settled (.error cause)) : Refused e cause := by
  match e with
  | .atom token => exact refused_of_atom (Shape.settled.inj h)
  | .blank =>
      cases h
      exact .blank
  | .pair .blank tail =>
      cases h
      exact .head
  | .pair (.pair first rest) tail =>
      cases h
      exact .head
  | .pair (.atom name) tail =>
      rw [shape] at h
      split at h
      · next hname =>
          exact refused_of_quote (SpecialForm.ofName?_eq_some_iff.mp hname) (Shape.settled.inj h)
      · rw [conditionalShape] at h
        split at h
        · cases h
          exact .conditional
        · cases h
      · cases h
        exact .defun
      · rw [callShape] at h
        split at h
        · cases h
          exact .undefined
        · split at h
          · cases h
            exact .arguments
          · cases h

/-- There are as many arguments as operands. -/
theorem length_of_valuesOf {ans : Answerer} {env : Env} {items args : List Expr}
    (h : valuesOf ans env items = .ok args) : args.length = items.length := by
  induction items generalizing args with
  | nil =>
      cases h
      rfl
  | cons e rest ih =>
      rw [valuesOf] at h
      cases hvalue : ans e env with
      | error cause =>
          rw [hvalue] at h
          cases h
      | ok value =>
          rw [hvalue, ok_bind] at h
          cases hvalues : valuesOf ans env rest with
          | error cause =>
              rw [hvalues] at h
              cases h
          | ok values =>
              rw [hvalues] at h
              cases h
              exact congrArg Nat.succ (ih hvalues)

/-- An error of the operands is an error of one of them. -/
theorem error_of_valuesOf {ans : Answerer} {env : Env} {items : List Expr} {cause : EvalError}
    (h : valuesOf ans env items = .error cause) : ∃ item ∈ items, ans item env = .error cause := by
  induction items with
  | nil => cases h
  | cons e rest ih =>
      rw [valuesOf] at h
      cases hvalue : ans e env with
      | error first =>
          rw [hvalue, error_bind] at h
          cases h
          exact ⟨e, List.mem_cons_self, hvalue⟩
      | ok value =>
          rw [hvalue, ok_bind] at h
          cases hvalues : valuesOf ans env rest with
          | ok values =>
              rw [hvalues] at h
              cases h
          | error later =>
              rw [hvalues, error_bind] at h
              cases h
              obtain ⟨item, hitem, hfails⟩ := ih hvalues
              exact ⟨item, List.mem_cons_of_mem e hitem, hfails⟩

/-- An error of clauses is that none holds, or is an error of a test or a result. -/
theorem error_of_firstTrue {ans : Answerer} {env : Env} {cs : List (Expr × Expr)}
    {cause : EvalError} (h : firstTrue ans env cs = .error cause) :
    cause = .noMatchingClause ∨ ∃ clause ∈ cs, ans clause.1 env = .error cause ∨
      ans clause.2 env = .error cause := by
  induction cs with
  | nil =>
      cases h
      exact .inl rfl
  | cons clause rest ih =>
      obtain ⟨test, result⟩ := clause
      rw [firstTrue] at h
      cases hvalue : ans test env with
      | error first =>
          rw [hvalue, error_bind] at h
          cases h
          exact .inr ⟨_, List.mem_cons_self, .inl hvalue⟩
      | ok value =>
          rw [hvalue, ok_bind] at h
          by_cases hv : value.isTrue = true
          · rw [if_pos hv] at h
            exact .inr ⟨_, List.mem_cons_self, .inr h⟩
          · rw [if_neg hv] at h
            rcases ih h with hnone | ⟨clause, hclause, hfails⟩
            · exact .inl hnone
            · exact .inr ⟨clause, List.mem_cons_of_mem _ hclause, hfails⟩

/-- **Every error of a form has its origin.** -/
theorem origin_of_finish {ans : Answerer} {env : Env} {s : Shape} {cause : EvalError}
    (h : s.finish ans env = .error cause) : Origin ans env s cause := by
  cases s with
  | settled result =>
      cases h
      exact .checks
  | clauses cs =>
      rcases error_of_firstTrue h with rfl | ⟨clause, hclause, htest | hresult⟩
      · exact .tried
      · exact .part (List.mem_flatMap.mpr ⟨clause, hclause, by simp⟩) htest
      · exact .part (List.mem_flatMap.mpr ⟨clause, hclause, by simp⟩) hresult
  | call f items =>
      rw [Shape.finish] at h
      cases hargs : valuesOf ans env items with
      | error first =>
          rw [hargs, error_bind] at h
          cases h
          obtain ⟨item, hitem, hfails⟩ := error_of_valuesOf hargs
          exact .part hitem hfails
      | ok args =>
          rw [hargs, ok_bind] at h
          cases hentry : enter f args env with
          | settled result =>
              rw [hentry] at h
              cases h
              exact .refused hentry hargs
          | body e inner =>
              rw [hentry] at h
              exact .body hentry h hargs

/-- A `DEFUN` form fails for one of two reasons. -/
theorem error_of_define {tail : Expr} {topLevel : Bool} {defs : Definitions} {cause : EvalError}
    (h : ((define tail topLevel).run defs).result = .error cause) :
    cause = .nestedDefunForbidden ∨ ∃ fault, cause = .malformedDefun fault := by
  cases topLevel with
  | false =>
      cases h
      exact .inl rfl
  | true =>
      cases hd : Definition.ofOperands tail with
      | error fault =>
          simp only [define, hd] at h
          cases h
          exact .inr ⟨fault, rfl⟩
      | ok d =>
          rw [(run_define_accepted hd defs).1] at h
          cases h

/-! ## The evaluator answers by shapes -/

section Level

variable {eval : Evaluator} {ans : Answerer} {defs : Definitions}
variable (hkeep : ∀ e env, (eval e env false).KeepsTable)
variable (hans : ∀ e env, ((eval e env false).run defs).result = ans e env)
include hkeep hans

/-- Evaluating operands as an action has the values as its result. -/
theorem result_each (env : Env) (items : List Expr) :
    ((each eval env items).run defs).result = valuesOf ans env items := by
  induction items with
  | nil => rfl
  | cons e rest ih =>
      rw [each, Action.result_bind (hkeep e env), hans, valuesOf]
      congr 1
      funext value
      rw [Action.result_bind (keepsTable_each hkeep env rest), ih]
      rfl

/-- Choosing a clause as an action has the value of the first true one as its result. -/
theorem result_select (env : Env) (cs : List (Expr × Expr)) :
    ((select eval env cs).run defs).result = firstTrue ans env cs := by
  induction cs with
  | nil => rfl
  | cons clause rest ih =>
      obtain ⟨test, result⟩ := clause
      rw [select, Action.result_bind (hkeep test env), hans, firstTrue]
      congr 1
      funext value
      by_cases hv : value.isTrue = true
      · rw [if_pos hv, if_pos hv, hans]
      · rw [if_neg hv, if_neg hv, ih]

/-- A conditional comes to what its shape comes to. -/
theorem result_conditional (tail : Expr) (env : Env) :
    ((conditional eval tail env).run defs).result =
      (conditionalShape tail).finish ans env := by
  rw [conditional, conditionalShape]
  cases clauses tail with
  | error fault => rfl
  | ok cs => exact result_select hkeep hans env cs

omit hkeep in
/-- Applying a function of the table comes to what entering its body comes to. -/
theorem result_applyDefinition (d : Definition) (args : List Expr) (env : Env) :
    ((applyDefinition eval d args env).run defs).result =
      (enter (.defined d) args env).finish ans := by
  rw [applyDefinition, enter, Action.result_bind (.ofExcept _), Action.run_ofExcept]
  cases d.bindArguments args env with
  | error cause => rfl
  | ok inner =>
      show ((Action.record (.applied d.name inner) >>= fun _ =>
        eval d.body inner false).run defs).result = ans d.body inner
      rw [Action.result_bind (.record _)]
      exact hans d.body inner

/-- A call with a single lookup, one shape for each thing that can be found. -/
theorem result_call (name : String) (tail : Expr) (env : Env) :
    ((call eval name tail env).run defs).result = (callShape defs name tail).finish ans env := by
  have hoperands := keepsTable_operands hkeep name tail env
  rw [call_eq_callOnce hkeep, callOnce, Action.result_bind .definitions, Action.run_definitions,
    ok_bind, callShape, function?]
  cases Primitive.ofName? name with
  | some p =>
      dsimp only
      rw [Action.result_bind hoperands, operands]
      cases tail.toList? with
      | none => rfl
      | some items =>
          dsimp only
          rw [result_each hkeep hans]
          rfl
  | none =>
      cases defs.get? name with
      | none => rfl
      | some d =>
          dsimp only [Option.map_some]
          rw [Action.result_bind hoperands, operands]
          cases tail.toList? with
          | none => rfl
          | some items =>
              dsimp only
              rw [result_each hkeep hans]
              simp only [result_applyDefinition hans]
              rfl

/-- **One level answers by shapes** if the level below has the answers of `ans`. -/
theorem result_step (e : Expr) (env : Env) :
    ((step eval e env false).run defs).result = (shape defs e env).finish ans env := by
  cases e with
  | atom token => rfl
  | blank => rfl
  | pair head tail =>
      cases head with
      | blank => rfl
      | pair first rest => rfl
      | atom name =>
          rw [step, shape]
          cases SpecialForm.ofName? name with
          | none => exact result_call hkeep hans name tail env
          | some form =>
              cases form with
              | quote => rfl
              | cond => exact result_conditional hkeep hans tail env
              | defun => rfl

end Level

end Eval

open Eval

/-- **Nested evaluation answers by shapes**, within any number of levels. -/
theorem result_evaluate (defs : Definitions) (depth : Nat) :
    ∀ e env, ((evaluate depth e env false).run defs).result = answer defs depth e env := by
  induction depth with
  | zero =>
      intro e env
      rfl
  | succ depth ih => exact result_step (keepsTable_evaluate depth) ih

/-! ## Forms of the session -/

namespace Eval

/-- The form is a `DEFUN`, in any case, whether it is accepted or not. -/
def IsDefun (form : Expr) : Prop :=
  ∃ name tail, form = .pair (.atom name) tail ∧ Symbol.key name = SpecialForm.defun.label

/-- Only a `DEFUN` form is evaluated differently for the session. -/
theorem step_of_not_isDefun {form : Expr} (h : ¬ IsDefun form) (eval : Evaluator) (env : Env)
    (topLevel : Bool) : step eval form env topLevel = step eval form env false := by
  cases form with
  | atom token => rfl
  | blank => rfl
  | pair head tail =>
      cases head with
      | blank => rfl
      | pair first rest => rfl
      | atom name =>
          rw [step, step]
          cases hform : SpecialForm.ofName? name with
          | none => rfl
          | some form =>
              cases form with
              | quote => rfl
              | cond => rfl
              | defun =>
                  exact absurd ⟨name, tail, rfl, SpecialForm.ofName?_eq_some_iff.mp hform⟩ h

end Eval

/-- Being at the top matters to definitions only. -/
theorem evaluate_of_not_isDefun {form : Expr} (h : ¬ IsDefun form) (depth : Nat) (env : Env)
    (topLevel : Bool) : evaluate depth form env topLevel = evaluate depth form env false := by
  cases depth with
  | zero => rfl
  | succ depth => exact step_of_not_isDefun h (evaluate depth) env topLevel

/-- A form that is no `DEFUN` has the answer of a nested one and leaves the table alone. -/
theorem run_evaluate_of_not_isDefun {form : Expr} (h : ¬ IsDefun form) (depth : Nat) (env : Env)
    (topLevel : Bool) (defs : Definitions) :
    ((evaluate depth form env topLevel).run defs).result = answer defs depth form env ∧
      ((evaluate depth form env topLevel).run defs).defs = defs := by
  rw [evaluate_of_not_isDefun h]
  exact ⟨result_evaluate defs depth form env, keepsTable_evaluate depth form env defs⟩

/-- Two outcomes have the same result and leave the same table. Their records may differ. -/
structure Outcome.Agrees {α : Type} (o o' : Outcome α) : Prop where
  result : o.result = o'.result
  defs : o.defs = o'.defs

/-- The outcome, with events recorded before it. -/
def Outcome.behind {α : Type} (events : List Event) (o : Outcome α) : Outcome α :=
  { o with events := events ++ o.events }

theorem Outcome.behind_append {α : Type} (events later : List Event) (o : Outcome α) :
    o.behind (events ++ later) = (o.behind later).behind events := by
  rw [behind, behind, behind, List.append_assoc]

/-- Two evaluations of a form agree if they agree on it as a nested one. Nothing is asked of a
    `DEFUN` form, which takes one level and looks neither at the environment nor at the levels
    below. -/
theorem agrees_evaluate {form : Expr} {env env' : Env} {depth depth' : Nat} {defs : Definitions}
    (hzero : depth = 0 ↔ depth' = 0)
    (h : ¬ IsDefun form → answer defs depth form env = answer defs depth' form env')
    (topLevel : Bool) :
    ((evaluate depth form env topLevel).run defs).Agrees
      ((evaluate depth' form env' topLevel).run defs) := by
  by_cases hform : IsDefun form
  · obtain ⟨name, tail, rfl, hkey⟩ := hform
    cases depth with
    | zero =>
        obtain rfl := hzero.mp rfl
        exact ⟨rfl, rfl⟩
    | succ below =>
        obtain ⟨below', rfl⟩ : ∃ below', depth' = below' + 1 := ⟨depth' - 1, by omega⟩
        rw [evaluate, evaluate, step_defun (evaluate below) tail env topLevel hkey,
          step_defun (evaluate below') tail env' topLevel hkey]
        exact ⟨rfl, rfl⟩
  · obtain ⟨hresult, hdefs⟩ := run_evaluate_of_not_isDefun hform depth env topLevel defs
    obtain ⟨hresult', hdefs'⟩ := run_evaluate_of_not_isDefun hform depth' env' topLevel defs
    exact ⟨hresult.trans ((h hform).trans hresult'.symm), hdefs.trans hdefs'.symm⟩

end PairLisp
