import PairLisp.Proofs.Nested

/-!
# What a conditional evaluates

A conditional is checked as a whole before anything in it is evaluated, and then no more of it is
evaluated than it takes to decide it: the tests up to the first one that is true or fails, and the
result that goes with it. The route:

* `InOrder` is what is asked of the tail of a conditional. A tail that is not in order is refused
  without a look at anything else (`run_evaluate_of_not_inOrder`);
* the clauses of one that is in order are tried from left to right. A clause whose test is not true
  leaves nothing behind but the records of the test (`run_select_cons_ok`), and so do all such clauses
  in a row, by induction (`run_select_skipped`);
* so the outcome can be written down from the tests that were tried and the result that was selected
  (`run_select_selected`, `run_select_failed`, `run_select_exhausted`), and two conditionals that share
  these cannot be told apart.
-/

namespace PairLisp

namespace Eval

/-! ## Tails in order -/

/-- The tail of a conditional is a pair and a proper list, and each of its items is a proper list of
    two parts. -/
def InOrder (tail : Expr) : Prop :=
  (∃ first rest, tail = .pair first rest) ∧
    ∃ items, tail.Proper items ∧ ∀ item ∈ items, ∃ test result, item.Proper [test, result]

/-- Items that are lists of two parts are clauses. -/
theorem exists_clauseList {items : List Expr}
    (h : ∀ item ∈ items, ∃ test result : Expr, item.Proper [test, result]) :
    ∃ cs, ClauseList items cs := by
  induction items with
  | nil => exact ⟨[], .nil⟩
  | cons item items ih =>
      obtain ⟨test, result, hitem⟩ := h item List.mem_cons_self
      obtain ⟨cs, hcs⟩ := ih fun other hother => h other (List.mem_cons_of_mem item hother)
      exact ⟨(test, result) :: cs, .cons hitem hcs⟩

theorem parts_of_clauseList {items : List Expr} {cs : List (Expr × Expr)} (h : ClauseList items cs) :
    ∀ item ∈ items, ∃ test result : Expr, item.Proper [test, result] := by
  induction h with
  | nil =>
      intro item hitem
      cases hitem
  | cons hfirst _ ih =>
      intro item hitem
      rcases List.mem_cons.mp hitem with rfl | hrest
      · exact ⟨_, _, hfirst⟩
      · exact ih item hrest

/-- **A tail is in order exactly if it consists of clauses.** -/
theorem inOrder_iff {tail : Expr} : InOrder tail ↔ ∃ cs, Clauses tail (.ok cs) := by
  constructor
  · rintro ⟨⟨first, rest, rfl⟩, items, hproper, hitems⟩
    obtain ⟨cs, hcs⟩ := exists_clauseList hitems
    exact ⟨cs, .clauses hproper hcs⟩
  · rintro ⟨cs, hcs⟩
    cases hcs with
    | clauses hproper hlist => exact ⟨⟨_, _, rfl⟩, _, hproper, parts_of_clauseList hlist⟩

instance : DecidablePred InOrder := fun tail =>
  decidable_of_iff ((clauses tail).isOk = true) (by
    rw [inOrder_iff]
    constructor
    · intro h
      cases hcs : clauses tail with
      | error fault =>
          rw [hcs] at h
          cases h
      | ok cs => exact ⟨cs, clauses_iff.mpr hcs⟩
    · rintro ⟨cs, hcs⟩
      rw [clauses_iff.mp hcs]
      rfl)

/-! ## Clauses in a row -/

/-- The tests of the clauses have values, and none of these is true. -/
def Skipped (eval : Evaluator) (env : Env) (defs : Definitions) (cs : List (Expr × Expr)) : Prop :=
  ∀ clause ∈ cs, ∃ value, ((eval clause.1 env false).run defs).result = .ok value ∧
    value.isTrue = false

/-- Whether clauses are skipped is a matter of their tests. -/
theorem Skipped.of_tests {eval : Evaluator} {env : Env} {defs : Definitions}
    {cs cs' : List (Expr × Expr)} (h : Skipped eval env defs cs)
    (htests : cs'.map Prod.fst = cs.map Prod.fst) : Skipped eval env defs cs' := by
  intro clause hclause
  have htest : clause.1 ∈ cs.map Prod.fst := htests ▸ List.mem_map_of_mem hclause
  obtain ⟨other, hother, heq⟩ := List.mem_map.mp htest
  rw [← heq]
  exact h other hother

/-- What is recorded while tests are tried. -/
def testEvents (eval : Evaluator) (env : Env) (defs : Definitions) (tests : List Expr) :
    List Event :=
  tests.flatMap fun test => ((eval test env false).run defs).events

section Level

variable {eval : Evaluator} (heval : ∀ e env, (eval e env false).KeepsTable)
variable {env : Env} {defs : Definitions} {test result : Expr} {later : List (Expr × Expr)}
include heval

/-- What follows a test that has a value starts from the table that the test started from. -/
theorem run_select_cons_ok {value : Expr}
    (h : ((eval test env false).run defs).result = .ok value) :
    (select eval env ((test, result) :: later)).run defs =
      ((if value.isTrue then eval result env false else select eval env later).run defs).behind
        ((eval test env false).run defs).events := by
  have hkeep := heval test env defs
  show (Action.andThen (eval test env false) _).run defs = _
  rw [Action.run_andThen_ok h, hkeep]
  rfl

/-- **Clauses that are skipped leave only the records of their tests.** -/
theorem run_select_skipped {skipped : List (Expr × Expr)} (h : Skipped eval env defs skipped)
    (rest : List (Expr × Expr)) :
    (select eval env (skipped ++ rest)).run defs =
      ((select eval env rest).run defs).behind
        (testEvents eval env defs (skipped.map Prod.fst)) := by
  induction skipped with
  | nil => rfl
  | cons clause skipped ih =>
      obtain ⟨test, result⟩ := clause
      obtain ⟨value, hvalue, hfalse⟩ := h (test, result) List.mem_cons_self
      have ih := ih fun other hother => h other (List.mem_cons_of_mem _ hother)
      rw [List.cons_append, run_select_cons_ok heval hvalue, hfalse]
      show ((select eval env (skipped ++ rest)).run defs).behind _ = _
      rw [ih, ← Outcome.behind_append]
      rfl

variable {skipped : List (Expr × Expr)} (hskipped : Skipped eval env defs skipped)
include hskipped

/-- The clause behind those that are skipped has a true test: its result is evaluated, and no other
    result and no later test. -/
theorem run_select_selected {value : Expr}
    (h : ((eval test env false).run defs).result = .ok value) (htrue : value.isTrue = true) :
    (select eval env (skipped ++ (test, result) :: later)).run defs =
      ((eval result env false).run defs).behind
        (testEvents eval env defs (skipped.map Prod.fst) ++
          ((eval test env false).run defs).events) := by
  rw [run_select_skipped heval hskipped, run_select_cons_ok heval h, if_pos htrue,
    Outcome.behind_append]

/-- The clause behind those that are skipped has a test that fails: no result is evaluated. -/
theorem run_select_failed {cause : EvalError}
    (h : ((eval test env false).run defs).result = .error cause) :
    (select eval env (skipped ++ (test, result) :: later)).run defs =
      ⟨.error cause, defs, testEvents eval env defs (skipped.map Prod.fst) ++
        ((eval test env false).run defs).events⟩ := by
  have hkeep := heval test env defs
  have hfails : (select eval env ((test, result) :: later)).run defs =
      ⟨.error cause, defs, ((eval test env false).run defs).events⟩ := by
    show (Action.andThen (eval test env false) _).run defs = _
    rw [Action.run_andThen_error h, hkeep]
  rw [run_select_skipped heval hskipped, hfails]
  rfl

/-- All clauses are skipped. -/
theorem run_select_exhausted :
    (select eval env skipped).run defs =
      ⟨.error .noMatchingClause, defs, testEvents eval env defs (skipped.map Prod.fst)⟩ := by
  have hrun := run_select_skipped heval hskipped []
  rw [List.append_nil] at hrun
  rw [hrun]
  show Outcome.mk _ _ (_ ++ []) = _
  rw [List.append_nil]
  rfl

end Level

/-! ## Conditional forms -/

variable {name : String} (hname : Symbol.key name = "COND") {tail : Expr}
include hname

/-- A tail that is not in order is refused. What is wrong with it can be told from the tail alone. -/
theorem run_evaluate_of_not_inOrder (h : ¬ InOrder tail) :
    ∃ fault, ∀ depth env topLevel defs,
      (evaluate (depth + 1) (.pair (.atom name) tail) env topLevel).run defs =
        ⟨.error (.malformedConditional fault), defs, []⟩ := by
  cases hcs : clauses tail with
  | ok cs => exact absurd (inOrder_iff.mpr ⟨cs, clauses_iff.mpr hcs⟩) h
  | error fault =>
      refine ⟨fault, fun depth env topLevel defs => ?_⟩
      rw [evaluate, step_cond (evaluate depth) tail env topLevel hname, conditional, hcs]
      rfl

/-- A conditional is evaluated by looking through its clauses one level below. -/
theorem run_evaluate_conditional {cs : List (Expr × Expr)} (h : Clauses tail (.ok cs))
    (depth : Nat) (env : Env) (topLevel : Bool) (defs : Definitions) :
    (evaluate (depth + 1) (.pair (.atom name) tail) env topLevel).run defs =
      (select (evaluate depth) env cs).run defs := by
  rw [evaluate, step_cond (evaluate depth) tail env topLevel hname, conditional, clauses_iff.mp h]

end Eval

open Eval

end PairLisp
