import PairLisp.Proofs.Adequacy
import PairLisp.Proofs.Correspondence

/-!
# What the number of levels can change

Evaluation is given a number of levels, and running out of them is an error like any other: it can
come from deep inside an operand or a test. This file shows that it surfaces as what it is. With
more levels a result stays what it was, unless the levels had run out; so the limit cuts evaluation
off and does nothing else.
-/

namespace PairLisp

open Eval

/-- The comparison of evaluations that differ in their levels only: running out of them on the left
    is the one excuse. -/
def Eval.acrossLevels : Matching where
  excused cause := cause = .recursionDepthExceeded
  errors := Eq
  values := Eq
  forms e env e' env' := e = e' ∧ env = env'

theorem Eval.sound_acrossLevels (defs : Definitions) : acrossLevels.Sound defs defs where
  isTrue h := congrArg Expr.isTrue h
  noMatchingClause := rfl
  shapes := by
    rintro e env _ _ ⟨rfl, rfl⟩
    refine Matching.shapes_same rfl rfl ?_ ?_
    · intro part _
      exact ⟨rfl, rfl⟩
    · intro d items _ args _
      exact ⟨rfl, rfl⟩

/-- With more levels, an answer other than running out of them stays. -/
theorem answer_of_le {defs : Definitions} {depth depth' : Nat} (h : depth ≤ depth') {e : Expr}
    {env : Env} (hr : answer defs depth e env ≠ .error .recursionDepthExceeded) :
    answer defs depth e env = answer defs depth' e env := by
  have hanswers : acrossLevels.Answers Eq (answer defs depth e env) (answer defs depth' e env) :=
    Matching.answers_answer (sound_acrossLevels defs) (.inr ⟨h, rfl⟩) ⟨rfl, rfl⟩
  refine Matching.Answers.eq_of_not_excused rfl hanswers ?_
  rintro cause hcause rfl
  exact hr hcause

/-- Without a level, every form runs out of them. -/
theorem pos_of_result_ne {depth : Nat} {e : Expr} {env : Env} {defs : Definitions} {top : Bool}
    (h : ((evaluate depth e env top).run defs).result ≠ .error .recursionDepthExceeded) :
    0 < depth := by
  cases depth with
  | zero => exact absurd rfl h
  | succ depth => exact Nat.succ_pos depth

/-- **More levels keep a result**, and the table that goes with it. -/
theorem agrees_of_le {depth depth' : Nat} (h : depth ≤ depth') {e : Expr} {env : Env}
    {defs : Definitions} {top : Bool}
    (hr : ((evaluate depth e env top).run defs).result ≠ .error .recursionDepthExceeded) :
    ((evaluate depth e env top).run defs).Agrees ((evaluate depth' e env top).run defs) := by
  have hpos := pos_of_result_ne hr
  refine agrees_evaluate (by omega) (fun hform => answer_of_le h ?_) top
  rwa [(run_evaluate_of_not_isDefun hform depth env top defs).1] at hr

/-- Every number of levels runs out exactly where the rules have no conclusion. -/
theorem cut_off_iff_not_derivable (e : Expr) (env : Env) (defs : Definitions) (top : Bool) :
    (∀ depth, ((evaluate depth e env top).run defs).result = .error .recursionDepthExceeded) ↔
      ∀ c, ¬ Rules.Derivable (.expression e env defs top c) := by
  constructor
  · intro hcut c hder
    obtain ⟨bound, hbound⟩ := Rules.settled_of_derivable hder
    have hc : (evaluate bound e env top).conclude defs = c := hbound bound (Nat.le_refl bound)
    rw [Action.conclude_eq_error_iff.mpr (hcut bound)] at hc
    exact Rules.not_fails_overflow hder hc.symm
  · intro hnone depth
    rcases Rules.explained_evaluate depth e env defs top with hcut | hder
    · exact Action.conclude_eq_error_iff.mp hcut
    · exact absurd hder (hnone _)

/-- **The number of levels cuts evaluation off and changes nothing else.** With more levels a form
    has the same result and leaves the same table, unless it had run out of levels. If it runs out
    of more levels, it runs out of fewer, and then the table is what it was. And the levels run out
    whatever their number only where the rules of evaluation have no conclusion. -/
theorem levels_only_cut_off (e : Expr) (env : Env) (defs : Definitions) (top : Bool) :
    (∀ depth depth', depth ≤ depth' →
      (((evaluate depth e env top).run defs).result ≠ .error .recursionDepthExceeded →
        ((evaluate depth' e env top).run defs).result =
            ((evaluate depth e env top).run defs).result ∧
          ((evaluate depth' e env top).run defs).defs =
            ((evaluate depth e env top).run defs).defs) ∧
      (((evaluate depth' e env top).run defs).result = .error .recursionDepthExceeded →
        ((evaluate depth e env top).run defs).result = .error .recursionDepthExceeded ∧
          ((evaluate depth e env top).run defs).defs = defs ∧
          ((evaluate depth' e env top).run defs).defs = defs)) ∧
    ((∀ depth, ((evaluate depth e env top).run defs).result = .error .recursionDepthExceeded) ↔
      ∀ c, ¬ Rules.Derivable (.expression e env defs top c)) := by
  refine ⟨fun depth depth' hle => ⟨?_, ?_⟩, cut_off_iff_not_derivable e env defs top⟩
  · intro hr
    have hagrees := agrees_of_le hle hr
    exact ⟨hagrees.result.symm, hagrees.defs.symm⟩
  · intro hcut'
    have hcut : ((evaluate depth e env top).run defs).result =
        .error .recursionDepthExceeded := by
      -- a result within fewer levels would have stayed
      by_contra hr
      exact hr ((agrees_of_le hle hr).result.trans hcut')
    exact ⟨hcut, table_evaluate_of_error hcut, table_evaluate_of_error hcut'⟩

/-- A sum of a sum is cut off within two levels. Three levels are enough, so a thousand are. -/
theorem levels_only_cut_off_nested_sum :
    ((evaluate 2 (.ofList [.atom "PLUS", .ofList [.atom "PLUS", .atom "1", .atom "2"] Expr.nil,
        .atom "3"] Expr.nil) .empty true).run .empty).result =
      .error .recursionDepthExceeded ∧
    ((evaluate 1000 (.ofList [.atom "PLUS", .ofList [.atom "PLUS", .atom "1", .atom "2"] Expr.nil,
        .atom "3"] Expr.nil) .empty true).run .empty).result = .ok (.atom "6") :=
  ⟨by decide +kernel,
    (((levels_only_cut_off _ _ _ _).1 3 1000 (by decide)).1 (by decide +kernel)).1.trans
      (by decide +kernel)⟩

end PairLisp
