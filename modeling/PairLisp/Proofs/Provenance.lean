import PairLisp.Proofs.Numerals
import PairLisp.Proofs.Vocabulary

/-!
# Where the atoms of a value come from

Evaluation moves values between arguments, bindings, quoted constants and pairs, and the only atoms it
makes itself are `T`, `NIL` and the numerals of its results. Every other atom of a value was written
down before, in the same letters. The route:

* any stock of tokens that has those which are made is a vocabulary (`Vocabulary.ofStock`), and so
  evaluation keeps to it;
* what is written in a form, in the bound values and in the bodies of the definitions in force, together
  with what is made, is such a stock (`Available`). It is fixed while the environment grows, since a
  function body sees the arguments beside the bindings of its caller;
* a `DEFUN` form returns a name that is written in it (`part_of_define`).
-/

namespace PairLisp

open Numeral (Spelling)

/-- The tokens of the atoms that evaluation makes itself. -/
def Made (token : String) : Prop :=
  token = "T" ∨ token = "NIL" ∨
    ∃ z : Spelling, z.Canonical ∧ z.width ≤ 4300 ∧ z.text = token

/-- The vocabulary of a stock of tokens, with blanks and with any names in errors. -/
def Vocabulary.ofStock (stock : String → Prop) (hmade : ∀ token, Made token → stock token) :
    Vocabulary where
  atoms := stock
  names _ := True
  blanks := True
  names_of_atoms _ := trivial
  truth := hmade "T" (.inl rfl)
  nil := hmade "NIL" (.inr (.inl rfl))
  numeral n hfits := by
    obtain ⟨z, hz, rfl⟩ := Spelling.exists_canonical n
    rw [← hz.text_eq] at hfits ⊢
    exact hmade _ (.inr (.inr ⟨z, hz, z.fits_text.mp hfits, rfl⟩))
  label _ := trivial
  quote := trivial

namespace Eval

/-- The value of a `DEFUN` form is an atom that is written in it. -/
theorem part_of_define {tail : Expr} {top : Bool} {defs : Definitions} {value : Expr}
    (h : ((define tail top).run defs).result = .ok value) : value.Part tail := by
  cases top with
  | false => cases h
  | true =>
      cases hd : Definition.ofOperands tail with
      | error fault =>
          simp only [define, hd] at h
          cases h
      | ok d =>
          rw [(run_define_accepted hd defs).1] at h
          cases h
          cases Definition.describes_iff.mpr hd with
          | definition hproper _ _ _ => exact Expr.part_of_proper hproper List.mem_cons_self

/-- The tokens that are made, or written in an expression, in a bound value or in the body of a
    definition in force. -/
def Available (defs : Definitions) (e : Expr) (env : Env) (token : String) : Prop :=
  Made token ∨ token ∈ e.tokens ∨
    (∃ name bound, (name, bound) ∈ env.bindings ∧ token ∈ bound.tokens) ∨
    ∃ name d, defs.get? name = some d ∧ token ∈ d.body.tokens

/-- The tokens of a value are available. -/
theorem available_of_answer {defs : Definitions} {depth : Nat} {e : Expr} {env : Env} {value : Expr}
    (h : answer defs depth e env = .ok value) :
    ∀ token ∈ value.tokens, Available defs e env token := by
  have hvalue : ResultWithin (.ofStock (Available defs e env) fun _ => .inl)
      (answer defs depth e env) := by
    refine within_answer ?_ depth ?_ ?_
    · intro name d hd
      refine ⟨trivial, Expr.composedOf_iff_tokens.mpr ?_⟩
      intro token htoken
      exact .inr (.inr (.inr ⟨name, d, hd, htoken⟩))
    · exact Expr.composedOf_iff_tokens.mpr fun token htoken => .inr (.inl htoken)
    · intro binding hbinding
      refine Expr.composedOf_iff_tokens.mpr fun token htoken => ?_
      exact .inr (.inr (.inl ⟨binding.1, binding.2, hbinding, htoken⟩))
  rw [h] at hvalue
  exact Expr.composedOf_iff_tokens.mp hvalue

end Eval

open Eval

/-- **Evaluation invents no symbols.** Every atom of a value is `T`, `NIL` or the canonical numeral of
    an integer of at most 4300 digits, or it is written, in the same letters, in the expression, in a
    value that is bound or in the body of a definition in force. -/
theorem evaluation_invents_no_symbols (depth : Nat) (e : Expr) (env : Env) (top : Bool)
    (defs : Definitions) {value : Expr}
    (h : ((evaluate depth e env top).run defs).result = .ok value) {token : String}
    (htoken : token ∈ value.tokens) :
    token = "T" ∨ token = "NIL" ∨
    (∃ z : Spelling, z.Canonical ∧ z.width ≤ 4300 ∧ z.text = token) ∨
    token ∈ e.tokens ∨
    (∃ name bound, (name, bound) ∈ env.bindings ∧ token ∈ bound.tokens) ∨
    ∃ name d, defs.get? name = some d ∧ token ∈ d.body.tokens := by
  by_cases hform : IsDefun e
  · obtain ⟨name, tail, rfl, hkey⟩ := hform
    cases depth with
    | zero => cases h
    | succ below =>
        rw [evaluate, step_defun (evaluate below) tail env top hkey] at h
        have hpart : value.Part (.pair (.atom name) tail) := .rest (part_of_define h)
        exact .inr (.inr (.inr (.inl (hpart.tokens_subset htoken))))
  · rw [(run_evaluate_of_not_isDefun hform depth env top defs).1] at h
    rcases available_of_answer h token htoken with (htruth | hnil | hnumeral) | hwritten
    · exact .inl htruth
    · exact .inr (.inl hnil)
    · exact .inr (.inr (.inl hnumeral))
    · exact .inr (.inr (.inr hwritten))

/-- A small letter in a value that neither the form nor the environment has can only come from a
    body. -/
theorem evaluation_invents_no_symbols_quoted_in_body :
    ((evaluate 9 (.ofList [.atom "F", .ofList [.atom "CAR", .atom "X"] Expr.nil] Expr.nil)
        (.bind "X" (.pair (.atom "a") (.atom "7")) .empty) true).run
      (Definitions.empty.add ⟨"F", ["N"], .ofList [.atom "CONS", .atom "N",
        .ofList [.atom "QUOTE", .atom "b"] Expr.nil] Expr.nil⟩)).result =
      .ok (.pair (.atom "a") (.atom "b")) ∧
    ∃ name d, (Definitions.empty.add ⟨"F", ["N"], .ofList [.atom "CONS", .atom "N",
      .ofList [.atom "QUOTE", .atom "b"] Expr.nil] Expr.nil⟩).get? name = some d ∧
        "b" ∈ d.body.tokens := by
  have hvalue : ((evaluate 9 (.ofList [.atom "F", .ofList [.atom "CAR", .atom "X"] Expr.nil] Expr.nil)
        (.bind "X" (.pair (.atom "a") (.atom "7")) .empty) true).run
      (Definitions.empty.add ⟨"F", ["N"], .ofList [.atom "CONS", .atom "N",
        .ofList [.atom "QUOTE", .atom "b"] Expr.nil] Expr.nil⟩)).result =
      .ok (.pair (.atom "a") (.atom "b")) := by decide +kernel
  refine ⟨hvalue, ?_⟩
  rcases evaluation_invents_no_symbols _ _ _ _ _ hvalue (by decide : "b" ∈ ["a", "b"]) with
    htruth | hnil | ⟨z, _, _, hz⟩ | hform | ⟨name, bound, hbound, hmem⟩ | hbody
  · exact absurd htruth (by decide)
  · exact absurd hnil (by decide)
  · have hnumeral := z.isNumeral_text
    rw [hz] at hnumeral
    exact absurd hnumeral (by decide +kernel)
  · exact absurd hform (by decide)
  · obtain ⟨_, rfl⟩ := Prod.mk.inj (List.mem_singleton.mp hbound)
    exact absurd hmem (by decide)
  · exact hbody

end PairLisp
