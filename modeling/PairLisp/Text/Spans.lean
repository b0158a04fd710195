/-!
# Spans of code points

A property of characters is given by the closed spans of code points that have it.
-/

namespace PairLisp.Text

/-- Whether `n` lies in one of the closed spans of a table. -/
def inSpans (table : List (Nat × Nat)) (n : Nat) : Bool :=
  table.any fun span => span.1 ≤ n && n ≤ span.2

theorem inSpans_iff {table : List (Nat × Nat)} {n : Nat} :
    inSpans table n = true ↔ ∃ span ∈ table, span.1 ≤ n ∧ n ≤ span.2 := by
  simp [inSpans]

end PairLisp.Text
