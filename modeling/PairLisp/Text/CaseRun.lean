/-!
# Runs of case pairs

Alphabets list their capitals and small letters either as two parallel blocks or as alternating
neighbours. Both layouts are a run: code points at a fixed distance from each other that are all
moved by the same amount. The case tables are lists of such runs.
-/

namespace PairLisp.Text

/-- The code points `first`, `first + step`, … up to `last`, where `first` maps to `target` and
    the others follow at the same distance. -/
structure CaseRun where
  first : Nat
  last : Nat
  step : Nat
  target : Nat
deriving DecidableEq

namespace CaseRun

/-- Whether `n` is one of the code points of the run. -/
def covers (run : CaseRun) (n : Nat) : Bool :=
  run.first ≤ n && n ≤ run.last && (n - run.first) % run.step == 0

/-- Where the run sends the code point `n`. -/
def image (run : CaseRun) (n : Nat) : Nat :=
  run.target + (n - run.first)

end CaseRun

end PairLisp.Text
