import PairLisp.Misuse
import PairLisp.Text.CharClass

/-!
# Numerals

An integer is written as an optional sign and ASCII digits, and conversions in either direction
are limited to `digitLimit` digits: leading zeros count, the sign does not. A second, wider form
is read from configuration values only: there the digits may be of any script, and single
underscores may stand between them.
-/

namespace PairLisp.Numeral

/-- The largest number of digits that is converted between text and integer. -/
def digitLimit : Nat := 4300

/-! ## Tokens -/

/-- The sign and the digits of a token: whether it starts with a minus, and what follows an
    optional sign. -/
def splitSign : List Char → Bool × List Char
  | '-' :: cs => (true, cs)
  | '+' :: cs => (false, cs)
  | cs => (false, cs)

/-- The characters of a token behind an optional sign. -/
def digits (token : String) : List Char :=
  (splitSign token.toList).2

/-- Whether a token is an integer: an optional sign and at least one digit, and nothing else. -/
def isNumeral (token : String) : Bool :=
  !(digits token).isEmpty && (digits token).all Char.isDigit

/-- Whether a token has few enough digits to be converted. -/
def fits (token : String) : Bool :=
  (digits token).length ≤ digitLimit

/-- Gives a magnitude its sign. -/
def signed (negative : Bool) (n : Nat) : Int :=
  if negative then -(n : Int) else n

/-- The integer that a numeral denotes. -/
def value (token : String) : Int :=
  signed (splitSign token.toList).1 (Nat.ofDigitChars 10 (digits token) 0)

/-- The canonical numeral of an integer. -/
def ofInt (n : Int) : String :=
  String.ofList ((if n < 0 then ['-'] else []) ++ Nat.toDigits 10 n.natAbs)

/-- The integer of a token, if the token is a numeral with few enough digits. -/
def toInt (token : String) : Except Misuse Int :=
  if isNumeral token && fits token then .ok (value token) else .error .notConverted

/-- The canonical numeral of an integer, if it has few enough digits. -/
def toText (n : Int) : Except Misuse String :=
  let token := ofInt n
  if fits token then .ok token else .error .notConverted

/-! ## Division -/

/-- The quotient of two integers, rounded down. -/
def floorQuotient (a b : Int) : Except Misuse Int :=
  if b = 0 then .error .zeroDivisor else .ok (a.fdiv b)

/-- The quotient of two integers, rounded toward zero: that of their magnitudes, with a minus if only
    one of the two is negative. -/
def quotient (a b : Int) : Except Misuse Int := do
  let q ← floorQuotient a.natAbs b.natAbs
  return if decide (0 ≤ a) == decide (0 ≤ b) then q else -q

/-- What the quotient leaves of the dividend, whose sign it has. -/
def remainder (a b : Int) : Except Misuse Int := do
  let q ← quotient a b
  return a - b * q

/-- Of magnitudes the quotient rounded down is the one of natural numbers. -/
theorem floorQuotient_natAbs (a : Int) {b : Int} (hb : b ≠ 0) :
    floorQuotient a.natAbs b.natAbs = .ok (a.natAbs / b.natAbs : Nat) := by
  rw [floorQuotient, if_neg (by omega), Int.fdiv_eq_ediv_of_nonneg _ (Int.natCast_nonneg _)]
  rfl

/-- **The quotient is the one that is rounded toward zero.** The sign of an exact multiple and of zero
    comes out right, since minus zero is zero. -/
theorem quotient_eq_tdiv (a : Int) {b : Int} (hb : b ≠ 0) : quotient a b = .ok (a.tdiv b) := by
  have hq : quotient a b =
      .ok (if decide (0 ≤ a) == decide (0 ≤ b) then ((a.natAbs / b.natAbs : Nat) : Int)
        else -((a.natAbs / b.natAbs : Nat) : Int)) := by
    rw [quotient, floorQuotient_natAbs a hb]
    rfl
  rw [hq]
  rcases a with m | m <;> rcases b with n | n
  · rfl
  · simp [Int.tdiv]
  · rfl
  · rfl

/-- What is left has the sign of the dividend. -/
theorem remainder_eq_tmod (a : Int) {b : Int} (hb : b ≠ 0) :
    remainder a b = .ok (a.tmod b) := by
  rw [remainder, quotient_eq_tdiv a hb, Int.tmod_def]
  rfl

/-! ## Configuration values -/

/-- The digit values of a configuration literal: digits of any script, with at most one
    underscore between two of them and none at the ends. -/
def literalDigits? : List Char → Option (List Nat)
  | [] => none
  | [c] => (Text.digitValue? c).map ([·])
  | c :: '_' :: cs => (Text.digitValue? c).bind fun d => (literalDigits? cs).map (d :: ·)
  | c :: c₂ :: cs => (Text.digitValue? c).bind fun d => (literalDigits? (c₂ :: cs)).map (d :: ·)

/-- The integer that a configuration literal denotes, if it is one and stays within the limit. -/
def ofLiteral? (s : String) : Option Int :=
  let (negative, cs) := splitSign s.toList
  (literalDigits? cs).bind fun ds =>
    if ds.length ≤ digitLimit then
      some (signed negative (ds.foldl (fun n d => 10 * n + d) 0))
    else none

end PairLisp.Numeral
