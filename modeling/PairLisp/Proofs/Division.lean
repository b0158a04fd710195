import Mathlib.Data.Rat.Floor
import Mathlib.Tactic.LinearCombination
import PairLisp.Proofs.Arithmetic

/-!
# Division toward zero

`QUOTIENT` and `REMAINDER` divide one integer by another that is not zero: they divide magnitudes, give
the quotient its sign, and take its multiple from the dividend. Everything that is said here of the two
follows from three laws (`Truncated`): they make up the dividend, the remainder is smaller than the
divisor, and it is on the same side of zero as the dividend. The route:

* there is only one quotient and one remainder that obey the laws (`Truncated.unique`), and the
  quotient is the exact one rounded toward zero (`Truncated.eq_towardZero`);
* a sign can be moved from the dividend to both of them and from the divisor to the quotient
  (`Truncated.neg_left`, `Truncated.neg_right`);
* `Numeral.quotient` and `Numeral.remainder` obey the laws for all integers (`exists_truncated`);
* neither of them is larger than the dividend, so that a result is never too long to be written
  (`returns_of_computes`), and the primitives answer with both (`divides_of_ok`).
-/

namespace PairLisp

open Numeral (Spelling)

/-! ## The laws -/

/-- The laws of a quotient and a remainder. -/
structure Truncated (a b q r : Int) : Prop where
  identity : a = q * b + r
  small : |r| < |b|
  sign : r = 0 ∨ r.sign = a.sign

/-- A number rounded toward zero. -/
def towardZero (x : ℚ) : Int :=
  if 0 ≤ x then ⌊x⌋ else ⌈x⌉

theorem towardZero_neg (x : ℚ) : towardZero (-x) = -towardZero x := by
  rw [towardZero, towardZero]
  rcases lt_trichotomy x 0 with hneg | rfl | hpos
  · rw [if_pos (by linarith), if_neg (by linarith), Int.floor_neg]
  · simp
  · rw [if_neg (by linarith), if_pos hpos.le, Int.ceil_neg]

namespace Truncated

variable {a b q r q' r' : Int}

/-- No quotient and remainder obey the laws for a divisor of zero. -/
theorem divisor_ne_zero (h : Truncated a b q r) : b ≠ 0 := by
  rintro rfl
  have hlt := h.small
  have hge := abs_nonneg r
  rw [abs_zero] at hlt
  omega

theorem remainder_nonneg (h : Truncated a b q r) (ha : 0 ≤ a) : 0 ≤ r := by
  rcases h.sign with rfl | hsign
  · rfl
  · rw [← Int.sign_nonneg_iff, hsign]
    exact Int.sign_nonneg_iff.mpr ha

/-- If the dividend changes its sign, so do the quotient and the remainder. -/
theorem neg_left (h : Truncated a b q r) : Truncated (-a) b (-q) (-r) where
  identity := by linear_combination -h.identity
  small := by rw [abs_neg]; exact h.small
  sign := by
    rcases h.sign with rfl | hsign
    · exact .inl rfl
    · exact .inr (by rw [Int.sign_neg, Int.sign_neg, hsign])

/-- If the divisor changes its sign, only the quotient does too. -/
theorem neg_right (h : Truncated a b q r) : Truncated a (-b) (-q) r where
  identity := by linear_combination h.identity
  small := by rw [abs_neg]; exact h.small
  sign := h.sign

theorem remainder_nonpos (h : Truncated a b q r) (ha : a ≤ 0) : r ≤ 0 := by
  have := h.neg_left.remainder_nonneg (by omega)
  omega

/-- **The laws determine the quotient and the remainder.** -/
theorem unique (h : Truncated a b q r) (h' : Truncated a b q' r') : q = q' ∧ r = r' := by
  obtain ⟨hlow, hhigh⟩ := abs_lt.mp h.small
  obtain ⟨hlow', hhigh'⟩ := abs_lt.mp h'.small
  -- two remainders on the same side of zero are closer to each other than the divisor is to zero
  have hclose : |r - r'| < |b| := by
    rw [abs_lt]
    rcases le_total 0 a with ha | ha
    · have := h.remainder_nonneg ha
      have := h'.remainder_nonneg ha
      omega
    · have := h.remainder_nonpos ha
      have := h'.remainder_nonpos ha
      omega
  have hmultiple : |b| ∣ r - r' := by
    rw [abs_dvd]
    exact ⟨q' - q, by linear_combination h'.identity - h.identity⟩
  have hr : r = r' := by
    have := Int.eq_zero_of_abs_lt_dvd hmultiple hclose
    omega
  have hq : q * b = q' * b := by linear_combination h'.identity - h.identity - hr
  exact ⟨mul_right_cancel₀ h.divisor_ne_zero hq, hr⟩

/-- Where nothing is negative, the quotient is rounded down. -/
theorem eq_towardZero_of_pos (h : Truncated a b q r) (ha : 0 ≤ a) (hb : 0 < b) :
    q = towardZero ((a : ℚ) / b) := by
  have hr := h.remainder_nonneg ha
  have hlt := h.small
  rw [abs_of_nonneg hr, abs_of_pos hb] at hlt
  have hidentity : (a : ℚ) = q * b + r := by exact_mod_cast h.identity
  have hpos : (0 : ℚ) < b := by exact_mod_cast hb
  have hsame : (a : ℚ) / b = q + r / b := by
    rw [hidentity, add_div, mul_div_cancel_right₀ _ hpos.ne']
  have hfraction : 0 ≤ (r : ℚ) / b ∧ (r : ℚ) / b < 1 := by
    rw [div_lt_one hpos]
    exact ⟨div_nonneg (by exact_mod_cast hr) hpos.le, by exact_mod_cast hlt⟩
  rw [towardZero, if_pos (div_nonneg (by exact_mod_cast ha) hpos.le), hsame, Int.floor_intCast_add,
    Int.floor_eq_zero_iff.mpr hfraction, add_zero]

/-- **The quotient is rounded toward zero.** -/
theorem eq_towardZero (h : Truncated a b q r) : q = towardZero ((a : ℚ) / b) := by
  -- by the laws for signs, one quadrant is enough
  have hdividend {b q r : Int} (h : Truncated a b q r) (hb : 0 < b) :
      q = towardZero ((a : ℚ) / b) := by
    rcases le_total 0 a with ha | ha
    · exact h.eq_towardZero_of_pos ha hb
    · have hneg := h.neg_left.eq_towardZero_of_pos (by omega) hb
      rw [Int.cast_neg, neg_div, towardZero_neg] at hneg
      omega
  rcases lt_or_gt_of_ne h.divisor_ne_zero with hb | hb
  · have hneg := hdividend h.neg_right (by omega)
    rw [Int.cast_neg, div_neg, towardZero_neg] at hneg
    omega
  · exact hdividend h hb

end Truncated

theorem truncated_tdiv_tmod (a : Int) {b : Int} (hb : b ≠ 0) :
    Truncated a b (a.tdiv b) (a.tmod b) where
  identity := (Int.tdiv_mul_add_tmod a b).symm
  small := by
    rw [Int.abs_eq_natAbs, Int.abs_eq_natAbs, Int.natAbs_tmod]
    exact Int.ofNat_lt.mpr (Nat.mod_lt _ (Int.natAbs_pos.mpr hb))
  sign := by
    have hsign := Int.sign_tmod a b
    split at hsign
    · exact .inl (Int.sign_eq_zero_iff_zero.mp hsign)
    · exact .inr hsign

/-- **The functions for dividing integers obey the laws**, and fail for no divisor but zero. -/
theorem Numeral.exists_truncated (a : Int) {b : Int} (hb : b ≠ 0) :
    ∃ q r, Numeral.quotient a b = .ok q ∧ Numeral.remainder a b = .ok r ∧ Truncated a b q r :=
  ⟨_, _, quotient_eq_tdiv a hb, remainder_eq_tmod a hb, truncated_tdiv_tmod a hb⟩

/-! ## The primitives answer with them -/

namespace Primitive

/-- The primitive answers for two numerals with a numeral of the integer, within the limit. -/
def Returns (p : Primitive) (s t : Spelling) (n : Int) : Prop :=
  ∃ z : Spelling, z.width ≤ 4300 ∧ z.integer = n ∧
    p.apply [.atom s.text, .atom t.text] = .ok (.atom z.text)

/-- The quotient and the remainder that two numerals are divided with. -/
def Divides (s t : Spelling) (q r : Int) : Prop :=
  Primitive.quotient.Returns s t q ∧ Primitive.remainder.Returns s t r

variable {s t : Spelling}

/-- A result that is not larger than the first operand has no more digits than that. -/
theorem returns_of_computes (hs : s.width ≤ 4300) (ht : t.width ≤ 4300) {p : Primitive} {c : Int}
    (hc : Computes p s.integer t.integer c) (hle : c.natAbs ≤ s.integer.natAbs) :
    p.Returns s t c := by
  obtain ⟨z, hz, rfl, hanswer⟩ := (exact_apply (denotes_text hs) (denotes_text ht)).result hc
  have hwidth : z.width ≤ 4300 := (hz.width_le hle).trans hs
  rw [if_pos hwidth] at hanswer
  exact ⟨z, hwidth, rfl, hanswer⟩

/-- **Division within the limit never fails**: the primitives answer with the quotient and the
    remainder. -/
theorem divides_of_ok (hs : s.width ≤ 4300) (ht : t.width ≤ 4300) (hb : t.integer ≠ 0) {q r : Int}
    (hq : Numeral.quotient s.integer t.integer = .ok q)
    (hr : Numeral.remainder s.integer t.integer = .ok r) : Divides s t q r := by
  rw [Numeral.quotient_eq_tdiv _ hb] at hq
  rw [Numeral.remainder_eq_tmod _ hb] at hr
  cases hq
  cases hr
  refine ⟨returns_of_computes hs ht (.quotient hb) (Int.natAbs_tdiv_le_natAbs _ _),
    returns_of_computes hs ht (.remainder hb) ?_⟩
  rw [Int.natAbs_tmod]
  exact Nat.mod_le _ _

/-- What obeys the laws is what the primitives answer. -/
theorem divides_of_truncated (hs : s.width ≤ 4300) (ht : t.width ≤ 4300) {q r : Int}
    (h : Truncated s.integer t.integer q r) : Divides s t q r := by
  have hb := h.divisor_ne_zero
  obtain ⟨q', r', hq, hr, htruncated⟩ := Numeral.exists_truncated s.integer hb
  obtain ⟨rfl, rfl⟩ := h.unique htruncated
  exact divides_of_ok hs ht hb hq hr

end Primitive

open Primitive

/-- **Division is total within the limit, and it truncates.** The quotient and the remainder of two
    integers of at most 4300 digits, the second one not zero, are computed and always returned. They
    obey the laws, which no others do, and the quotient is rounded toward zero. With the sign of the
    dividend both change theirs, and with the sign of the divisor only the quotient does. -/
theorem division_truncates {s t : Spelling} (hs : s.width ≤ 4300) (ht : t.width ≤ 4300)
    (hb : t.integer ≠ 0) :
    ∃ q r, Numeral.quotient s.integer t.integer = .ok q ∧
      Numeral.remainder s.integer t.integer = .ok r ∧
      Divides s t q r ∧ Truncated s.integer t.integer q r ∧
      q = towardZero ((s.integer : ℚ) / t.integer) ∧
      (∀ q' r', Truncated s.integer t.integer q' r' → q' = q ∧ r' = r) ∧
      (∀ s' : Spelling, s'.width ≤ 4300 → s'.integer = -s.integer → Divides s' t (-q) (-r)) ∧
      ∀ t' : Spelling, t'.width ≤ 4300 → t'.integer = -t.integer → Divides s t' (-q) r := by
  obtain ⟨q, r, hq, hr, htruncated⟩ := Numeral.exists_truncated s.integer hb
  refine ⟨q, r, hq, hr, divides_of_ok hs ht hb hq hr, htruncated, htruncated.eq_towardZero,
    ?_, ?_, ?_⟩
  · intro q' r' htruncated'
    exact htruncated'.unique htruncated
  · intro s' hs' hneg
    refine divides_of_truncated hs' ht ?_
    rw [hneg]
    exact htruncated.neg_left
  · intro t' ht' hneg
    refine divides_of_truncated hs ht' ?_
    rw [hneg]
    exact htruncated.neg_right

/-- Minus seven divided by two, each written with more than it takes. -/
theorem division_truncates_minus_seven :
    (⟨.plus, [2], by decide, by decide⟩ : Spelling).integer ≠ 0 ∧
    Divides ⟨.minus, [0, 7], by decide, by decide⟩ ⟨.plus, [2], by decide, by decide⟩ (-3) (-1) := by
  have hdivisor : (⟨.plus, [2], by decide, by decide⟩ : Spelling).integer ≠ 0 := by decide
  obtain ⟨q, r, _, _, hdivides, _, _, hunique, _⟩ :=
    division_truncates (s := ⟨.minus, [0, 7], by decide, by decide⟩) (by decide) (by decide) hdivisor
  obtain ⟨rfl, rfl⟩ := hunique (-3) (-1) ⟨by decide, by decide, by decide⟩
  exact ⟨hdivisor, hdivides⟩

end PairLisp
