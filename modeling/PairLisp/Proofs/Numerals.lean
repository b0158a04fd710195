import Mathlib.Data.Nat.Digits.Lemmas
import PairLisp.Proofs.AsciiCase

/-!
# How integers are written

An integer can be written in many ways: `5`, `+5` and `005` are numerals of the same one. Here a
numeral is taken apart, and what is read off its characters is identified with what its digits say
by their places. The route:

* a `Spelling` is a sign that may be missing and a row of digits. Its `text` is the token, its `width`
  the number of its digits, and its `integer` what it denotes by place value;
* the numerals are the texts of spellings (`isNumeral_iff`), and the value of such a token, whether it
  is short enough to be converted, and the key it is compared under can all be read off the spelling
  (`value_text`, `fits_text`, `key_text`);
* a spelling is `Canonical` if nothing can be left out of it. Every integer has a canonical spelling
  (`exists_canonical`), and this is how it is written (`Canonical.text_eq`), so that there is only one
  (`Canonical.unique`), and reading undoes writing (`value_ofInt`);
* so there is no shorter spelling of an integer than the canonical one, nor one of a larger integer
  (`Canonical.width_le`).
-/

namespace PairLisp
namespace Numeral

/-! ## Spellings -/

/-- What may stand in front of the digits. -/
inductive Sign where
  | none
  | plus
  | minus
deriving DecidableEq

/-- The characters of a sign. -/
def Sign.chars : Sign → List Char
  | .none => []
  | .plus => ['+']
  | .minus => ['-']

/-- The integer that a magnitude stands for behind a sign. -/
def Sign.integer : Sign → Nat → Int
  | .minus, n => -n
  | .none, n | .plus, n => n

/-- The sign that an integer takes. -/
def Sign.ofInt (n : Int) : Sign :=
  if n < 0 then .minus else .none

theorem Sign.ofInt_ne_plus (n : Int) : ofInt n ≠ .plus := by
  rw [ofInt]
  split <;> decide

/-- The sign of an integer and its magnitude give the integer back. -/
theorem Sign.integer_ofInt (n : Int) : (ofInt n).integer n.natAbs = n := by
  rw [ofInt]
  split
  · show -(n.natAbs : Int) = n
    omega
  · show (n.natAbs : Int) = n
    omega

theorem Sign.signed_eq (sign : Sign) (n : Nat) :
    signed (decide (sign = .minus)) n = sign.integer n := by
  cases sign with
  | none => rfl
  | plus => rfl
  | minus => rfl

/-- The sign in front of a character that is none is split off. -/
theorem splitSign_chars_append (sign : Sign) {c : Char} (hplus : c ≠ '+') (hminus : c ≠ '-')
    (cs : List Char) : splitSign (sign.chars ++ c :: cs) = (decide (sign = .minus), c :: cs) := by
  cases sign with
  | none => exact splitSign_of_ne hplus hminus cs
  | plus => rfl
  | minus => rfl

/-- What is split off is a sign. -/
theorem exists_sign (cs : List Char) :
    ∃ sign : Sign, sign.chars ++ (splitSign cs).2 = cs ∧ (splitSign cs).1 = decide (sign = .minus) := by
  rcases splitSign_cases cs with ⟨hcs, hminus⟩ | ⟨hcs, hminus⟩ | ⟨hcs, hminus⟩
  · exact ⟨.minus, hcs.symm, hminus⟩
  · exact ⟨.plus, hcs.symm, hminus⟩
  · exact ⟨.none, hcs.symm, hminus⟩

/-- A way of writing an integer: a sign that may be missing, and at least one decimal digit. -/
structure Spelling where
  sign : Sign
  /-- The digits, that of the highest place first. -/
  digits : List Nat
  digits_ne_nil : digits ≠ []
  lt_ten : ∀ d ∈ digits, d < 10
deriving DecidableEq

namespace Spelling

/-- The sign and the digits in a row. -/
def text (s : Spelling) : String :=
  String.ofList (s.sign.chars ++ s.digits.map Nat.digitChar)

/-- The number of digits. Leading zeros count, the sign does not. -/
def width (s : Spelling) : Nat :=
  s.digits.length

/-- The sum of the digits, each times the power of ten that belongs to its place. -/
def magnitude (s : Spelling) : Nat :=
  Nat.ofDigits 10 s.digits.reverse

/-- The integer that is written. -/
def integer (s : Spelling) : Int :=
  s.sign.integer s.magnitude

/-- Nothing can be left out: there is no plus sign, and a leading zero is all there is. -/
structure Canonical (s : Spelling) : Prop where
  sign_ne_plus : s.sign ≠ .plus
  of_leading_zero : s.digits.head? = some 0 → s.sign = .none ∧ s.digits = [0]

theorem width_pos (s : Spelling) : 0 < s.width :=
  List.length_pos_iff.mpr s.digits_ne_nil

theorem natAbs_integer (s : Spelling) : s.integer.natAbs = s.magnitude := by
  rw [integer]
  cases s.sign with
  | none => rfl
  | plus => rfl
  | minus => exact Int.natAbs_neg _

/-- An integer has no more digits than it is written with. -/
theorem natAbs_integer_lt (s : Spelling) : s.integer.natAbs < 10 ^ s.width := by
  have hdigits : ∀ d ∈ s.digits.reverse, d < 10 := fun d hd => s.lt_ten d (List.mem_reverse.mp hd)
  have hlt := Nat.ofDigits_lt_base_pow_length (by decide) hdigits
  rw [List.length_reverse] at hlt
  rw [natAbs_integer]
  exact hlt

end Spelling

/-! ## Digits as characters -/

theorem isDigit_digitChar {d : Nat} (h : d < 10) : d.digitChar.isDigit = true := by
  rw [Nat.isDigit_digitChar, decide_eq_true h]

/-- Every digit character is that of a number below ten. -/
theorem digitChar_of_isDigit {c : Char} (h : c.isDigit = true) :
    c.toNat - 48 < 10 ∧ (c.toNat - 48).digitChar = c := by
  have hrange := Text.isDigit_iff.mp h
  have hlt : c.toNat - 48 < 10 := by omega
  refine ⟨hlt, ?_⟩
  rw [← Char.toNat_inj, Nat.toNat_digitChar_of_lt_ten hlt]
  omega

/-- Reading digits from the left comes to their sum by places. -/
theorem ofDigitChars_map_digitChar {ds : List Nat} (h : ∀ d ∈ ds, d < 10) (read : Nat) :
    Nat.ofDigitChars 10 (ds.map Nat.digitChar) read =
      Nat.ofDigits 10 ds.reverse + 10 ^ ds.length * read := by
  induction ds generalizing read with
  | nil => simp
  | cons d ds ih =>
      obtain ⟨hd, hds⟩ := List.forall_mem_cons.mp h
      rw [List.map_cons, Nat.ofDigitChars_cons_digitChar_of_lt_ten hd, ih hds,
        Nat.ofDigits_reverse_cons, List.length_cons, pow_succ]
      ring

/-- Digits behind a number that is not zero are written as they are. -/
theorem toDigits_ofDigitChars {ds : List Nat} (h : ∀ d ∈ ds, d < 10) {read : Nat} (hread : 0 < read) :
    Nat.toDigits 10 (Nat.ofDigitChars 10 (ds.map Nat.digitChar) read) =
      Nat.toDigits 10 read ++ ds.map Nat.digitChar := by
  induction ds generalizing read with
  | nil => simp
  | cons d ds ih =>
      obtain ⟨hd, hds⟩ := List.forall_mem_cons.mp h
      have hlonger : Nat.toDigits 10 (10 * read + d) = Nat.toDigits 10 read ++ [d.digitChar] := by
        rw [← Nat.toDigits_append_toDigits (by decide) hread hd, Nat.toDigits_of_lt_base hd]
      rw [List.map_cons, Nat.ofDigitChars_cons_digitChar_of_lt_ten hd, ih hds (by omega), hlonger,
        List.append_assoc]
      rfl

/-! ## Numerals are the texts of spellings -/

namespace Spelling

/-- The sign of a numeral is told from its digits. -/
theorem splitSign_text (s : Spelling) :
    splitSign s.text.toList = (decide (s.sign = .minus), s.digits.map Nat.digitChar) := by
  obtain ⟨d, ds, hdigits⟩ := List.exists_cons_of_ne_nil s.digits_ne_nil
  have hd : d.digitChar.isDigit = true := isDigit_digitChar (s.lt_ten d (by simp [hdigits]))
  have hplus : d.digitChar ≠ '+' := by
    intro heq
    rw [heq] at hd
    cases hd
  have hminus : d.digitChar ≠ '-' := by
    intro heq
    rw [heq] at hd
    cases hd
  rw [text, String.toList_ofList, hdigits, List.map_cons, splitSign_chars_append s.sign hplus hminus]

theorem digits_text (s : Spelling) : Numeral.digits s.text = s.digits.map Nat.digitChar := by
  rw [Numeral.digits, splitSign_text]

/-- What is spelled as a numeral is taken for one. -/
theorem isNumeral_text (s : Spelling) : isNumeral s.text = true := by
  rw [isNumeral, digits_text, Bool.and_eq_true, List.all_eq_true]
  constructor
  · simpa using s.digits_ne_nil
  · intro c hc
    obtain ⟨d, hd, rfl⟩ := List.mem_map.mp hc
    exact isDigit_digitChar (s.lt_ten d hd)

/-- **A numeral denotes the sum of its digits by places.** -/
theorem value_text (s : Spelling) : value s.text = s.integer := by
  rw [value, splitSign_text, digits_text, ofDigitChars_map_digitChar s.lt_ten, Nat.mul_zero,
    Nat.add_zero, Sign.signed_eq, integer, magnitude]

/-- A numeral fits if it is not wider than the limit. -/
theorem fits_text (s : Spelling) : fits s.text = true ↔ s.width ≤ digitLimit := by
  rw [fits, digits_text, List.length_map, decide_eq_true_iff, width]

end Spelling

/-- **A token is a numeral exactly if it can be spelled** as a sign and digits. -/
theorem isNumeral_iff {token : String} : isNumeral token = true ↔ ∃ s : Spelling, s.text = token := by
  constructor
  · intro h
    obtain ⟨hnonempty, hdigits⟩ := Bool.and_eq_true_iff.mp h
    rw [List.all_eq_true] at hdigits
    obtain ⟨sign, hsplit, -⟩ := exists_sign token.toList
    have htoken : sign.chars ++ digits token = token.toList := hsplit
    refine ⟨⟨sign, (digits token).map (·.toNat - 48), by simpa using hnonempty, ?_⟩, ?_⟩
    · intro d hd
      obtain ⟨c, hc, rfl⟩ := List.mem_map.mp hd
      exact (digitChar_of_isDigit (hdigits c hc)).1
    · have hback : (digits token).map (Nat.digitChar ∘ (·.toNat - 48)) = digits token :=
        (List.map_congr_left fun c hc => (digitChar_of_isDigit (hdigits c hc)).2).trans
          (List.map_id _)
      rw [Spelling.text, List.map_map, hback, htoken, String.ofList_toList]
  · rintro ⟨s, rfl⟩
    exact s.isNumeral_text

/-- A numeral is compared under the key that it is: no case can be told of it. -/
theorem Spelling.key_text (s : Spelling) : Symbol.key s.text = s.text := by
  have hascii : ∀ c ∈ s.text.toList, c.toNat < 128 := by
    intro c hc
    rw [text, String.toList_ofList] at hc
    rcases List.mem_append.mp hc with hsign | hdigit
    · revert hsign
      cases s.sign <;> simp +contextual [Sign.chars]
    · obtain ⟨d, hd, rfl⟩ := List.mem_map.mp hdigit
      have := Text.isDigit_iff.mp (isDigit_digitChar (s.lt_ten d hd))
      omega
  have hkey : (Symbol.key s.text).toList = s.text.toList.map Char.toUpper := by
    rw [Symbol.key, Text.toList_upper, ← List.flatMap_pure_eq_map]
    exact List.flatMap_congr fun c hc => Text.upperChar_ascii (hascii c hc)
  rw [← String.toList_inj, hkey, ← Text.toList_asciiUpper, asciiUpper_of_isNumeral s.isNumeral_text]

/-! ## The canonical spelling -/

namespace Spelling

variable {s t : Spelling}

/-- The digits of a canonical spelling are those that are written for its magnitude. -/
theorem Canonical.toDigits_eq (h : s.Canonical) :
    Nat.toDigits 10 s.integer.natAbs = s.digits.map Nat.digitChar := by
  obtain ⟨d, ds, hdigits⟩ := List.exists_cons_of_ne_nil s.digits_ne_nil
  have hlt := s.lt_ten
  rw [hdigits] at hlt
  obtain ⟨hd, hds⟩ := List.forall_mem_cons.mp hlt
  have hmagnitude : s.magnitude = Nat.ofDigitChars 10 (ds.map Nat.digitChar) d := by
    rw [magnitude, hdigits, ofDigitChars_map_digitChar hds, Nat.ofDigits_reverse_cons]
  rw [natAbs_integer, hmagnitude, hdigits]
  by_cases hzero : d = 0
  · subst hzero
    have halone := (h.of_leading_zero (by rw [hdigits]; rfl)).2
    obtain rfl : ds = [] := (List.cons.inj (hdigits.symm.trans halone)).2
    rfl
  · rw [toDigits_ofDigitChars hds (Nat.pos_of_ne_zero hzero), Nat.toDigits_of_lt_base hd]
    rfl

/-- No minus sign stands in front of a zero. -/
theorem Canonical.integer_neg_iff (h : s.Canonical) : s.integer < 0 ↔ s.sign = .minus := by
  rw [integer]
  cases hsign : s.sign with
  | none => simp [Sign.integer]
  | plus => exact absurd hsign h.sign_ne_plus
  | minus =>
      have hmagnitude : s.magnitude ≠ 0 := by
        intro hzero
        have hdigits := h.toDigits_eq
        rw [natAbs_integer, hzero, Nat.toDigits_zero, eq_comm, List.map_eq_singleton_iff] at hdigits
        obtain ⟨d, halone, hchar⟩ := hdigits
        rw [Nat.digitChar_eq_zero] at hchar
        have hnone := (h.of_leading_zero (by rw [halone, hchar]; rfl)).1
        rw [hsign] at hnone
        cases hnone
      simp only [Sign.integer, iff_true]
      omega

/-- **An integer is written in its canonical spelling.** -/
theorem Canonical.text_eq (h : s.Canonical) : s.text = ofInt s.integer := by
  rw [text, ofInt, h.toDigits_eq]
  cases hsign : s.sign with
  | none => rw [if_neg (by rw [h.integer_neg_iff, hsign]; decide), Sign.chars]
  | plus => exact absurd hsign h.sign_ne_plus
  | minus => rw [if_pos (h.integer_neg_iff.mpr hsign), Sign.chars]

/-- Every integer can be written without anything that could be left out. -/
theorem exists_canonical (n : Int) : ∃ s : Spelling, s.Canonical ∧ s.integer = n := by
  by_cases hzero : n = 0
  · subst hzero
    exact ⟨⟨.none, [0], by decide, by decide⟩, ⟨by decide, fun _ => ⟨rfl, rfl⟩⟩, rfl⟩
  · have hmagnitude : n.natAbs ≠ 0 := Int.natAbs_ne_zero.mpr hzero
    have hne : Nat.digits 10 n.natAbs ≠ [] := Nat.digits_ne_nil_iff_ne_zero.mpr hmagnitude
    refine ⟨⟨.ofInt n, (Nat.digits 10 n.natAbs).reverse, List.reverse_ne_nil_iff.mpr hne, ?_⟩,
      ⟨Sign.ofInt_ne_plus n, ?_⟩, ?_⟩
    · intro d hd
      exact Nat.digits_lt_base (by decide) (List.mem_reverse.mp hd)
    · -- the digit of the highest place is not zero
      intro hhead
      rw [List.head?_reverse, List.getLast?_eq_some_getLast hne, Option.some_inj] at hhead
      exact absurd hhead (Nat.getLast_digit_ne_zero 10 hmagnitude)
    · show (Sign.ofInt n).integer (Nat.ofDigits 10 (Nat.digits 10 n.natAbs).reverse.reverse) = n
      rw [List.reverse_reverse, Nat.ofDigits_digits, Sign.integer_ofInt]

/-- The digits of a canonical spelling are as many as the magnitude asks for. -/
theorem Canonical.width_le_iff (h : s.Canonical) {k : Nat} (hk : 0 < k) :
    s.width ≤ k ↔ s.integer.natAbs < 10 ^ k := by
  rw [← Nat.length_toDigits_le_iff (by decide) hk, h.toDigits_eq, List.length_map, width]

/-- **No spelling is shorter than the canonical one**, of the same integer or of a larger one. -/
theorem Canonical.width_le (h : s.Canonical) (hle : s.integer.natAbs ≤ t.integer.natAbs) :
    s.width ≤ t.width :=
  (h.width_le_iff t.width_pos).mpr (hle.trans_lt t.natAbs_integer_lt)

/-- **The canonical spelling of an integer is the only one.** -/
theorem Canonical.unique (h : s.Canonical) (h' : t.Canonical) (hsame : s.integer = t.integer) :
    s.text = t.text ∧ s.width = t.width := by
  have hle := Nat.le_of_eq (congrArg Int.natAbs hsame)
  have hge := Nat.le_of_eq (congrArg Int.natAbs hsame.symm)
  exact ⟨by rw [h.text_eq, h'.text_eq, hsame], Nat.le_antisymm (h.width_le hle) (h'.width_le hge)⟩

end Spelling

/-- What is written for an integer denotes it. -/
theorem value_ofInt (n : Int) : value (ofInt n) = n := by
  obtain ⟨s, hs, rfl⟩ := Spelling.exists_canonical n
  rw [← hs.text_eq, s.value_text]

end Numeral
end PairLisp
