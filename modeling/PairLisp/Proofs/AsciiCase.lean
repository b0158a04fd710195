import PairLisp.Numeral
import PairLisp.Symbol

/-!
# ASCII letters in capitals

`asciiUpper` makes the small ASCII letters of a text capital and keeps every other character. Two
texts are alike, that is, they differ only in the case of ASCII letters, if it takes them to the
same one. Here is what it leaves as it was: the key of a name, the answer of every test that a
token is put to, and every numeral.
-/

namespace PairLisp

namespace Text

/-! ## Characters -/

/-- A small letter goes down by 32, and nothing else moves. -/
theorem toUpper_cases (c : Char) :
    ((97 ≤ c.toNat ∧ c.toNat ≤ 122) ∧ c.toUpper.toNat + 32 = c.toNat) ∨
      (¬ (97 ≤ c.toNat ∧ c.toNat ≤ 122) ∧ c.toUpper = c) := by
  have hsmall : ('a'.val ≤ c.val ∧ c.val ≤ 'z'.val) ↔ (97 ≤ c.toNat ∧ c.toNat ≤ 122) :=
    and_congr UInt32.le_iff_toNat_le UInt32.le_iff_toNat_le
  by_cases h : 97 ≤ c.toNat ∧ c.toNat ≤ 122
  · refine .inl ⟨h, ?_⟩
    have hdistance : ('A'.val - 'a'.val).toNat = 2 ^ 32 - 32 := by decide
    have hval : c.val.toNat = c.toNat := rfl
    have hup : c.toUpper = _ := dif_pos (hsmall.mpr h)
    rw [hup]
    show (c.val + ('A'.val - 'a'.val)).toNat + 32 = c.toNat
    -- the distance is negative, so the sum goes round once
    rw [UInt32.toNat_add, hdistance, hval]
    omega
  · exact .inr ⟨h, dif_neg (mt hsmall.mp h)⟩

/-- The codes of the ASCII letters. -/
theorem isAlpha_iff {c : Char} :
    c.isAlpha = true ↔ (65 ≤ c.toNat ∧ c.toNat ≤ 90) ∨ (97 ≤ c.toNat ∧ c.toNat ≤ 122) := by
  have hcapital : c.isUpper = true ↔ 65 ≤ c.toNat ∧ c.toNat ≤ 90 :=
    decide_eq_true_iff.trans (and_congr UInt32.le_iff_toNat_le UInt32.le_iff_toNat_le)
  have hsmall : c.isLower = true ↔ 97 ≤ c.toNat ∧ c.toNat ≤ 122 :=
    Bool.and_eq_true_iff.trans (and_congr
      (decide_eq_true_iff.trans UInt32.le_iff_toNat_le)
      (decide_eq_true_iff.trans UInt32.le_iff_toNat_le))
  exact Bool.or_eq_true_iff.trans (or_congr hcapital hsmall)

/-- The codes of the ASCII digits. -/
theorem isDigit_iff {c : Char} : c.isDigit = true ↔ 48 ≤ c.toNat ∧ c.toNat ≤ 57 := by
  simp [Char.isDigit, UInt32.le_iff_toNat_le]

/-- Capitals are capitals already. -/
theorem toUpper_toUpper (c : Char) : c.toUpper.toUpper = c.toUpper := by
  rcases toUpper_cases c with ⟨hc, hup⟩ | ⟨_, hup⟩
  · rcases toUpper_cases c.toUpper with ⟨hagain, _⟩ | ⟨_, hagain⟩
    · omega
    · exact hagain
  · rw [hup, hup]

/-- What answers alike for an ASCII character and its capital answers alike for all characters:
    beyond ASCII nothing is moved. -/
theorem toUpper_invariant {α : Type} {f ascii : Char → α}
    (hf : ∀ {c : Char}, c.toNat < 128 → f c = ascii c)
    (hascii : ∀ c, ascii c.toUpper = ascii c) (c : Char) : f c.toUpper = f c := by
  rcases toUpper_cases c with ⟨hc, hup⟩ | ⟨_, hup⟩
  · have hsmall : c.toNat < 128 := by omega
    have hcapital : c.toUpper.toNat < 128 := by omega
    rw [hf hcapital, hf hsmall, hascii]
  · rw [hup]

@[simp] theorem isAlpha_toUpper (c : Char) : c.toUpper.isAlpha = c.isAlpha := by
  rw [Bool.eq_iff_iff, isAlpha_iff, isAlpha_iff]
  rcases toUpper_cases c with ⟨hc, hup⟩ | ⟨_, hup⟩
  · omega
  · rw [hup]

@[simp] theorem isDigit_toUpper (c : Char) : c.toUpper.isDigit = c.isDigit := by
  rw [Bool.eq_iff_iff, isDigit_iff, isDigit_iff]
  rcases toUpper_cases c with ⟨hc, hup⟩ | ⟨_, hup⟩
  · omega
  · rw [hup]

@[simp] theorem upperChar_toUpper (c : Char) : upperChar c.toUpper = upperChar c :=
  toUpper_invariant upperChar_ascii (fun c => by rw [toUpper_toUpper]) c

@[simp] theorem isLetter_toUpper (c : Char) : isLetter c.toUpper = isLetter c :=
  toUpper_invariant (f := isLetter) (fun h => if_pos h) isAlpha_toUpper c

@[simp] theorem isNumber_toUpper (c : Char) : isNumber c.toUpper = isNumber c :=
  toUpper_invariant (f := isNumber) (fun h => if_pos h) isDigit_toUpper c

/-- Below the letters nothing moves, and nothing is moved there. -/
theorem toUpper_eq_iff {c d : Char} (hd : d.toNat < 65) : c.toUpper = d ↔ c = d := by
  rcases toUpper_cases c with ⟨hc, hup⟩ | ⟨_, hup⟩
  · constructor
    · rintro rfl
      omega
    · rintro rfl
      omega
  · rw [hup]

/-- Digits have no capitals. -/
theorem toUpper_of_isDigit {c : Char} (h : c.isDigit = true) : c.toUpper = c :=
  (toUpper_eq_iff (by have := isDigit_iff.mp h; omega)).mpr rfl

/-- A row of digits is its own row of capitals. -/
theorem map_toUpper_of_isDigit {cs : List Char} (h : ∀ c ∈ cs, c.isDigit = true) :
    cs.map Char.toUpper = cs := by
  refine (List.map_congr_left fun c hc => ?_).trans (List.map_id cs)
  exact toUpper_of_isDigit (h c hc)

/-! ## Texts -/

/-- A text with its ASCII letters in capitals. -/
def asciiUpper (s : String) : String :=
  String.ofList (s.toList.map Char.toUpper)

@[simp] theorem toList_asciiUpper (s : String) :
    (asciiUpper s).toList = s.toList.map Char.toUpper := by
  rw [asciiUpper, String.toList_ofList]

/-- Two texts differ only in the case of ASCII letters. -/
def Alike (s t : String) : Prop :=
  asciiUpper s = asciiUpper t

instance (s t : String) : Decidable (Alike s t) :=
  inferInstanceAs (Decidable (asciiUpper s = asciiUpper t))

theorem Alike.refl (s : String) : Alike s s := rfl

/-- A text and its capitals differ in the case of letters only. -/
theorem alike_asciiUpper (s : String) : Alike (asciiUpper s) s := by
  have hfixed : Char.toUpper ∘ Char.toUpper = Char.toUpper := funext toUpper_toUpper
  rw [Alike, asciiUpper, toList_asciiUpper, List.map_map, hfixed, asciiUpper]

/-- Texts that are put together of alike texts are alike. -/
theorem Alike.append {s s' t t' : String} (h : Alike s s') (h' : Alike t t') :
    Alike (s ++ t) (s' ++ t') := by
  have hsplit (u v : String) : asciiUpper (u ++ v) = asciiUpper u ++ asciiUpper v := by
    simp [asciiUpper, String.ofList_append]
  rw [Alike, hsplit, hsplit, h, h']

end Text

open Text

/-! ## Names -/

namespace Symbol

/-- A name is the same name in capitals. -/
@[simp] theorem key_asciiUpper (name : String) : key (asciiUpper name) = key name := by
  have hsame : upperChar ∘ Char.toUpper = upperChar := funext upperChar_toUpper
  rw [key, key, upper, upper, toList_asciiUpper, List.flatMap_map]
  exact congrArg (fun f => String.ofList (name.toList.flatMap f)) hsame

@[simp] theorem isNil_asciiUpper (token : String) : isNil (asciiUpper token) = isNil token := by
  rw [isNil, isNil, key_asciiUpper]

@[simp] theorem isTrue_asciiUpper (token : String) : isTrue (asciiUpper token) = isTrue token := by
  rw [isTrue, isTrue, key_asciiUpper]

/-- What can name something can do so in capitals, and nothing else can. -/
@[simp] theorem isIdentifier_asciiUpper (token : String) :
    isIdentifier (asciiUpper token) = isIdentifier token := by
  rw [isIdentifier, isIdentifier, toList_asciiUpper]
  cases token.toList with
  | nil => rfl
  | cons c cs =>
      have hinner : isLetterOrNumber ∘ Char.toUpper = isLetterOrNumber := by
        funext d
        simp [isLetterOrNumber]
      simp only [List.map_cons, isLetter_toUpper, List.all_map, hinner]

end Symbol

/-! ## Numerals -/

namespace Numeral

/-- Only a plus or a minus is a sign. -/
theorem splitSign_of_ne {c : Char} (hplus : c ≠ '+') (hminus : c ≠ '-') (cs : List Char) :
    splitSign (c :: cs) = (false, c :: cs) := by
  rw [splitSign]
  · intro rest heq
    exact hminus (List.cons.inj heq).1
  · intro rest heq
    exact hplus (List.cons.inj heq).1

/-- What is split off is a minus, a plus or nothing. -/
theorem splitSign_cases (cs : List Char) :
    cs = '-' :: (splitSign cs).2 ∧ (splitSign cs).1 = true ∨
      cs = '+' :: (splitSign cs).2 ∧ (splitSign cs).1 = false ∨
      cs = (splitSign cs).2 ∧ (splitSign cs).1 = false := by
  cases cs with
  | nil => exact .inr (.inr ⟨rfl, rfl⟩)
  | cons c cs =>
      by_cases hminus : c = '-'
      · subst hminus
        exact .inl ⟨rfl, rfl⟩
      · by_cases hplus : c = '+'
        · subst hplus
          exact .inr (.inl ⟨rfl, rfl⟩)
        · rw [splitSign_of_ne hplus hminus]
          exact .inr (.inr ⟨rfl, rfl⟩)

/-- A sign stays where it is in capitals. -/
theorem splitSign_map_toUpper (cs : List Char) :
    splitSign (cs.map Char.toUpper) = ((splitSign cs).1, (splitSign cs).2.map Char.toUpper) := by
  cases cs with
  | nil => rfl
  | cons c cs =>
      by_cases hminus : c = '-'
      · subst hminus
        rfl
      · by_cases hplus : c = '+'
        · subst hplus
          rfl
        · have hminus' : c.toUpper ≠ '-' := mt (toUpper_eq_iff (by decide)).mp hminus
          have hplus' : c.toUpper ≠ '+' := mt (toUpper_eq_iff (by decide)).mp hplus
          rw [List.map_cons, splitSign_of_ne hplus hminus, splitSign_of_ne hplus' hminus']
          rfl

/-- What follows the sign is put in capitals. -/
theorem digits_asciiUpper (token : String) :
    digits (asciiUpper token) = (digits token).map Char.toUpper := by
  rw [digits, toList_asciiUpper, splitSign_map_toUpper, digits]

@[simp] theorem isNumeral_asciiUpper (token : String) :
    isNumeral (asciiUpper token) = isNumeral token := by
  have hdigit : Char.isDigit ∘ Char.toUpper = Char.isDigit := funext isDigit_toUpper
  rw [isNumeral, isNumeral, digits_asciiUpper, List.isEmpty_map, List.all_map, hdigit]

/-- The characters of a token are an optional sign and its digits. -/
theorem toList_eq_sign_append (token : String) :
    ∃ sign ∈ [[], ['+'], ['-']], token.toList = sign ++ digits token := by
  rcases splitSign_cases token.toList with ⟨htoken, -⟩ | ⟨htoken, -⟩ | ⟨htoken, -⟩
  · exact ⟨['-'], by simp, htoken⟩
  · exact ⟨['+'], by simp, htoken⟩
  · exact ⟨[], by simp, htoken⟩

/-- **No letter is in a numeral.** -/
theorem asciiUpper_of_isNumeral {token : String} (h : isNumeral token = true) :
    asciiUpper token = token := by
  obtain ⟨sign, hsign, htoken⟩ := toList_eq_sign_append token
  have hfixed : sign.map Char.toUpper = sign := by
    simp only [List.mem_cons, List.not_mem_nil, or_false] at hsign
    rcases hsign with rfl | rfl | rfl <;> rfl
  have hdigits : ∀ c ∈ digits token, c.isDigit = true := by
    rw [isNumeral, Bool.and_eq_true, List.all_eq_true] at h
    exact h.2
  rw [← String.toList_inj, toList_asciiUpper, htoken, List.map_append, hfixed,
    map_toUpper_of_isDigit hdigits]

/-- The numeral of an integer has no letters. -/
theorem asciiUpper_ofInt (n : Int) : asciiUpper (ofInt n) = ofInt n := by
  have hdigits : ∀ c ∈ Nat.toDigits 10 n.natAbs, c.isDigit = true := fun c hc =>
    Nat.isDigit_of_mem_toDigits (by decide) (by decide) hc
  rw [← String.toList_inj, toList_asciiUpper, ofInt, String.toList_ofList, List.map_append,
    map_toUpper_of_isDigit hdigits]
  split <;> rfl

end Numeral
end PairLisp
