import PairLisp.Proofs.Numerals
import PairLisp.Proofs.Rules

/-!
# Exact arithmetic within the digit limit

The primitives on integers read two numerals, compute without rounding and write a numeral. What can
go wrong on the way is found in a fixed order: an operand that is no numeral, an operand that is too
long, a divisor of zero, a result that is too long. The route:

* the operands that can be read are the spellings of few enough digits (`integer_iff`,
  `denotes_text_iff`);
* `Exact` says what is asked of the answer for two integers, without a look at how they were written.
  It leaves no choice (`Exact.unique`), and the primitives keep to it (`exact_apply`), so that they
  cannot tell two spellings of an integer apart;
* what is computed can be computed with again (`Exact.closed`);
* `LESS` and `GREATER` compare integers and `EQ` compares tokens. A token has one value, so they never
  contradict each other, and between canonical spellings, which are all that arithmetic writes, they
  are the three cases of one order (`trichotomy_of_canonical`).
-/

namespace PairLisp

open Numeral (Spelling)

namespace Primitive

/-! ## Operands -/

/-- An integer is an atom whose token is a numeral. -/
theorem integer_iff {x : Expr} : Integer x ↔ ∃ s : Spelling, x = .atom s.text := by
  constructor
  · rintro ⟨hnumeral⟩
    obtain ⟨s, rfl⟩ := Numeral.isNumeral_iff.mp hnumeral
    exact ⟨s, rfl⟩
  · rintro ⟨s, rfl⟩
    exact .numeral s.isNumeral_text

/-- **The operands that can be read** are the spellings of few enough digits. -/
theorem denotes_text_iff {s : Spelling} {a : Int} :
    Denotes (.atom s.text) a ↔ s.width ≤ Numeral.digitLimit ∧ s.integer = a := by
  constructor
  · intro h
    cases h with
    | numeral _ hfits => exact ⟨s.fits_text.mp hfits, s.value_text.symm⟩
  · rintro ⟨hwidth, rfl⟩
    rw [← s.value_text]
    exact .numeral s.isNumeral_text (s.fits_text.mpr hwidth)

/-- A numeral within the limit denotes its integer. -/
theorem denotes_text {s : Spelling} (h : s.width ≤ Numeral.digitLimit) :
    Denotes (.atom s.text) s.integer :=
  denotes_text_iff.mpr ⟨h, rfl⟩

/-- An expression denotes at most one integer. -/
theorem Denotes.unique {x : Expr} {a b : Int} (h : Denotes x a) (h' : Denotes x b) : a = b := by
  cases h
  cases h'
  rfl

/-! ## Answers -/

/-- What is asked of the answer of a primitive on the integers `a` and `b`. -/
structure Exact (p : Primitive) (a b : Int) (answer : Except EvalError Expr) : Prop where
  /-- A divisor of zero is refused, and nothing else is refused for this reason. -/
  zeroDivisor : answer = .error (.divisionByZero p.label) ↔
    (p = .quotient ∨ p = .remainder) ∧ b = 0
  /-- A comparison is answered by the truth. -/
  comparison : ∀ {P : Prop}, Compares p a b P →
    (P → answer = .ok Expr.truth) ∧ (¬ P → answer = .ok Expr.nil)
  /-- A result is written in its canonical spelling, unless this is too long. -/
  result : ∀ {c : Int}, Computes p a b c → ∃ z : Spelling, z.Canonical ∧ z.integer = c ∧
    answer = if z.width ≤ 4300 then .ok (.atom z.text) else .error (.integerTooLarge p.label)

variable {p : Primitive} {x y : Expr} {a b c : Int} {answer answer' : Except EvalError Expr}

/-- Nothing is left open. -/
theorem Exact.unique (hp : p.OnIntegers) (h : Exact p a b answer) (h' : Exact p a b answer') :
    answer = answer' := by
  rcases onIntegers_cases hp a b with ⟨c, hc⟩ | ⟨P, hP⟩ | hzero
  · obtain ⟨z, hz, hzc, hanswer⟩ := h.result hc
    obtain ⟨w, hw, hwc, hanswer'⟩ := h'.result hc
    obtain ⟨htext, hwidth⟩ := hz.unique hw (hzc.trans hwc.symm)
    rw [hanswer, hanswer', htext, hwidth]
  · by_cases htrue : P
    · rw [(h.comparison hP).1 htrue, (h'.comparison hP).1 htrue]
    · rw [(h.comparison hP).2 htrue, (h'.comparison hP).2 htrue]
  · rw [h.zeroDivisor.mpr hzero, h'.zeroDivisor.mpr hzero]

/-- **A result is an operand again**, and denotes what was computed. -/
theorem Exact.closed (h : Exact p a b answer) (hc : Computes p a b c) {value : Expr}
    (hvalue : answer = .ok value) :
    ∃ z : Spelling, value = .atom z.text ∧ z.Canonical ∧ z.width ≤ 4300 ∧ z.integer = c := by
  obtain ⟨z, hz, hzc, hanswer⟩ := h.result hc
  rw [hvalue] at hanswer
  split at hanswer
  · next hwidth =>
      cases hanswer
      exact ⟨z, rfl, hz, hwidth, hzc⟩
  · cases hanswer

/-- **The primitives on integers are exact.** -/
theorem exact_apply (hx : Denotes x a) (hy : Denotes y b) : Exact p a b (p.apply [x, y]) where
  zeroDivisor := by
    constructor
    · intro hanswer
      cases applies_iff.mpr hanswer with
      | zeroDivisor hdivides _ hzero => exact ⟨hdivides, hy.unique hzero⟩
    · rintro ⟨hdivides, rfl⟩
      exact apply_of_applies (.zeroDivisor hdivides hx hy)
  comparison hP :=
    ⟨fun htrue => apply_of_applies (.compares hx hy hP htrue),
      fun hfalse => apply_of_applies (.comparesNot hx hy hP hfalse)⟩
  result {c} hc := by
    obtain ⟨z, hz, rfl⟩ := Spelling.exists_canonical c
    refine ⟨z, hz, rfl, ?_⟩
    rw [apply_of_computes hx hy hc, ofInt, Numeral.toText, ← hz.text_eq]
    by_cases hwidth : z.width ≤ 4300
    · rw [if_pos hwidth, if_pos (z.fits_text.mpr hwidth)]
    · rw [if_neg hwidth, if_neg (mt z.fits_text.mp hwidth)]

/-- A numeral beyond the limit is refused, whichever operand it is. -/
theorem apply_of_too_large (hp : p.OnIntegers) {s t : Spelling}
    (h : Numeral.digitLimit < s.width ∨ Numeral.digitLimit < t.width) :
    p.apply [.atom s.text, .atom t.text] = .error (.integerTooLarge p.label) := by
  refine apply_of_applies (.operandTooLarge hp (integer_iff.mpr ⟨s, rfl⟩)
    (integer_iff.mpr ⟨t, rfl⟩) ?_)
  rintro a b ⟨hs, ht⟩
  have hwidth := (denotes_text_iff.mp hs).1
  have hwidth' := (denotes_text_iff.mp ht).1
  omega

/-- The operands are refused as no integers just if one of them is none. -/
theorem apply_eq_nonInteger_iff (hp : p.OnIntegers) :
    p.apply [x, y] = .error (.nonIntegerOperand p.label) ↔ ¬ (Integer x ∧ Integer y) := by
  rw [← applies_iff]
  constructor
  · intro happlies
    cases happlies with
    | notIntegers _ hnot => exact hnot
  · exact .notIntegers hp

end Primitive

open Primitive

/-- **Arithmetic on integers is exact within the digit limit, and closed.** A primitive on integers
    refuses two operands as no integers exactly if one of them is no numeral. Numerals of which one
    has more than 4300 digits are too large. For all others the answer is the exact one, what is
    computed is an operand again, and the answer does not depend on how the integers were written. -/
theorem integer_primitives_are_exact {p : Primitive} (hp : p.OnIntegers) :
    (∀ x y : Expr, p.apply [x, y] = .error (.nonIntegerOperand p.label) ↔
      ¬ ((∃ s : Spelling, x = .atom s.text) ∧ ∃ t : Spelling, y = .atom t.text)) ∧
    ∀ s t : Spelling,
      (4300 < s.width ∨ 4300 < t.width →
        p.apply [.atom s.text, .atom t.text] = .error (.integerTooLarge p.label)) ∧
      (s.width ≤ 4300 → t.width ≤ 4300 →
        Exact p s.integer t.integer (p.apply [.atom s.text, .atom t.text]) ∧
        (∀ c value, Computes p s.integer t.integer c →
          p.apply [.atom s.text, .atom t.text] = .ok value →
          ∃ z : Spelling, value = .atom z.text ∧ z.width ≤ 4300 ∧ z.integer = c) ∧
        ∀ s' t' : Spelling, s'.width ≤ 4300 → t'.width ≤ 4300 →
          s'.integer = s.integer → t'.integer = t.integer →
          p.apply [.atom s'.text, .atom t'.text] = p.apply [.atom s.text, .atom t.text]) := by
  constructor
  · intro x y
    rw [apply_eq_nonInteger_iff hp, integer_iff, integer_iff]
  · intro s t
    refine ⟨apply_of_too_large hp, fun hs ht => ?_⟩
    have hexact := exact_apply (p := p) (denotes_text hs) (denotes_text ht)
    refine ⟨hexact, ?_, ?_⟩
    · intro c value hc hvalue
      obtain ⟨z, hz, _, hwidth, hzc⟩ := hexact.closed hc hvalue
      exact ⟨z, hz, hwidth, hzc⟩
    · intro s' t' hs' ht' hsame hsame'
      have hexact' := exact_apply (p := p) (denotes_text hs') (denotes_text ht')
      rw [hsame, hsame'] at hexact'
      exact hexact'.unique hp hexact

namespace Numeral.Spelling

/-- A one and a number of zeros. -/
def powerOfTen (k : Nat) : Spelling where
  sign := .none
  digits := 1 :: List.replicate k 0
  digits_ne_nil := List.cons_ne_nil _ _
  lt_ten := by simp +contextual

theorem integer_powerOfTen (k : Nat) : (powerOfTen k).integer = 10 ^ k := by
  show ((Nat.ofDigits 10 (1 :: List.replicate k 0).reverse : Nat) : Int) = 10 ^ k
  simp [Nat.ofDigits_append, Nat.ofDigits_replicate_zero]

theorem width_powerOfTen (k : Nat) : (powerOfTen k).width = k + 1 := by
  simp [width, powerOfTen]

theorem canonical_powerOfTen (k : Nat) : (powerOfTen k).Canonical where
  sign_ne_plus := by simp [powerOfTen]
  of_leading_zero := by simp [powerOfTen]

end Numeral.Spelling

/-- A product of 4300 digits is written, and one of 4301 digits is not. -/
theorem integer_primitives_are_exact_at_limit :
    Primitive.times.OnIntegers ∧
    Primitive.times.apply
      [.atom (Spelling.powerOfTen 2150).text, .atom (Spelling.powerOfTen 2149).text] =
        .ok (.atom (Spelling.powerOfTen 4299).text) ∧
    Primitive.times.apply
      [.atom (Spelling.powerOfTen 2150).text, .atom (Spelling.powerOfTen 2150).text] =
        .error (.integerTooLarge "TIMES") := by
  have hproduct (j k : Nat) (hj : j < 4300) (hk : k < 4300) :
      Primitive.times.apply
        [.atom (Spelling.powerOfTen j).text, .atom (Spelling.powerOfTen k).text] =
        if j + k + 1 ≤ 4300 then .ok (.atom (Spelling.powerOfTen (j + k)).text)
        else .error (.integerTooLarge "TIMES") := by
    have hshort (i : Nat) (hi : i < 4300) : (Spelling.powerOfTen i).width ≤ 4300 := by
      rw [Spelling.width_powerOfTen]
      exact hi
    have hexact := ((integer_primitives_are_exact (p := .times) trivial).2 _ _).2
      (hshort j hj) (hshort k hk)
    obtain ⟨z, hz, hzc, hanswer⟩ := hexact.1.result .times
    have hsum : z.integer = (Spelling.powerOfTen (j + k)).integer := by
      rw [hzc, Spelling.integer_powerOfTen, Spelling.integer_powerOfTen,
        Spelling.integer_powerOfTen, pow_add]
    obtain ⟨htext, hwidth⟩ := hz.unique (Spelling.canonical_powerOfTen _) hsum
    rw [hanswer, htext, hwidth, Spelling.width_powerOfTen]
    rfl
  exact ⟨trivial, hproduct 2150 2149 (by decide) (by decide),
    hproduct 2150 2150 (by decide) (by decide)⟩

/-! ## Order and equality -/

namespace Primitive

/-- The primitives that compare two atoms. -/
def comparisons : List Primitive := [.less, .greater, .eq]

/-- The primitives that compute an integer. -/
def computations : List Primitive := [.plus, .minus, .times, .quotient, .remainder]

/-- The primitive answers that two atoms of these tokens compare so. -/
def Holds (p : Primitive) (s t : Spelling) : Prop :=
  p.apply [.atom s.text, .atom t.text] = .ok Expr.truth

/-- The comparison that is true of two integers. -/
def trueComparison (a b : Int) : Primitive :=
  if a < b then .less else if b < a then .greater else .eq

/-- Exactly one comparison holds, and equality does if the integers are equal. -/
structure Trichotomy (s t : Spelling) : Prop where
  exactlyOne : ∃! p, p ∈ comparisons ∧ p.Holds s t
  eq_iff : Primitive.eq.Holds s t ↔ s.integer = t.integer

variable {p : Primitive} {x y : Expr} {s t : Spelling}

theorem mem_comparisons : p ∈ comparisons ↔ p = .less ∨ p = .greater ∨ p = .eq := by
  simp only [comparisons, List.mem_cons, List.not_mem_nil, or_false]

/-! What each comparison answers on two numerals: `LESS` and `GREATER` by the integers, and `EQ` by the
tokens themselves, since no case can be told of a numeral. -/

/-- Less is the order of integers. -/
theorem apply_less (hs : s.width ≤ 4300) (ht : t.width ≤ 4300) :
    Primitive.less.apply [.atom s.text, .atom t.text] =
      .ok (Expr.ofBool (decide (s.integer < t.integer))) :=
  apply_of_compares _ (denotes_text hs) (denotes_text ht) .less decide_eq_true_iff

/-- Greater is the same order, the other way round. -/
theorem apply_greater (hs : s.width ≤ 4300) (ht : t.width ≤ 4300) :
    Primitive.greater.apply [.atom s.text, .atom t.text] =
      .ok (Expr.ofBool (decide (t.integer < s.integer))) :=
  apply_of_compares _ (denotes_text hs) (denotes_text ht) .greater decide_eq_true_iff

/-- Equality compares numerals by their text and not by their integer. -/
theorem apply_eq (s t : Spelling) :
    Primitive.eq.apply [.atom s.text, .atom t.text] =
      .ok (Expr.ofBool (decide (s.text = t.text))) := by
  show Except.ok (Expr.ofBool (Symbol.key s.text == Symbol.key t.text)) = _
  rw [s.key_text, t.key_text]
  rfl

/-- A comparison holds if what it is the truth of holds. -/
theorem holds_iff_of_apply {P : Prop} [Decidable P]
    (h : p.apply [.atom s.text, .atom t.text] = .ok (Expr.ofBool (decide P))) :
    p.Holds s t ↔ P := by
  rw [Holds, h]
  by_cases hP : P
  · simp [hP, Expr.ofBool]
  · simp [hP, Expr.ofBool, Expr.truth, Expr.nil]

/-- No comparison fails on integers within the limit. -/
theorem exists_answer_of_mem_comparisons (hp : p ∈ comparisons) (hs : s.width ≤ 4300)
    (ht : t.width ≤ 4300) :
    ∃ holds, p.apply [.atom s.text, .atom t.text] = .ok (Expr.ofBool holds) := by
  rcases mem_comparisons.mp hp with rfl | rfl | rfl
  · exact ⟨_, apply_less hs ht⟩
  · exact ⟨_, apply_greater hs ht⟩
  · exact ⟨_, apply_eq s t⟩

/-- **A comparison that holds is the true one**, since equal tokens have equal values. -/
theorem eq_trueComparison_of_holds (hp : p ∈ comparisons) (hs : s.width ≤ 4300)
    (ht : t.width ≤ 4300) (h : p.Holds s t) : p = trueComparison s.integer t.integer := by
  rcases mem_comparisons.mp hp with rfl | rfl | rfl
  · have hlt := (holds_iff_of_apply (apply_less hs ht)).mp h
    rw [trueComparison, if_pos hlt]
  · have hgt := (holds_iff_of_apply (apply_greater hs ht)).mp h
    rw [trueComparison, if_neg (by omega), if_pos hgt]
  · have htext := (holds_iff_of_apply (apply_eq s t)).mp h
    have hsame : s.integer = t.integer := by rw [← s.value_text, htext, t.value_text]
    rw [trueComparison, if_neg (by omega), if_neg (by omega)]

/-- **Between canonical numerals one comparison holds.** -/
theorem trichotomy_of_canonical (hs : s.width ≤ 4300) (ht : t.width ≤ 4300) {m n : Int}
    (hm : s.text = Numeral.ofInt m) (hn : t.text = Numeral.ofInt n) : Trichotomy s t := by
  have hsm : s.integer = m := by rw [← s.value_text, hm, Numeral.value_ofInt]
  have htn : t.integer = n := by rw [← t.value_text, hn, Numeral.value_ofInt]
  have heq : Primitive.eq.Holds s t ↔ s.integer = t.integer := by
    rw [holds_iff_of_apply (apply_eq s t), hm, hn, hsm, htn]
    exact ⟨fun h => by rw [← Numeral.value_ofInt m, h, Numeral.value_ofInt], congrArg _⟩
  refine ⟨⟨trueComparison s.integer t.integer, ⟨?_, ?_⟩, ?_⟩, heq⟩
  · rw [trueComparison]
    split
    · decide
    · split <;> decide
  · rw [trueComparison]
    split
    · next hlt => exact (holds_iff_of_apply (apply_less hs ht)).mpr hlt
    · next hnlt =>
        split
        · next hgt => exact (holds_iff_of_apply (apply_greater hs ht)).mpr hgt
        · next hngt => exact heq.mpr (by omega)
  · rintro q ⟨hq, hholds⟩
    exact eq_trueComparison_of_holds hq hs ht hholds

/-- What a computation answers is a canonical numeral within the limit. -/
theorem spelled_of_mem_computations (hp : p ∈ computations) {value : Expr}
    (h : p.apply [x, y] = .ok value) :
    ∃ z : Spelling, value = .atom z.text ∧ z.Canonical ∧ z.width ≤ 4300 := by
  cases applies_iff.mpr h with
  | result hx hy hc _ =>
      obtain ⟨z, hz, hcanonical, hwidth, _⟩ := (exact_apply hx hy).closed hc h
      exact ⟨z, hz, hcanonical, hwidth⟩
  | cons | same | different => exact absurd hp (by decide)
  | compares _ _ hP _ | comparesNot _ _ hP _ =>
      cases hP <;> exact absurd hp (by decide)

end Primitive

/-- **Equality agrees with the order on canonical integers.** Of `LESS`, `GREATER` and `EQ` at most
    one answers `T` for two integers of at most 4300 digits, and none of them fails. If the tokens are
    such as are written for integers, exactly one of them does, and it is `EQ` if the integers are
    equal. This is so of any two results of arithmetic. -/
theorem equality_agrees_with_order :
    (∀ s t : Spelling, s.width ≤ 4300 → t.width ≤ 4300 →
      (∀ p ∈ comparisons, ∃ holds,
        p.apply [.atom s.text, .atom t.text] = .ok (Expr.ofBool holds)) ∧
      (∀ p ∈ comparisons, ∀ q ∈ comparisons, p.Holds s t → q.Holds s t → p = q) ∧
      ∀ m n, s.text = Numeral.ofInt m → t.text = Numeral.ofInt n → Trichotomy s t) ∧
    (∀ p ∈ computations, ∀ q ∈ computations, ∀ x y x' y' value value',
      p.apply [x, y] = .ok value → q.apply [x', y'] = .ok value' →
      ∃ s t : Spelling, value = .atom s.text ∧ value' = .atom t.text ∧ Trichotomy s t) := by
  constructor
  · intro s t hs ht
    refine ⟨fun p hp => exists_answer_of_mem_comparisons hp hs ht, ?_, ?_⟩
    · intro p hp q hq hholds hholds'
      rw [eq_trueComparison_of_holds hp hs ht hholds, eq_trueComparison_of_holds hq hs ht hholds']
    · intro m n hm hn
      exact trichotomy_of_canonical hs ht hm hn
  · intro p hp q hq x y x' y' value value' hvalue hvalue'
    obtain ⟨s, hs, hcanonical, hwidth⟩ := spelled_of_mem_computations hp hvalue
    obtain ⟨t, ht, hcanonical', hwidth'⟩ := spelled_of_mem_computations hq hvalue'
    exact ⟨s, t, hs, ht, trichotomy_of_canonical hwidth hwidth' hcanonical.text_eq
      hcanonical'.text_eq⟩

/-- A difference and a product that are the same integer. -/
theorem equality_agrees_with_order_of_two_results :
    Primitive.minus.apply [.atom "2", .atom "14"] = .ok (.atom "-12") ∧
    Primitive.times.apply [.atom "-4", .atom "+03"] = .ok (.atom "-12") ∧
    ∃ s t : Spelling, Expr.atom "-12" = .atom s.text ∧ Expr.atom "-12" = .atom t.text ∧
      Trichotomy s t := by
  have hdifference : Primitive.minus.apply [.atom "2", .atom "14"] = .ok (.atom "-12") := by
    decide +kernel
  have hproduct : Primitive.times.apply [.atom "-4", .atom "+03"] = .ok (.atom "-12") := by
    decide +kernel
  exact ⟨hdifference, hproduct, equality_agrees_with_order.2 .minus (by decide) .times (by decide)
    _ _ _ _ _ _ hdifference hproduct⟩

end PairLisp
