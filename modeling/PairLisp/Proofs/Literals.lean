import PairLisp.Proofs.Numerals

/-!
# Integers in configuration values

A configured integer may be written more freely than a numeral of the language: with digits of any
script, and with single underscores between them. Here such a literal is described by its parts, and
what is read is identified with what the parts say. The route:

* a `Literal` is a sign that may be missing and groups of digits. Its `text` has an underscore between
  two groups, and its `spelling` is the same digits in a row, which gives the integer that is denoted
  and the number of digits;
* the digits are read off a text exactly if it can be cut into groups (`literalDigits?_eq_some_iff`), so
  an integer is read exactly if there is a literal of it that is short enough (`ofLiteral?_eq_some_iff`);
* an integer is no longer written than it was read, so what was read once can be written and read again
  (`ofLiteral?_ofInt`).
-/

namespace PairLisp
namespace Numeral

/-! ## Digits of any script -/

/-- The digits of all scripts have values below ten. -/
theorem lt_ten_of_digitValue? {c : Char} {d : Nat} (h : Text.digitValue? c = some d) : d < 10 := by
  obtain ⟨start, hstart, rfl⟩ := Option.map_eq_some_iff.mp h
  have hrange := List.find?_some hstart
  simp only [Bool.and_eq_true, decide_eq_true_eq] at hrange
  omega

/-- An ASCII digit has the value that it is written for. -/
theorem digitValue?_digitChar {d : Nat} (h : d < 10) : Text.digitValue? d.digitChar = some d := by
  have hall : (List.range 10).all (fun d => Text.digitValue? d.digitChar == some d) = true := by
    decide +kernel
  exact beq_iff_eq.mp (List.all_eq_true.mp hall d (List.mem_range.mpr h))

/-- A digit is none of the characters that are no digits. -/
theorem ne_of_isSome_digitValue? {c c' : Char} (h : (Text.digitValue? c).isSome = true)
    (h' : Text.digitValue? c' = none) : c ≠ c' := by
  rintro rfl
  rw [h'] at h
  cases h

/-- The values of the digits among the characters. -/
def digitValues (cs : List Char) : List Nat :=
  cs.filterMap Text.digitValue?

theorem digitValues_cons {c : Char} {d : Nat} (h : Text.digitValue? c = some d) (cs : List Char) :
    digitValues (c :: cs) = d :: digitValues cs :=
  List.filterMap_cons_some h

theorem digitValues_append (cs cs' : List Char) :
    digitValues (cs ++ cs') = digitValues cs ++ digitValues cs' :=
  List.filterMap_append

/-! ## Groups of digits -/

/-- There is a group, and each is a row of at least one digit. -/
structure Grouped (groups : List (List Char)) : Prop where
  ne_nil : groups ≠ []
  group_ne_nil : ∀ group ∈ groups, group ≠ []
  isDigit : ∀ group ∈ groups, ∀ c ∈ group, (Text.digitValue? c).isSome = true

/-- The groups with an underscore between two of them. -/
def joined (groups : List (List Char)) : List Char :=
  ['_'].intercalate groups

theorem joined_cons_cons (group next : List Char) (groups : List (List Char)) :
    joined (group :: next :: groups) = group ++ '_' :: joined (next :: groups) := by
  rw [joined, List.intercalate_cons_cons, List.append_assoc]
  rfl

/-- A group of digits comes before other groups, or is the last one. -/
theorem grouped_cons_iff {group : List Char} {groups : List (List Char)} :
    Grouped (group :: groups) ↔
      (group ≠ [] ∧ ∀ c ∈ group, (Text.digitValue? c).isSome = true) ∧
        (groups ≠ [] → Grouped groups) := by
  constructor
  · rintro ⟨-, hne, hdigits⟩
    rw [List.forall_mem_cons] at hne hdigits
    exact ⟨⟨hne.1, hdigits.1⟩, fun hgroups => ⟨hgroups, hne.2, hdigits.2⟩⟩
  · rintro ⟨⟨hne, hdigits⟩, hgroups⟩
    refine ⟨List.cons_ne_nil _ _, ?_, ?_⟩
    · refine List.forall_mem_cons.mpr ⟨hne, fun other hother => ?_⟩
      exact (hgroups (List.ne_nil_of_mem hother)).group_ne_nil other hother
    · refine List.forall_mem_cons.mpr ⟨hdigits, fun other hother => ?_⟩
      exact (hgroups (List.ne_nil_of_mem hother)).isDigit other hother

/-- Groups start with a digit. -/
theorem Grouped.joined_eq_cons {groups : List (List Char)} (h : Grouped groups) :
    ∃ c cs, joined groups = c :: cs ∧ (Text.digitValue? c).isSome = true := by
  obtain ⟨group, others, rfl⟩ := List.exists_cons_of_ne_nil h.ne_nil
  obtain ⟨⟨hne, hdigits⟩, -⟩ := grouped_cons_iff.mp h
  obtain ⟨c, cs, rfl⟩ := List.exists_cons_of_ne_nil hne
  have hc := hdigits c List.mem_cons_self
  cases others with
  | nil => exact ⟨c, cs, List.intercalate_singleton, hc⟩
  | cons next others => exact ⟨c, _, joined_cons_cons _ _ _, hc⟩

/-- A group is read digit by digit, up to the end or to an underscore and what follows it. -/
theorem literalDigits?_group {group rest : List Char} {ds : List Nat} (hne : group ≠ [])
    (hdigits : ∀ c ∈ group, (Text.digitValue? c).isSome = true)
    (hrest : rest = [] ∧ ds = [] ∨ ∃ cs, rest = '_' :: cs ∧ literalDigits? cs = some ds) :
    literalDigits? (group ++ rest) = some (digitValues group ++ ds) := by
  induction group with
  | nil => exact absurd rfl hne
  | cons c group ih =>
      obtain ⟨hc, hgroup⟩ := List.forall_mem_cons.mp hdigits
      obtain ⟨d, hd⟩ := Option.isSome_iff_exists.mp hc
      rw [digitValues_cons hd]
      cases group with
      | nil =>
          rcases hrest with ⟨rfl, rfl⟩ | ⟨cs, rfl, hcs⟩
          · simp [literalDigits?, hd, digitValues]
          · simp [literalDigits?, hd, hcs, digitValues]
      | cons next group =>
          have hunderscore : next ≠ '_' :=
            ne_of_isSome_digitValue? (hgroup next List.mem_cons_self) (by decide +kernel)
          have hread := ih (List.cons_ne_nil _ _) hgroup
          rw [List.cons_append] at hread
          rw [List.cons_append, List.cons_append, literalDigits?, hd, Option.bind_some, hread,
            Option.map_some, List.cons_append]
          exact hunderscore

/-- Groups of digits with underscores between them are read as all their digits. -/
theorem literalDigits?_joined {groups : List (List Char)} (h : Grouped groups) :
    literalDigits? (joined groups) = some (digitValues groups.flatten) := by
  induction groups with
  | nil => exact absurd rfl h.ne_nil
  | cons group groups ih =>
      obtain ⟨⟨hne, hdigits⟩, hgroups⟩ := grouped_cons_iff.mp h
      rw [List.flatten_cons, digitValues_append]
      cases groups with
      | nil =>
          have hread := literalDigits?_group hne hdigits (.inl ⟨rfl, rfl⟩)
          rw [List.append_nil] at hread
          rw [joined, List.intercalate_singleton, hread]
          rfl
      | cons next groups =>
          rw [joined_cons_cons]
          exact literalDigits?_group hne hdigits (.inr ⟨_, rfl, ih (hgroups (List.cons_ne_nil _ _))⟩)

/-- What is read can be cut into groups. -/
theorem exists_groups_of_literalDigits? {cs : List Char} {ds : List Nat}
    (h : literalDigits? cs = some ds) :
    ∃ groups, Grouped groups ∧ joined groups = cs ∧ digitValues groups.flatten = ds := by
  fun_induction literalDigits? cs generalizing ds with
  | case1 => cases h
  | case2 c =>
      obtain ⟨d, hd, rfl⟩ := Option.map_eq_some_iff.mp h
      refine ⟨[[c]], grouped_cons_iff.mpr ⟨⟨List.cons_ne_nil _ _, ?_⟩, ?_⟩, rfl, ?_⟩
      · rw [List.forall_mem_singleton, hd, Option.isSome_some]
      · exact absurd rfl
      · exact digitValues_cons hd []
  | case3 c cs ih =>
      -- the underscore ends a group of one digit
      obtain ⟨d, hd, hrest⟩ := Option.bind_eq_some_iff.mp h
      obtain ⟨rest, hread, rfl⟩ := Option.map_eq_some_iff.mp hrest
      obtain ⟨groups, hgroups, rfl, rfl⟩ := ih hread
      obtain ⟨next, others, rfl⟩ := List.exists_cons_of_ne_nil hgroups.ne_nil
      refine ⟨[c] :: next :: others,
        grouped_cons_iff.mpr ⟨⟨List.cons_ne_nil _ _, ?_⟩, fun _ => hgroups⟩, ?_, ?_⟩
      · rw [List.forall_mem_singleton, hd, Option.isSome_some]
      · rw [joined_cons_cons]
        rfl
      · exact digitValues_cons hd _
  | case4 c c₂ cs _ ih =>
      -- the digit joins the group of the one behind it
      obtain ⟨d, hd, hrest⟩ := Option.bind_eq_some_iff.mp h
      obtain ⟨rest, hread, rfl⟩ := Option.map_eq_some_iff.mp hrest
      obtain ⟨groups, hgroups, hjoined, rfl⟩ := ih hread
      obtain ⟨group, others, rfl⟩ := List.exists_cons_of_ne_nil hgroups.ne_nil
      obtain ⟨⟨-, hgroup⟩, hothers⟩ := grouped_cons_iff.mp hgroups
      refine ⟨(c :: group) :: others,
        grouped_cons_iff.mpr ⟨⟨List.cons_ne_nil _ _, ?_⟩, hothers⟩, ?_, ?_⟩
      · exact List.forall_mem_cons.mpr ⟨by rw [hd, Option.isSome_some], hgroup⟩
      · rw [← hjoined]
        cases others with
        | nil => simp [joined]
        | cons next others => rw [joined_cons_cons, joined_cons_cons, List.cons_append]
      · exact digitValues_cons hd _

/-- **Digits are read off a text exactly if it can be cut into groups of them.** -/
theorem literalDigits?_eq_some_iff {cs : List Char} {ds : List Nat} :
    literalDigits? cs = some ds ↔
      ∃ groups, Grouped groups ∧ joined groups = cs ∧ digitValues groups.flatten = ds := by
  constructor
  · exact exists_groups_of_literalDigits?
  · rintro ⟨groups, hgroups, rfl, rfl⟩
    exact literalDigits?_joined hgroups

/-! ## Literals -/

/-- A way of writing a configured integer: a sign that may be missing, and groups of digits. -/
structure Literal where
  sign : Sign
  groups : List (List Char)
  grouped : Grouped groups

namespace Literal

/-- The sign and the groups, with an underscore between two groups. -/
def text (l : Literal) : String :=
  String.ofList (l.sign.chars ++ joined l.groups)

/-- A literal has at least one digit. -/
theorem flatten_ne_nil (l : Literal) : digitValues l.groups.flatten ≠ [] := by
  obtain ⟨group, groups, hgroups⟩ := List.exists_cons_of_ne_nil l.grouped.ne_nil
  have hmem : group ∈ l.groups := by rw [hgroups]; exact List.mem_cons_self
  obtain ⟨c, hc⟩ := List.exists_mem_of_ne_nil group (l.grouped.group_ne_nil group hmem)
  obtain ⟨d, hd⟩ := Option.isSome_iff_exists.mp (l.grouped.isDigit group hmem c hc)
  exact List.ne_nil_of_mem (List.mem_filterMap.mpr ⟨c, List.mem_flatten.mpr ⟨group, hmem, hc⟩, hd⟩)

/-- The same digits in a row. -/
def spelling (l : Literal) : Spelling where
  sign := l.sign
  digits := digitValues l.groups.flatten
  digits_ne_nil := l.flatten_ne_nil
  lt_ten d hd := by
    obtain ⟨c, -, hc⟩ := List.mem_filterMap.mp hd
    exact lt_ten_of_digitValue? hc

/-- The number of digits. Underscores and the sign do not count. -/
def width (l : Literal) : Nat :=
  l.spelling.width

/-- The integer that is written. -/
def integer (l : Literal) : Int :=
  l.spelling.integer

end Literal

/-- Reading digits from the left gives the number that they stand for. -/
theorem foldl_eq_ofDigits (ds : List Nat) :
    ds.foldl (fun n d => 10 * n + d) 0 = Nat.ofDigits 10 ds.reverse := by
  rw [Nat.ofDigits_eq_foldr, List.foldr_reverse]
  simp only [Nat.cast_id, Nat.add_comm]

/-- The sign of a literal is told from its digits. -/
theorem Literal.splitSign_text (l : Literal) :
    splitSign l.text.toList = (decide (l.sign = .minus), joined l.groups) := by
  obtain ⟨c, cs, hjoined, hc⟩ := l.grouped.joined_eq_cons
  have hplus : c ≠ '+' := ne_of_isSome_digitValue? hc (by decide +kernel)
  have hminus : c ≠ '-' := ne_of_isSome_digitValue? hc (by decide +kernel)
  rw [text, String.toList_ofList, hjoined, splitSign_chars_append l.sign hplus hminus]

/-- A literal is read by its sign and its digits, if there are not too many. -/
theorem ofLiteral?_eq (s : String) :
    ofLiteral? s = (literalDigits? (splitSign s.toList).2).bind fun ds =>
      if ds.length ≤ digitLimit then
        some (signed (splitSign s.toList).1 (Nat.ofDigits 10 ds.reverse))
      else none := by
  simp only [← foldl_eq_ofDigits]
  rfl

/-- Of a literal that is short enough the integer is read. -/
theorem Literal.ofLiteral?_text {l : Literal} (h : l.width ≤ digitLimit) :
    ofLiteral? l.text = some l.integer := by
  have hlength : (digitValues l.groups.flatten).length ≤ digitLimit := h
  rw [ofLiteral?_eq, l.splitSign_text, literalDigits?_joined l.grouped, Option.bind_some,
    if_pos hlength, Sign.signed_eq]
  rfl

/-- **An integer is read exactly if there is a literal of it that is short enough.** -/
theorem ofLiteral?_eq_some_iff {s : String} {n : Int} :
    ofLiteral? s = some n ↔ ∃ l : Literal, l.text = s ∧ l.width ≤ digitLimit ∧ l.integer = n := by
  constructor
  · intro h
    obtain ⟨ds, hread, hvalue⟩ := Option.bind_eq_some_iff.mp (ofLiteral?_eq s ▸ h)
    obtain ⟨groups, hgroups, hjoined, rfl⟩ := literalDigits?_eq_some_iff.mp hread
    obtain ⟨sign, hsign, hminus⟩ := exists_sign s.toList
    -- the groups with the sign in front of them are the whole text
    let l : Literal := ⟨sign, groups, hgroups⟩
    have htext : l.text = s := by
      rw [Literal.text, hjoined, hsign, String.ofList_toList]
    have hwidth : l.width ≤ digitLimit := by
      by_contra hlong
      have hnone := (if_neg hlong).symm.trans hvalue
      cases hnone
    refine ⟨l, htext, hwidth, ?_⟩
    rw [← htext, Literal.ofLiteral?_text hwidth] at h
    exact Option.some_inj.mp h
  · rintro ⟨l, rfl, hwidth, rfl⟩
    exact l.ofLiteral?_text hwidth

/-! ## Writing what was read -/

namespace Spelling

/-- A spelling is a literal of one group. -/
def literal (s : Spelling) : Literal where
  sign := s.sign
  groups := [s.digits.map Nat.digitChar]
  grouped := grouped_cons_iff.mpr ⟨⟨by simpa using s.digits_ne_nil, fun c hc => by
    obtain ⟨d, hd, rfl⟩ := List.mem_map.mp hc
    rw [digitValue?_digitChar (s.lt_ten d hd), Option.isSome_some]⟩, absurd rfl⟩

/-- A numeral is written in the same way as a literal. -/
theorem text_literal (s : Spelling) : s.literal.text = s.text := by
  rw [Literal.text, text, literal, joined, List.intercalate_singleton]

/-- A numeral taken for a literal is spelled as it was. -/
theorem spelling_literal (s : Spelling) : s.literal.spelling = s := by
  have hdigits : digitValues [s.digits.map Nat.digitChar].flatten = s.digits := by
    rw [List.flatten_singleton, digitValues, List.filterMap_map]
    exact (List.filterMap_congr fun d hd => digitValue?_digitChar (s.lt_ten d hd)).trans
      List.filterMap_some
  show (⟨s.sign, _, _, _⟩ : Spelling) = s
  simp only [literal, hdigits]

end Spelling

/-- An integer of a literal that is short enough has no more digits than the limit allows. -/
theorem Literal.natAbs_integer_lt {l : Literal} (h : l.width ≤ digitLimit) :
    l.integer.natAbs < 10 ^ digitLimit :=
  l.spelling.natAbs_integer_lt.trans_le (Nat.pow_le_pow_right (by decide) h)

/-- **What is written for an integer within the limit is read as that integer.** -/
theorem ofLiteral?_ofInt {n : Int} (h : n.natAbs < 10 ^ digitLimit) : ofLiteral? (ofInt n) = some n := by
  obtain ⟨s, hs, rfl⟩ := Spelling.exists_canonical n
  have hwidth : s.literal.width ≤ digitLimit := by
    rw [Literal.width, s.spelling_literal]
    exact (hs.width_le_iff (by decide)).mpr h
  rw [← hs.text_eq, ← s.text_literal, Literal.ofLiteral?_text hwidth, Literal.integer,
    s.spelling_literal]

end Numeral
end PairLisp
