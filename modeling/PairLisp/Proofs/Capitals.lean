import Mathlib.Data.List.DropRight
import PairLisp.Proofs.AsciiCase

/-!
# Upper case is final

The upper case form of a text has nothing in it that could be written in upper case again, and it is
white space only where the text was. Both hold character by character and for all of Unicode, and both
come from the tables. The route:

* `smallCodes` are the code points that upper case moves, and `capitalCodes` those that it moves them
  to. What is not small stays (`upperChar_of_not_small`), and the form of every other character is made
  of capitals (`upperChar_cases`);
* the tables are checked once: no capital is small or white space (`capitals_disjoint`), and each is a
  character (`capitals_valid`). To compare all the code points at once, a set of them is kept as one
  number, with a bit for each (`codeSet`);
* so the upper case form of a text is its own (`upper_upper`), and a text with no white space at its ends
  is not given any (`Trimmed.upper`). The texts with none there are those that `trim` leaves as they are
  (`trimmed_trim`, `Trimmed.trim_eq`).
-/

namespace PairLisp.Text

/-! ## Sets of code points -/

/-- A set of code points as a number: bit `n` says whether `n` is one of them. -/
def codeSet (codes : List Nat) : Nat :=
  codes.foldr (fun n set => 1 <<< n ||| set) 0

theorem testBit_codeSet {codes : List Nat} {n : Nat} :
    (codeSet codes).testBit n = true ↔ n ∈ codes := by
  induction codes with
  | nil => simp [codeSet]
  | cons m codes ih =>
      show (1 <<< m ||| codeSet codes).testBit n = true ↔ n ∈ m :: codes
      rw [Nat.testBit_or, Bool.or_eq_true, ih, Nat.one_shiftLeft, Nat.testBit_two_pow,
        decide_eq_true_iff, List.mem_cons, eq_comm]

/-- Two sets without a common bit have no common code point. -/
theorem not_mem_of_codeSet_and {codes codes' : List Nat}
    (h : codeSet codes &&& codeSet codes' = 0) {n : Nat} (hn : n ∈ codes) : n ∉ codes' := by
  intro hn'
  have hbit : (codeSet codes &&& codeSet codes').testBit n = true := by
    rw [Nat.testBit_and, testBit_codeSet.mpr hn, testBit_codeSet.mpr hn', Bool.and_self]
  rw [h, Nat.zero_testBit] at hbit
  cases hbit

/-- The code points of a run. -/
def CaseRun.codes (run : CaseRun) : List Nat :=
  List.range' run.first ((run.last - run.first) / run.step + 1) run.step

theorem CaseRun.mem_codes {run : CaseRun} {n : Nat} (h : run.covers n = true) : n ∈ run.codes := by
  simp only [covers, Bool.and_eq_true, decide_eq_true_eq, beq_iff_eq] at h
  obtain ⟨⟨hfirst, hlast⟩, hstep⟩ := h
  refine List.mem_range'.mpr ⟨(n - run.first) / run.step, ?_, ?_⟩
  · exact Nat.lt_succ_of_le (Nat.div_le_div_right (by omega))
  · have hmul := Nat.mul_div_cancel' (Nat.dvd_of_mod_eq_zero hstep)
    omega

/-! ## Small letters and capitals -/

/-- The code points that have another upper case form than themselves. -/
def smallCodes : List Nat :=
  List.range' 97 26 ++ upperRuns.flatMap CaseRun.codes ++ upperExpansions.map Prod.fst

/-- The code points that upper case forms are made of, where they are not the character itself. -/
def capitalCodes : List Nat :=
  List.range' 65 26 ++ upperRuns.flatMap (fun run => run.codes.map run.image) ++
    upperExpansions.flatMap Prod.snd

/-- The code points of white space. -/
def spaceCodes : List Nat :=
  spaceSpans.flatMap fun span => List.range' span.1 (span.2 + 1 - span.1)

/-- **No capital is a small letter or white space.** -/
theorem capitals_disjoint : codeSet capitalCodes &&& codeSet (smallCodes ++ spaceCodes) = 0 := by
  decide +kernel

/-- Every capital is a character. -/
theorem capitals_valid : capitalCodes.all (fun n => decide n.isValidChar) = true := by
  decide +kernel

theorem expansions_ne_nil : upperExpansions.all (fun entry => !entry.2.isEmpty) = true := by
  decide +kernel

theorem mem_spaceCodes {c : Char} (h : isSpace c = true) : c.toNat ∈ spaceCodes := by
  obtain ⟨span, hspan, hfirst, hlast⟩ := inSpans_iff.mp h
  exact List.mem_flatMap.mpr ⟨span, hspan, List.mem_range'_1.mpr (by omega)⟩

/-- A capital is a character that is neither a small letter nor white space. -/
theorem of_mem_capitalCodes {n : Nat} (h : n ∈ capitalCodes) :
    (Char.ofNat n).toNat = n ∧ n ∉ smallCodes ∧ n ∉ spaceCodes := by
  have hvalid : n.isValidChar := of_decide_eq_true (List.all_eq_true.mp capitals_valid n h)
  have hchar : Char.ofNat n = Char.ofNatAux n hvalid := dif_pos hvalid
  have hapart := not_mem_of_codeSet_and capitals_disjoint h
  rw [List.mem_append, not_or] at hapart
  exact ⟨by rw [hchar]; rfl, hapart⟩

/-! ## Upper case of one character -/

/-- Upper case moves the small letters only. -/
theorem upperChar_of_not_small {c : Char} (h : c.toNat ∉ smallCodes) : upperChar c = [c] := by
  simp only [smallCodes, List.mem_append, not_or] at h
  obtain ⟨⟨hascii, hruns⟩, hexpansions⟩ := h
  by_cases hsmall : c.toNat < 128
  · rw [upperChar_ascii hsmall]
    rcases toUpper_cases c with ⟨hletter, -⟩ | ⟨-, hup⟩
    · exact absurd (List.mem_range'_1.mpr (by omega)) hascii
    · rw [hup]
  · have hlookup : upperExpansions.lookup c.toNat = none := by
      refine List.lookup_eq_none_iff.mpr fun entry hentry => bne_iff_ne.mpr fun heq => ?_
      exact hexpansions (List.mem_map.mpr ⟨entry, hentry, heq.symm⟩)
    have hfind : upperRuns.find? (·.covers c.toNat) = none := by
      refine List.find?_eq_none.mpr fun run hrun hcovers => ?_
      exact hruns (List.mem_flatMap.mpr ⟨run, hrun, CaseRun.mem_codes hcovers⟩)
    rw [upperChar, if_neg hsmall, hlookup, hfind]

/-- **The upper case form of a character is that character, or it is made of capitals.** -/
theorem upperChar_cases (c : Char) :
    upperChar c = [c] ∨
      ∃ codes, codes ≠ [] ∧ (∀ n ∈ codes, n ∈ capitalCodes) ∧ upperChar c = codes.map Char.ofNat := by
  by_cases hsmall : c.toNat < 128
  · rw [upperChar_ascii hsmall]
    rcases toUpper_cases c with ⟨hletter, hup⟩ | ⟨-, hup⟩
    · have hcapital : c.toUpper.toNat ∈ List.range' 65 26 := List.mem_range'_1.mpr (by omega)
      refine .inr ⟨[c.toUpper.toNat], by simp, ?_, by simp⟩
      rw [List.forall_mem_singleton]
      exact List.mem_append_left _ (List.mem_append_left _ hcapital)
    · exact .inl (by rw [hup])
  · -- beyond ASCII the longer forms are looked for first, then the single capitals
    rw [upperChar, if_neg hsmall]
    split
    · next codes hlookup =>
        obtain ⟨before, behind, hsplit, -⟩ := List.lookup_eq_some_iff.mp hlookup
        have hentry : (c.toNat, codes) ∈ upperExpansions := by simp [hsplit]
        refine .inr ⟨codes, ?_, fun n hn => ?_, rfl⟩
        · simpa using List.all_eq_true.mp expansions_ne_nil _ hentry
        · exact List.mem_append_right _ (List.mem_flatMap.mpr ⟨_, hentry, hn⟩)
    · split
      · next run hfind =>
          have hcovers : run.covers c.toNat = true :=
            List.find?_some (p := fun run : CaseRun => run.covers c.toNat) hfind
          have himage : run.image c.toNat ∈ run.codes.map run.image :=
            List.mem_map_of_mem (CaseRun.mem_codes hcovers)
          refine .inr ⟨[run.image c.toNat], by simp, ?_, rfl⟩
          rw [List.forall_mem_singleton]
          exact List.mem_append_left _ (List.mem_append_right _
            (List.mem_flatMap.mpr ⟨run, List.mem_of_find?_eq_some hfind, himage⟩))
      · exact .inl rfl

/-- No character vanishes in capitals. -/
theorem upperChar_ne_nil (c : Char) : upperChar c ≠ [] := by
  rcases upperChar_cases c with heq | ⟨codes, hne, -, heq⟩
  · simp [heq]
  · simpa [heq] using hne

/-- What stands in an upper case form is its own upper case form. -/
theorem upperChar_of_mem {c d : Char} (h : d ∈ upperChar c) : upperChar d = [d] := by
  rcases upperChar_cases c with heq | ⟨codes, -, hcapital, heq⟩
  · rw [heq, List.mem_singleton] at h
    rw [h, heq]
  · rw [heq] at h
    obtain ⟨n, hn, rfl⟩ := List.mem_map.mp h
    obtain ⟨hcode, hsmall, -⟩ := of_mem_capitalCodes (hcapital n hn)
    exact upperChar_of_not_small (hcode.symm ▸ hsmall)

/-- White space stands in no upper case form but its own. -/
theorem not_isSpace_of_mem_upperChar {c d : Char} (h : d ∈ upperChar c) (hc : isSpace c = false) :
    isSpace d = false := by
  rcases upperChar_cases c with heq | ⟨codes, -, hcapital, heq⟩
  · rw [heq, List.mem_singleton] at h
    rw [h, hc]
  · rw [heq] at h
    obtain ⟨n, hn, rfl⟩ := List.mem_map.mp h
    obtain ⟨hcode, -, hspace⟩ := of_mem_capitalCodes (hcapital n hn)
    refine Bool.eq_false_iff.mpr fun hd => hspace ?_
    rw [← hcode]
    exact mem_spaceCodes hd

/-! ## Texts -/

/-- **Upper case is idempotent.** -/
theorem upper_upper (s : String) : upper (upper s) = upper s := by
  rw [← String.toList_inj, toList_upper, toList_upper, List.flatMap_assoc]
  refine List.flatMap_congr fun c _ => ?_
  exact (List.flatMap_congr fun d hd => upperChar_of_mem hd).trans (List.flatMap_singleton' _)

/-- There is no white space at either end of the text. -/
structure Trimmed (s : String) : Prop where
  head {c : Char} (h : s.toList.head? = some c) : isSpace c = false
  last {c : Char} (h : s.toList.getLast? = some c) : isSpace c = false

theorem trimmed_of_forall {s : String} (h : ∀ c ∈ s.toList, isSpace c = false) : Trimmed s where
  head hc := h _ (List.mem_of_head? hc)
  last hc := h _ (List.mem_of_getLast? hc)

theorem toList_trim (s : String) :
    (trim s).toList = (s.toList.dropWhile isSpace).rdropWhile isSpace := by
  rw [trim, String.toList_ofList, List.rdropWhile]

/-- What has been trimmed is trimmed. -/
theorem trimmed_trim (s : String) : Trimmed (trim s) where
  head {c} h := by
    rw [toList_trim] at h
    -- what is dropped at the end leaves the first character where it is
    obtain ⟨dropped, happend⟩ := List.rdropWhile_prefix isSpace (s.toList.dropWhile isSpace)
    have hhead : (s.toList.dropWhile isSpace).head? = some c := by
      rw [← happend, List.head?_append, h, Option.some_or]
    have hnot := List.head?_dropWhile_not isSpace s.toList
    rw [hhead] at hnot
    exact hnot
  last {c} h := by
    rw [toList_trim] at h
    have hne : (s.toList.dropWhile isSpace).rdropWhile isSpace ≠ [] := by
      intro hnil
      rw [hnil] at h
      cases h
    rw [← (List.getLast_eq_iff_getLast?_eq_some hne).mpr h]
    exact Bool.eq_false_iff.mpr (List.rdropWhile_last_not _ _ hne)

/-- What is trimmed stays as it is. -/
theorem Trimmed.trim_eq {s : String} (h : Trimmed s) : trim s = s := by
  have hfront : s.toList.dropWhile isSpace = s.toList := by
    cases hs : s.toList with
    | nil => rfl
    | cons c cs =>
        have hc : isSpace c = false := h.head (by rw [hs, List.head?_cons])
        rw [List.dropWhile_cons_of_neg (by rw [hc]; exact Bool.false_ne_true)]
  rw [← String.toList_inj, toList_trim, hfront, List.rdropWhile_eq_self_iff]
  intro hne
  rw [h.last (List.getLast?_eq_some_getLast hne)]
  exact Bool.false_ne_true

/-- Upper case gives a text no white space at its ends. -/
theorem Trimmed.upper {s : String} (h : Trimmed s) : Trimmed (upper s) where
  head {d} hd := by
    rw [toList_upper] at hd
    cases hs : s.toList with
    | nil => simp [hs] at hd
    | cons c cs =>
        rw [hs, List.flatMap_cons, List.head?_append_of_ne_nil _ (upperChar_ne_nil c)] at hd
        have hc : isSpace c = false := h.head (by rw [hs, List.head?_cons])
        exact not_isSpace_of_mem_upperChar (List.mem_of_head? hd) hc
  last {d} hd := by
    rw [toList_upper] at hd
    -- the last character of the form comes from the last one of the text, whose form is not empty
    rcases List.eq_nil_or_concat' s.toList with hs | ⟨cs, c, hs⟩
    · simp [hs] at hd
    · rw [hs, List.flatMap_append, List.flatMap_singleton,
        List.getLast?_append_of_ne_nil _ (upperChar_ne_nil c)] at hd
      have hc : isSpace c = false := h.last (by rw [hs, List.getLast?_concat])
      exact not_isSpace_of_mem_upperChar (List.mem_of_getLast? hd) hc

end PairLisp.Text
