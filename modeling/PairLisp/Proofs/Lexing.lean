import PairLisp.Token

/-!
# Splitting text into tokens

The splitter collects tokens latest first. `split` gives the same tokens in order, so that each
kind of beginning has its equation, and from these come the two facts that reading rests on:

* a text that can be a symbol is one symbol, wherever it ends at a boundary
  (`split_readable_append`), and a text can be split part by part at boundaries (`split_append`);
* every symbol that is split off is such a text (`readable_of_mem_lex`).
-/

namespace PairLisp
namespace Token

/-! ## Characters -/

/-- The characters that only separate tokens. -/
def blanks : List Char := [' ', '\t', '\r', '\n']

/-- The characters that end a symbol. -/
def delimiters : List Char := ['(', ')']

/-- The blanks are those of the list. -/
theorem isBlank_iff {c : Char} : isBlank c = true ↔ c ∈ blanks := by
  simp [isBlank, blanks, or_assoc]

/-- A symbol goes on up to a blank or a delimiter. -/
theorem isSymbolChar_iff {c : Char} : isSymbolChar c = true ↔ c ∉ blanks ++ delimiters := by
  simp [isSymbolChar, isBlank, blanks, delimiters, and_assoc]

/-- A text that can be a symbol: it has a character, it has none that ends a symbol, and it does
    not begin with a dot. -/
def Readable (text : String) : Prop :=
  text ≠ "" ∧ (∀ c ∈ text.toList, c ∉ blanks ++ delimiters) ∧ text.toList.head? ≠ some '.'

-- only the characters of the text are looked at, not all characters there are
instance (text : String) : Decidable (Readable text) :=
  have : Decidable (∀ c ∈ text.toList, c ∉ blanks ++ delimiters) := List.decidableBAll _ _
  inferInstanceAs (Decidable (_ ∧ _ ∧ _))

/-- A text of characters that only separate tokens. -/
def Blank (text : String) : Prop :=
  ∀ c ∈ text.toList, c ∈ blanks

instance (text : String) : Decidable (Blank text) :=
  List.decidableBAll _ _

/-! ## Tokens in order -/

/-- The tokens of some characters. -/
def split : List Char → List Token
  | [] => []
  | c :: cs =>
    if isBlank c then split cs
    else if c == '(' then lparen :: split cs
    else if c == ')' then rparen :: split cs
    else if c == '.' then dot :: split cs
    else symbol (c :: cs.takeWhile isSymbolChar) :: split (cs.dropWhile isSymbolChar)
termination_by cs => cs.length
decreasing_by
  iterate 4 exact Nat.lt_succ_self _
  exact Nat.lt_succ_of_le (List.dropWhile_sublist isSymbolChar).length_le

/-- Tokens are found in the order of the text and kept latest first. -/
theorem lexOnto_eq (found : List Token) (cs : List Char) :
    lexOnto found cs = (split cs).reverse ++ found := by
  fun_induction lexOnto found cs with
  | case1 found => simp [split]
  | case2 found c cs hblank ih => rw [ih, split, if_pos hblank]
  | case3 found c cs hblank hopen ih =>
      rw [ih, split, if_neg hblank, if_pos hopen, List.reverse_cons, List.append_assoc]
      rfl
  | case4 found c cs hblank hopen hclose ih =>
      rw [ih, split, if_neg hblank, if_neg hopen, if_pos hclose, List.reverse_cons,
        List.append_assoc]
      rfl
  | case5 found c cs hblank hopen hclose hdot ih =>
      rw [ih, split, if_neg hblank, if_neg hopen, if_neg hclose, if_pos hdot, List.reverse_cons,
        List.append_assoc]
      rfl
  | case6 found c cs hblank hopen hclose hdot ih =>
      rw [ih, split, if_neg hblank, if_neg hopen, if_neg hclose, if_neg hdot, List.reverse_cons,
        List.append_assoc]
      rfl

/-- The tokens of a text, by recursion on its characters. -/
theorem lex_eq_split (text : String) : lex text = split text.toList := by
  rw [lex, lexOnto_eq, List.append_nil, List.reverse_reverse]

/-! The equations of `split`, one for each kind of beginning. -/

@[simp] theorem split_nil : split [] = [] := by
  rw [split]

/-- Blanks are passed over. -/
theorem split_blank {c : Char} (h : isBlank c = true) (cs : List Char) :
    split (c :: cs) = split cs := by
  rw [split, if_pos h]

@[simp] theorem split_lparen (cs : List Char) : split ('(' :: cs) = lparen :: split cs := by
  rw [split, if_neg (by decide), if_pos (by decide)]

@[simp] theorem split_rparen (cs : List Char) : split (')' :: cs) = rparen :: split cs := by
  rw [split, if_neg (by decide), if_neg (by decide), if_pos (by decide)]

@[simp] theorem split_dot (cs : List Char) : split ('.' :: cs) = dot :: split cs := by
  rw [split, if_neg (by decide), if_neg (by decide), if_neg (by decide), if_pos (by decide)]

/-- A symbol is cut off where it ends. -/
theorem split_symbol {c : Char} (h : isSymbolChar c = true) (hdot : c ≠ '.') (cs : List Char) :
    split (c :: cs) =
      symbol (c :: cs.takeWhile isSymbolChar) :: split (cs.dropWhile isSymbolChar) := by
  obtain ⟨hblank, hopen, hclose⟩ : isBlank c = false ∧ c ≠ '(' ∧ c ≠ ')' := by
    simpa [isSymbolChar, and_assoc] using h
  rw [split]
  simp [hblank, hopen, hclose, hdot]

/-! ## Symbols and boundaries -/

/-- Some characters do not go on with a symbol in front of them. -/
def Boundary (rest : List Char) : Prop :=
  ∀ c ∈ rest.head?, isSymbolChar c = false

theorem boundary_nil : Boundary [] := by
  intro c hc
  cases hc

/-- A symbol ends before any character that cannot be in it. -/
theorem boundary_cons {c : Char} (h : isSymbolChar c = false) (cs : List Char) :
    Boundary (c :: cs) := by
  intro c' hc'
  cases hc'
  exact h

/-- A symbol ends before a blank. -/
theorem isSymbolChar_of_isBlank {c : Char} (h : isBlank c = true) : isSymbolChar c = false := by
  simp [isSymbolChar, h]

/-- At a boundary there is nothing left of a symbol. -/
theorem takeWhile_of_boundary {rest : List Char} (h : Boundary rest) :
    rest.takeWhile isSymbolChar = [] ∧ rest.dropWhile isSymbolChar = rest := by
  cases rest with
  | nil => exact ⟨rfl, rfl⟩
  | cons c cs =>
      have hc : isSymbolChar c = false := h c rfl
      simp [hc]

/-- Where nothing is left of a symbol there is a boundary. -/
theorem boundary_of_takeWhile {rest : List Char} (h : rest.takeWhile isSymbolChar = []) :
    Boundary rest := by
  cases rest with
  | nil => exact boundary_nil
  | cons c cs =>
      refine boundary_cons (Bool.eq_false_iff.mpr fun hc => ?_) cs
      rw [List.takeWhile_cons_of_pos hc] at h
      cases h

/-- Behind the last character of a symbol there is a boundary. -/
theorem boundary_dropWhile (cs : List Char) : Boundary (cs.dropWhile isSymbolChar) := by
  intro c hc
  have hstop := List.head?_dropWhile_not isSymbolChar cs
  rwa [hc] at hstop

/-- A run of symbol characters stops at a boundary at the latest. -/
theorem takeWhile_append_of_boundary (cs : List Char) {rest : List Char} (h : Boundary rest) :
    (cs ++ rest).takeWhile isSymbolChar = cs.takeWhile isSymbolChar ∧
      (cs ++ rest).dropWhile isSymbolChar = cs.dropWhile isSymbolChar ++ rest := by
  induction cs with
  | nil => exact takeWhile_of_boundary h
  | cons c cs ih =>
      obtain ⟨htake, hdrop⟩ := ih
      by_cases hc : isSymbolChar c = true
      · rw [List.cons_append, List.takeWhile_cons_of_pos hc, List.takeWhile_cons_of_pos hc,
          List.dropWhile_cons_of_pos hc, List.dropWhile_cons_of_pos hc, htake]
        exact ⟨rfl, hdrop⟩
      · rw [List.cons_append, List.takeWhile_cons_of_neg hc, List.takeWhile_cons_of_neg hc,
          List.dropWhile_cons_of_neg hc, List.dropWhile_cons_of_neg hc]
        exact ⟨rfl, rfl⟩

/-- **Characters can be split in two parts** where the second one begins at a boundary. -/
theorem split_append (cs : List Char) {rest : List Char} (h : Boundary rest) :
    split (cs ++ rest) = split cs ++ split rest := by
  fun_induction split cs with
  | case1 => rfl
  | case2 c cs hblank ih => rw [List.cons_append, split_blank hblank, ih]
  | case3 c cs hblank hopen ih =>
      obtain rfl : c = '(' := by simpa using hopen
      rw [List.cons_append, split_lparen, ih, List.cons_append]
  | case4 c cs hblank hopen hclose ih =>
      obtain rfl : c = ')' := by simpa using hclose
      rw [List.cons_append, split_rparen, ih, List.cons_append]
  | case5 c cs hblank hopen hclose hdot ih =>
      obtain rfl : c = '.' := by simpa using hdot
      rw [List.cons_append, split_dot, ih, List.cons_append]
  | case6 c cs hblank hopen hclose hdot ih =>
      have hc : isSymbolChar c = true := by simp_all [isSymbolChar]
      obtain ⟨htake, hdrop⟩ := takeWhile_append_of_boundary cs h
      rw [List.cons_append, split_symbol hc (by simpa using hdot), htake, hdrop, ih,
        List.cons_append]

/-- A blank cuts characters in two parts. -/
theorem split_append_blank {c : Char} (h : isBlank c = true) (before cs : List Char) :
    split (before ++ c :: cs) = split before ++ split cs := by
  rw [split_append before (boundary_cons (isSymbolChar_of_isBlank h) cs), split_blank h]

/-- The characters of a text that can be a symbol. -/
theorem Readable.exists_cons {text : String} (h : Readable text) :
    ∃ c cs, text.toList = c :: cs ∧ isSymbolChar c = true ∧ c ≠ '.' ∧
      ∀ x ∈ cs, isSymbolChar x = true := by
  obtain ⟨hne, hchars, hdot⟩ := h
  obtain ⟨c, cs, htext⟩ : ∃ c cs, text.toList = c :: cs := by
    refine List.exists_cons_of_ne_nil ?_
    rwa [ne_eq, String.toList_eq_nil_iff]
  rw [htext] at hchars hdot
  refine ⟨c, cs, htext, isSymbolChar_iff.mpr (hchars c List.mem_cons_self), ?_, fun x hx =>
    isSymbolChar_iff.mpr (hchars x (List.mem_cons_of_mem c hx))⟩
  rintro rfl
  exact hdot rfl

/-- The symbol that begins with a text that can be one has all characters up to the boundary. -/
theorem split_readable_run {text : String} (h : Readable text) (rest : List Char) :
    split (text.toList ++ rest) = symbol (text.toList ++ rest.takeWhile isSymbolChar) ::
      split (rest.dropWhile isSymbolChar) := by
  obtain ⟨c, cs, htext, hc, hdot, hcs⟩ := h.exists_cons
  rw [htext, List.cons_append, split_symbol hc hdot, List.takeWhile_append_of_pos hcs,
    List.dropWhile_append_of_pos hcs, List.cons_append]

/-- **A text that can be a symbol is split off as one**, if it ends at a boundary. -/
theorem split_readable_append {text : String} {rest : List Char} (h : Readable text)
    (hrest : Boundary rest) : split (text.toList ++ rest) = ⟨.symbol, text⟩ :: split rest := by
  -- the run of symbol characters goes through the whole text and stops at the boundary
  obtain ⟨htake, hdrop⟩ := takeWhile_of_boundary hrest
  rw [split_readable_run h, htake, hdrop, List.append_nil, symbol, String.ofList_toList]

/-- Blanks in front make no difference. -/
theorem split_blank_append {text : String} (h : Blank text) (rest : List Char) :
    split (text.toList ++ rest) = split rest := by
  have hblanks : ∀ c ∈ text.toList, c ∈ blanks := h
  generalize text.toList = cs at hblanks
  induction cs with
  | nil => rfl
  | cons c cs ih =>
      have hc : isBlank c = true := isBlank_iff.mpr (hblanks c List.mem_cons_self)
      have hcs : ∀ x ∈ cs, x ∈ blanks := fun x hx => hblanks x (List.mem_cons_of_mem c hx)
      rw [List.cons_append, split_blank hc, ih hcs]

/-- A run of characters that was split off can be a symbol. -/
theorem readable_run {c : Char} {cs : List Char} (hc : isSymbolChar c = true) (hdot : c ≠ '.') :
    Readable (symbol (c :: cs.takeWhile isSymbolChar)).text := by
  have hrun : ∀ x ∈ cs.takeWhile isSymbolChar, isSymbolChar x = true :=
    List.all_eq_true.mp List.all_takeWhile
  rw [symbol]
  refine ⟨?_, ?_, ?_⟩
  · rw [ne_eq, ← String.toList_eq_nil_iff, String.toList_ofList]
    exact List.cons_ne_nil _ _
  · intro x hx
    rw [String.toList_ofList] at hx
    refine isSymbolChar_iff.mp ?_
    rcases List.mem_cons.mp hx with rfl | hx
    · exact hc
    · exact hrun x hx
  · rw [String.toList_ofList]
    intro h
    exact hdot (Option.some.inj h)

/-- Every symbol among the tokens of some characters is a text that can be one. -/
theorem readable_of_mem_split {cs : List Char} {t : Token} (ht : t ∈ split cs)
    (hkind : t.kind = .symbol) : Readable t.text := by
  fun_induction split cs with
  | case1 => cases ht
  | case2 c cs hblank ih => exact ih ht
  | case3 c cs hblank hopen ih =>
      rcases List.mem_cons.mp ht with rfl | ht
      · cases hkind
      · exact ih ht
  | case4 c cs hblank hopen hclose ih =>
      rcases List.mem_cons.mp ht with rfl | ht
      · cases hkind
      · exact ih ht
  | case5 c cs hblank hopen hclose hdot ih =>
      rcases List.mem_cons.mp ht with rfl | ht
      · cases hkind
      · exact ih ht
  | case6 c cs hblank hopen hclose hdot ih =>
      rcases List.mem_cons.mp ht with rfl | ht
      · refine readable_run ?_ (by simpa using hdot)
        simp_all [isSymbolChar]
      · exact ih ht

/-- The other tokens are the parentheses and the dot. -/
theorem mem_of_mem_split {cs : List Char} {t : Token} (ht : t ∈ split cs)
    (hkind : t.kind ≠ .symbol) : t ∈ [lparen, rparen, dot] := by
  fun_induction split cs with
  | case1 => cases ht
  | case2 c cs hblank ih => exact ih ht
  | case3 c cs hblank hopen ih =>
      rcases List.mem_cons.mp ht with rfl | ht
      · exact List.mem_cons_self
      · exact ih ht
  | case4 c cs hblank hopen hclose ih =>
      rcases List.mem_cons.mp ht with rfl | ht
      · exact List.mem_cons_of_mem _ List.mem_cons_self
      · exact ih ht
  | case5 c cs hblank hopen hclose hdot ih =>
      rcases List.mem_cons.mp ht with rfl | ht
      · exact List.mem_cons_of_mem _ (List.mem_cons_of_mem _ List.mem_cons_self)
      · exact ih ht
  | case6 c cs hblank hopen hclose hdot ih =>
      rcases List.mem_cons.mp ht with rfl | ht
      · exact absurd rfl hkind
      · exact ih ht

/-- **Every symbol among the tokens of a text is a text that can be one.** -/
theorem readable_of_mem_lex {text : String} {t : Token} (ht : t ∈ lex text)
    (hkind : t.kind = .symbol) : Readable t.text := by
  rw [lex_eq_split] at ht
  exact readable_of_mem_split ht hkind

end Token
end PairLisp
