import PairLisp.Proofs.Lexing
import PairLisp.Proofs.Parsing
import PairLisp.Proofs.Parts

/-!
# Reading back what was written

Expressions are written one after the other with blanks between them, and the text is read to its
end. The expressions come back exactly if all their atoms are texts that can be symbols:

* going out, dot notation spells an expression by `dotTokens`, which the grammar derives back
  (`split_dotted_append`, `derives_dotTokens`);
* coming back, whatever is read has only atoms that were split off as symbols, or `NIL`
  (`readable_of_derives`), so no expression outside this domain ever comes back.
-/

namespace PairLisp

open Token Grammar

namespace Expr

/-- All atoms of an expression are texts that can be symbols, and no blank is in it. -/
def Readable (e : Expr) : Prop :=
  e.ComposedOf Token.Readable False

instance decidableReadable (e : Expr) : Decidable e.Readable :=
  inferInstanceAs (Decidable (e.ComposedOf Token.Readable False))

theorem readable_nil : Expr.nil.Readable := by
  decide +kernel

/-! ## Dot notation -/

/-- An expression in dot notation, by recursion. -/
def dotted : Expr → String
  | .atom token => token
  | .pair first rest => "(" ++ first.dotted ++ " . " ++ rest.dotted ++ ")"
  | .blank => ""

/-- The text that a pending piece stands for. -/
def Piece.dotted : Piece → String
  | .whole e => e.dotted
  | .text s => s

/-- The writer puts the texts of the pending pieces behind what it has written. -/
theorem writeDotted_eq (todo : List Piece) (out : String) :
    writeDotted todo out = out ++ String.join (todo.map Piece.dotted) := by
  fun_induction writeDotted todo out with
  | case1 out => simp
  | case2 out s todo ih => simp [ih, Piece.dotted, String.append_assoc]
  | case3 out token todo ih => simp [ih, Piece.dotted, dotted, String.append_assoc]
  | case4 out todo ih => simp [ih, Piece.dotted, dotted]
  | case5 out first rest todo ih => simp [ih, Piece.dotted, dotted, String.append_assoc]

theorem dotText_eq_dotted (e : Expr) : e.dotText = e.dotted := by
  rw [dotText, writeDotted_eq]
  simp [Piece.dotted]

/-- The tokens of an expression in dot notation. -/
def dotTokens : Expr → List Token
  | .atom token => [⟨.symbol, token⟩]
  | .pair first rest => .lparen :: (first.dotTokens ++ .dot :: (rest.dotTokens ++ [.rparen]))
  | .blank => []

/-- Dot notation is split into these tokens, if it ends at a boundary. Inside it every part does:
    a blank follows the first part of a pair, and a parenthesis the second. -/
theorem split_dotted_append {e : Expr} (h : e.Readable) {rest : List Char}
    (hrest : Boundary rest) :
    split (e.dotText.toList ++ rest) = e.dotTokens ++ split rest := by
  rw [dotText_eq_dotted]
  induction e generalizing rest with
  | atom token => exact split_readable_append h hrest
  | blank => exact False.elim h
  | pair a b iha ihb =>
      obtain ⟨ha, hb⟩ := h
      have hblank : Boundary (' ' :: '.' :: ' ' :: (b.dotted.toList ++ ')' :: rest)) :=
        boundary_cons (by decide) _
      have hclose : Boundary (')' :: rest) := boundary_cons (by decide) _
      have htext : (Expr.pair a b).dotted.toList ++ rest =
          '(' :: (a.dotted.toList ++ ' ' :: '.' :: ' ' :: (b.dotted.toList ++ ')' :: rest)) := by
        simp [dotted]
      rw [htext, split_lparen, iha ha hblank, split_blank (by decide), split_dot,
        split_blank (by decide), ihb hb hclose, split_rparen]
      simp [dotTokens]

/-- The tokens of dot notation derive the expression. -/
theorem derives_dotTokens {e : Expr} (h : e.Readable) :
    Derives e.dotTokens (.expression e) := by
  induction e with
  | atom token => exact .symbol rfl
  | blank => exact False.elim h
  | pair a b iha ihb =>
      have hrow : Derives a.dotTokens (.row [a]) := derives_row_snoc .none (iha h.1)
      exact .dotted (l := .lparen) (d := .dot) (r := .rparen) rfl hrow rfl (ihb h.2) rfl

end Expr

/-! ## Texts in a row -/

/-- The texts of some items, each with the gap behind it. -/
def spaced (write : Expr → String) (items : List (Expr × String)) : String :=
  String.join (items.map fun item => write item.1 ++ item.2)

/-- Gaps are blank, and only the last one may be empty. -/
def Gaps (items : List (Expr × String)) : Prop :=
  (∀ item ∈ items, Blank item.2) ∧ ∀ item ∈ items.dropLast, item.2 ≠ ""

instance (items : List (Expr × String)) : Decidable (Gaps items) :=
  inferInstanceAs (Decidable (_ ∧ _))

/-- What follows an item in a row is a boundary. -/
theorem boundary_gap {write : Expr → String} {e : Expr} {gap : String}
    {items : List (Expr × String)} (h : Gaps ((e, gap) :: items)) :
    Boundary (gap.toList ++ (spaced write items).toList) := by
  cases hgap : gap.toList with
  | nil =>
      -- an empty gap is the last one
      have hempty : gap = "" := String.toList_eq_nil_iff.mp hgap
      cases items with
      | nil => exact boundary_nil
      | cons item items => exact absurd hempty (h.2 (e, gap) List.mem_cons_self)
  | cons c cs =>
      have hc : c ∈ blanks := h.1 (e, gap) List.mem_cons_self c (by simp [hgap])
      exact boundary_cons (isSymbolChar_of_isBlank (isBlank_iff.mpr hc)) _

theorem Gaps.tail {item : Expr × String} {items : List (Expr × String)}
    (h : Gaps (item :: items)) : Gaps items := by
  refine ⟨fun other hother => h.1 other (List.mem_cons_of_mem item hother), ?_⟩
  cases items with
  | nil =>
      intro other hother
      cases hother
  | cons next items => exact fun other hother => h.2 other (List.mem_cons_of_mem item hother)

/-- If each text is split into its tokens wherever it ends at a boundary, texts in a row are split
    into theirs. -/
theorem split_spaced {write : Expr → String} {tokens : Expr → List Token}
    {items : List (Expr × String)} (hgaps : Gaps items)
    (h : ∀ item ∈ items, ∀ rest, Boundary rest →
      split ((write item.1).toList ++ rest) = tokens item.1 ++ split rest) :
    split (spaced write items).toList = (items.map Prod.fst).flatMap tokens := by
  induction items with
  | nil => simp [spaced]
  | cons item items ih =>
      obtain ⟨e, gap⟩ := item
      have hblank : Blank gap := hgaps.1 (e, gap) List.mem_cons_self
      have htext : (spaced write ((e, gap) :: items)).toList =
          (write e).toList ++ (gap.toList ++ (spaced write items).toList) := by
        simp [spaced]
      rw [htext, h (e, gap) List.mem_cons_self _ (boundary_gap hgaps), split_blank_append hblank,
        ih hgaps.tail fun other hother => h other (List.mem_cons_of_mem _ hother)]
      rfl

/-- Texts in a row derive the row of what each of them derives. -/
theorem derives_flatMap_map {tokens : Expr → List Token} {f : Expr → Expr} {es : List Expr}
    (h : ∀ e ∈ es, Derives (tokens e) (.expression (f e))) :
    Derives (es.flatMap tokens) (.row (es.map f)) := by
  induction es with
  | nil => exact .none
  | cons e es ih =>
      exact .more (h e List.mem_cons_self) (ih fun g hg => h g (List.mem_cons_of_mem e hg))

/-- Expressions in a row derive a row. -/
theorem derives_flatMap {tokens : Expr → List Token} {es : List Expr}
    (h : ∀ e ∈ es, Derives (tokens e) (.expression e)) :
    Derives (es.flatMap tokens) (.row es) := by
  have hrow := derives_flatMap_map (f := id) h
  rwa [List.map_id] at hrow

/-! ## What is read -/

/-- All expressions of a phrase are readable. -/
def Grammar.Phrase.Readable : Phrase → Prop
  | .expression e => e.Readable
  | .row es => ∀ e ∈ es, e.Readable

/-- **What is derived from symbols that can be symbols is readable.** -/
theorem readable_of_derives {ts : List Token} {phrase : Phrase} (h : Derives ts phrase)
    (hts : ∀ t ∈ ts, t.kind = .symbol → Token.Readable t.text) : phrase.Readable := by
  induction h with
  | @symbol t ht => exact hts t List.mem_cons_self ht
  | empty _ _ => exact Expr.readable_nil
  | list _ _ _ ih =>
      refine Expr.composedOf_ofList (ih fun t ht => hts t ?_) Expr.readable_nil
      simp [ht]
  | dotted _ _ _ _ _ ih ihtail =>
      refine Expr.composedOf_ofList (ih fun t ht => hts t ?_) (ihtail fun t ht => hts t ?_)
      · simp [ht]
      · simp [ht]
  | none =>
      intro e he
      cases he
  | more _ _ ih ihrest =>
      intro f hf
      rcases List.mem_cons.mp hf with rfl | hf
      · exact ih fun t ht => hts t (List.mem_append_left _ ht)
      · exact ihrest (fun t ht => hts t (List.mem_append_right _ ht)) f hf

theorem toList_ofString (text : String) :
    (TokenStream.ofSource (.ofString text)).toList = lex text := by
  simp [TokenStream.toList, TokenStream.ofSource, Source.ofString, Source.ofChunks]

/-- Everything that is read from a text is readable. -/
theorem readable_of_readAll {text : String} {es : List Expr}
    (h : (TokenStream.ofSource (.ofString text)).readAll.1 = .ok es) :
    ∀ e ∈ es, e.Readable := by
  rw [readAll_eq_ok_iff, toList_ofString] at h
  exact readable_of_derives h fun t ht hkind => readable_of_mem_lex ht hkind

/-- **Dot notation can be read back, and nothing but readable expressions comes back from it.**
    Expressions in dot notation, with blanks around and between them, are read as themselves
    exactly if all their atoms can be symbols. -/
theorem readAll_dotText_iff (lead : String) (items : List (Expr × String)) (hlead : Blank lead)
    (hgaps : Gaps items) :
    (TokenStream.ofSource (.ofString (lead ++ spaced Expr.dotText items))).readAll.1 =
        .ok (items.map Prod.fst) ↔
      ∀ item ∈ items, item.1.Readable := by
  constructor
  · intro h item hitem
    exact readable_of_readAll h item.1 (List.mem_map_of_mem hitem)
  · intro h
    have htokens : lex (lead ++ spaced Expr.dotText items) =
        (items.map Prod.fst).flatMap Expr.dotTokens := by
      rw [lex_eq_split, String.toList_append, split_blank_append hlead]
      refine split_spaced hgaps fun item hitem rest hrest => ?_
      exact Expr.split_dotted_append (h item hitem) hrest
    rw [readAll_eq_ok_iff, toList_ofString, htokens]
    refine derives_flatMap fun e he => ?_
    obtain ⟨item, hitem, rfl⟩ := List.mem_map.mp he
    exact Expr.derives_dotTokens (h item hitem)

/-- A dot inside a name does no harm, but a name that begins with one does not come back. -/
theorem readAll_dotText_name_with_dot :
    (Blank "\n" ∧ Gaps [(.pair (.atom "a.b") (.pair (.atom "nil") (.atom "-7")), " \t"),
        (.atom "T", "")]) ∧
      (TokenStream.ofSource (.ofString ("\n" ++ spaced Expr.dotText
          [(.pair (.atom "a.b") (.pair (.atom "nil") (.atom "-7")), " \t"),
            (.atom "T", "")]))).readAll.1 =
        .ok [.pair (.atom "a.b") (.pair (.atom "nil") (.atom "-7")), .atom "T"] ∧
      (TokenStream.ofSource (.ofString ("\n" ++ spaced Expr.dotText
          [(.atom ".b", "")]))).readAll.1 ≠ .ok [.atom ".b"] :=
  ⟨⟨by decide +kernel, by decide +kernel⟩,
    (readAll_dotText_iff _ _ (by decide +kernel) (by decide +kernel)).mpr (by decide +kernel),
    fun h => absurd ((readAll_dotText_iff "\n" [(.atom ".b", "")] (by decide +kernel)
      (by decide +kernel)).mp h) (by decide +kernel)⟩

end PairLisp
