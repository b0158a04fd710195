import Mathlib.Data.List.Chain
import PairLisp.Proofs.Lexing

/-!
# The layout of a text

A text is tokens with blanks between them. `LaidOut` says which rows of tokens and blanks are a
layout of a text, and it says so without the splitter: blanks may stand anywhere between tokens, and
only behind a symbol something has to follow that ends it. This file shows that every text has a
layout and that all its layouts have the same tokens, which are those that the splitter finds. The
route:

* a token in front of other characters is split off exactly if it is no symbol or they begin at a
  boundary (`split_token_append_iff`), and they begin at a boundary exactly if their first token is a
  parenthesis or blanks stand before it (`LaidOut.boundary_iff`);
* so a layout is a token in front of a layout that it does not run into (`laidOut_cons_iff`);
* by this equation, the tokens of any layout are split off one after the other
  (`LaidOut.split_eq`), and a layout can be put together from the tokens that are split off
  (`exists_laidOut`).
-/

namespace PairLisp
namespace Token

/-! ## Tokens in front of other characters -/

/-- A token that can stand in a text: a parenthesis, a dot, or a symbol whose text can be one. -/
def WellFormed (t : Token) : Prop :=
  t ∈ [lparen, rparen, dot] ∨ t.kind = .symbol ∧ Readable t.text

theorem WellFormed.eq_or {t : Token} (h : WellFormed t) :
    t = lparen ∨ t = rparen ∨ t = dot ∨ ∃ text, Readable text ∧ t = ⟨.symbol, text⟩ := by
  rcases h with h | ⟨hkind, hreadable⟩
  · simp only [List.mem_cons, List.not_mem_nil, or_false] at h
    rcases h with h | h | h
    · exact .inl h
    · exact .inr (.inl h)
    · exact .inr (.inr (.inl h))
  · exact .inr (.inr (.inr ⟨t.text, hreadable, by rw [← hkind]⟩))

/-- A symbol is split off up to the next boundary, and no sooner. -/
theorem split_token_append_iff {t : Token} (h : WellFormed t) (rest : List Char) :
    split (t.text.toList ++ rest) = t :: split rest ↔ (t.kind = .symbol → Boundary rest) := by
  rcases h.eq_or with rfl | rfl | rfl | ⟨text, hreadable, rfl⟩
  · exact iff_of_true (split_lparen rest) (by intro hkind; cases hkind)
  · exact iff_of_true (split_rparen rest) (by intro hkind; cases hkind)
  · exact iff_of_true (split_dot rest) (by intro hkind; cases hkind)
  · constructor
    · -- the symbol that is split off has all characters up to the boundary
      intro hsplit _
      rw [split_readable_run hreadable] at hsplit
      have hrun := congrArg (fun t => t.text.toList) (List.cons.inj hsplit).1
      dsimp only [symbol] at hrun
      rw [String.toList_ofList] at hrun
      exact boundary_of_takeWhile (List.append_right_eq_self.mp hrun)
    · intro hrest
      exact split_readable_append hreadable (hrest rfl)

/-- Only the parentheses begin at a boundary. -/
theorem boundary_token_append_iff {t : Token} (h : WellFormed t) (rest : List Char) :
    Boundary (t.text.toList ++ rest) ↔ t ∈ [lparen, rparen] := by
  rcases h.eq_or with rfl | rfl | rfl | ⟨text, hreadable, rfl⟩
  · exact iff_of_true (boundary_cons (by decide) rest) (by decide)
  · exact iff_of_true (boundary_cons (by decide) rest) (by decide)
  · refine iff_of_false ?_ (by decide)
    intro hboundary
    exact absurd (hboundary '.' rfl) (by decide)
  · obtain ⟨c, cs, htext, hc, _⟩ := hreadable.exists_cons
    refine iff_of_false ?_ (by simp [lparen, rparen])
    intro hboundary
    rw [htext] at hboundary
    rw [hboundary c rfl] at hc
    cases hc

/-- Blanks, if there are any, begin at a boundary. -/
theorem boundary_blank_append_iff {gap : String} (h : Blank gap) (rest : List Char) :
    Boundary (gap.toList ++ rest) ↔ (gap = "" → Boundary rest) := by
  cases hgap : gap.toList with
  | nil =>
      rw [List.nil_append]
      exact ⟨fun hrest _ => hrest, fun hrest => hrest (String.toList_eq_nil_iff.mp hgap)⟩
  | cons c cs =>
      have hc : isBlank c = true := isBlank_iff.mpr (h c (by simp [hgap]))
      refine iff_of_true (boundary_cons (isSymbolChar_of_isBlank hc) _) ?_
      rintro rfl
      cases hgap

theorem WellFormed.not_blank {t : Token} (h : WellFormed t) : ∀ c ∈ t.text.toList, c ∉ blanks := by
  intro c hc
  rcases h.eq_or with rfl | rfl | rfl | ⟨text, hreadable, rfl⟩
  · obtain rfl : c = '(' := List.mem_singleton.mp hc
    decide
  · obtain rfl : c = ')' := List.mem_singleton.mp hc
    decide
  · obtain rfl : c = '.' := List.mem_singleton.mp hc
    decide
  · intro hblank
    exact hreadable.2.1 c hc (List.mem_append_left _ hblank)

/-! ## Layouts -/

/-- A token and the blanks behind it. -/
structure Piece where
  token : Token
  gap : String

namespace Piece

/-- What a piece adds to a text. -/
def written (p : Piece) : String :=
  p.token.text ++ p.gap

/-- A symbol with no blank behind it is followed by a parenthesis. -/
def MayPrecede (p next : Piece) : Prop :=
  p.token.kind = .symbol → p.gap = "" → next.token ∈ [lparen, rparen]

end Piece

/-- A text is some blanks and then the pieces, one behind the other. -/
structure LaidOut (text lead : String) (pieces : List Piece) : Prop where
  text_eq : text = lead ++ String.join (pieces.map Piece.written)
  blank_lead : Blank lead
  blank_gap : ∀ p ∈ pieces, Blank p.gap
  wellFormed : ∀ p ∈ pieces, WellFormed p.token
  apart : pieces.IsChain Piece.MayPrecede

variable {text lead : String} {p : Piece} {pieces : List Piece}

theorem laidOut_nil_iff : LaidOut text lead [] ↔ text = lead ∧ Blank lead := by
  constructor
  · intro h
    exact ⟨h.text_eq.trans String.append_empty, h.blank_lead⟩
  · rintro ⟨rfl, hlead⟩
    exact ⟨String.append_empty.symm, hlead, by simp, by simp, .nil⟩

/-- A text begins at a boundary if it begins with blanks or with a parenthesis. -/
theorem LaidOut.boundary_iff (h : LaidOut text lead pieces) :
    Boundary text.toList ↔ (lead = "" → ∀ p ∈ pieces.head?, p.token ∈ [lparen, rparen]) := by
  rw [h.text_eq, String.toList_append, boundary_blank_append_iff h.blank_lead]
  cases pieces with
  | nil => exact iff_of_true (fun _ => boundary_nil) (by intro _ p hp; cases hp)
  | cons p pieces =>
      have hp : WellFormed p.token := h.wellFormed p List.mem_cons_self
      rw [List.map_cons, String.join_cons, Piece.written, String.append_assoc,
        String.toList_append, boundary_token_append_iff hp]
      simp

/-- **A layout is a token in front of a layout** that it does not run into. -/
theorem laidOut_cons_iff : LaidOut text lead (p :: pieces) ↔
    ∃ tail, text = lead ++ (p.token.text ++ tail) ∧ Blank lead ∧ WellFormed p.token ∧
      LaidOut tail p.gap pieces ∧ (p.token.kind = .symbol → Boundary tail.toList) := by
  constructor
  · intro h
    obtain ⟨hfirst, hrest⟩ := List.isChain_cons.mp h.apart
    have htail : LaidOut (p.gap ++ String.join (pieces.map Piece.written)) p.gap pieces :=
      ⟨rfl, h.blank_gap p List.mem_cons_self,
        fun q hq => h.blank_gap q (List.mem_cons_of_mem p hq),
        fun q hq => h.wellFormed q (List.mem_cons_of_mem p hq), hrest⟩
    refine ⟨_, ?_, h.blank_lead, h.wellFormed p List.mem_cons_self, htail, ?_⟩
    · rw [h.text_eq, List.map_cons, String.join_cons, Piece.written, String.append_assoc]
    · intro hkind
      exact htail.boundary_iff.mpr fun hgap next hnext => hfirst next hnext hkind hgap
  · rintro ⟨tail, rfl, hlead, hp, htail, hboundary⟩
    refine ⟨?_, hlead, ?_, ?_, ?_⟩
    · rw [htail.text_eq, List.map_cons, String.join_cons, Piece.written, String.append_assoc]
    · exact List.forall_mem_cons.mpr ⟨htail.blank_lead, htail.blank_gap⟩
    · exact List.forall_mem_cons.mpr ⟨hp, htail.wellFormed⟩
    · refine List.isChain_cons.mpr ⟨?_, htail.apart⟩
      intro next hnext hkind hgap
      exact htail.boundary_iff.mp (hboundary hkind) hgap next hnext

/-! ## The tokens of a layout -/

theorem split_of_blank (h : Blank text) : split text.toList = [] := by
  have hsplit := split_blank_append h []
  rwa [List.append_nil, split_nil] at hsplit

/-- **The tokens of a layout are split off**, one after the other. -/
theorem LaidOut.split_eq (h : LaidOut text lead pieces) :
    split text.toList = pieces.map Piece.token := by
  induction pieces generalizing text lead with
  | nil =>
      obtain ⟨rfl, hblank⟩ := laidOut_nil_iff.mp h
      exact split_of_blank hblank
  | cons p pieces ih =>
      obtain ⟨tail, rfl, hlead, hp, htail, hboundary⟩ := laidOut_cons_iff.mp h
      rw [String.toList_append, split_blank_append hlead, String.toList_append,
        (split_token_append_iff hp _).mpr hboundary, ih htail, List.map_cons]

/-- A token that does not run into the rest of a text stands in front of its layout. -/
theorem exists_laidOut_token {t : Token} {rest : List Char} (ht : WellFormed t)
    (hboundary : t.kind = .symbol → Boundary rest)
    (h : ∃ lead pieces, LaidOut (String.ofList rest) lead pieces) :
    ∃ lead pieces, LaidOut (String.ofList (t.text.toList ++ rest)) lead pieces := by
  obtain ⟨lead, pieces, h⟩ := h
  refine ⟨"", ⟨t, lead⟩ :: pieces, laidOut_cons_iff.mpr ⟨String.ofList rest, ?_, ?_, ht, h, ?_⟩⟩
  · rw [String.empty_append, String.ofList_append, String.ofList_toList]
  · intro c hc
    cases hc
  · rwa [String.toList_ofList]

/-- **Every text has a layout.** By induction along the splitter: a blank joins those in front of the
    rest, and a token becomes the first piece, with the blanks in front of the rest behind it. -/
theorem exists_laidOut (cs : List Char) : ∃ lead pieces, LaidOut (String.ofList cs) lead pieces := by
  fun_induction split cs with
  | case1 => exact ⟨"", [], laidOut_nil_iff.mpr ⟨rfl, by intro c hc; cases hc⟩⟩
  | case2 c cs hblank ih =>
      obtain ⟨lead, pieces, h⟩ := ih
      refine ⟨String.ofList [c] ++ lead, pieces, ?_, ?_, h.blank_gap, h.wellFormed, h.apart⟩
      · rw [String.append_assoc, ← h.text_eq, ← String.ofList_append, List.singleton_append]
      · intro x hx
        rw [String.toList_append, String.toList_ofList, List.singleton_append] at hx
        rcases List.mem_cons.mp hx with rfl | hx
        · exact isBlank_iff.mp hblank
        · exact h.blank_lead x hx
  | case3 c cs hblank hopen ih =>
      obtain rfl : c = '(' := by simpa using hopen
      exact exists_laidOut_token (t := lparen) (.inl (by simp)) (by intro hkind; cases hkind) ih
  | case4 c cs hblank hopen hclose ih =>
      obtain rfl : c = ')' := by simpa using hclose
      exact exists_laidOut_token (t := rparen) (.inl (by simp)) (by intro hkind; cases hkind) ih
  | case5 c cs hblank hopen hclose hdot ih =>
      obtain rfl : c = '.' := by simpa using hdot
      exact exists_laidOut_token (t := dot) (.inl (by simp)) (by intro hkind; cases hkind) ih
  | case6 c cs hblank hopen hclose hdot ih =>
      have hc : isSymbolChar c = true := by simp_all [isSymbolChar]
      have hsymbol : WellFormed (symbol (c :: cs.takeWhile isSymbolChar)) :=
        .inr ⟨rfl, readable_run hc (by simpa using hdot)⟩
      have hlaid := exists_laidOut_token hsymbol (fun _ => boundary_dropWhile cs) ih
      rwa [symbol, String.toList_ofList, List.cons_append, List.takeWhile_append_dropWhile] at hlaid

/-- Without its blanks, a text is the texts of its tokens. -/
theorem LaidOut.filter_eq (h : LaidOut text lead pieces) :
    text.toList.filter (· ∉ blanks) = pieces.flatMap fun p => p.token.text.toList := by
  induction pieces generalizing text lead with
  | nil =>
      obtain ⟨rfl, hblank⟩ := laidOut_nil_iff.mp h
      exact List.filter_eq_nil_iff.mpr fun c hc => by simpa using hblank c hc
  | cons p pieces ih =>
      obtain ⟨tail, rfl, hlead, hp, htail, _⟩ := laidOut_cons_iff.mp h
      have hnone : lead.toList.filter (· ∉ blanks) = [] :=
        List.filter_eq_nil_iff.mpr fun c hc => by simpa using hlead c hc
      have hall : p.token.text.toList.filter (· ∉ blanks) = p.token.text.toList :=
        List.filter_eq_self.mpr fun c hc => decide_eq_true (hp.not_blank c hc)
      rw [String.toList_append, String.toList_append, List.filter_append, List.filter_append, hnone,
        hall, ih htail, List.nil_append, List.flatMap_cons]

/-- The tokens are those of a layout of the text. -/
def Tokenises (text : String) (tokens : List Token) : Prop :=
  ∃ lead pieces, LaidOut text lead pieces ∧ pieces.map Piece.token = tokens

/-- **Splitting finds the only tokens that a text can be laid out with**, and together they are the
    text without its blanks. -/
theorem lex_is_only_tokenisation (text : String) :
    (∀ tokens, Tokenises text tokens ↔ tokens = lex text) ∧
      String.join ((lex text).map Token.text) = String.ofList (text.toList.filter (· ∉ blanks)) := by
  obtain ⟨lead, pieces, hlaid⟩ := exists_laidOut text.toList
  rw [String.ofList_toList] at hlaid
  have htokens : pieces.map Piece.token = lex text := by rw [lex_eq_split, hlaid.split_eq]
  refine ⟨fun tokens => ⟨?_, ?_⟩, ?_⟩
  · rintro ⟨lead', pieces', hlaid', rfl⟩
    rw [lex_eq_split, hlaid'.split_eq]
  · rintro rfl
    exact ⟨lead, pieces, hlaid, htokens⟩
  · rw [← String.toList_inj, String.toList_ofList, hlaid.filter_eq, ← htokens, String.toList_join,
      List.map_map, List.flatMap_map]
    rfl

example : lex "..a.b(\t)" = [dot, dot, symbol ['a', '.', 'b'], lparen, rparen] := by
  decide +kernel

end Token
end PairLisp
