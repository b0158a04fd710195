import PairLisp.Proofs.Layout
import PairLisp.Proofs.Readings

/-!
# Where a text may be cut

A text is split by itself: a symbol does not go on from one text into the next. So it matters where
a text is cut into chunks. This file shows that a cut loses nothing exactly if it does not go through
a symbol, where a dot that stands alone is no symbol and a dot inside a symbol is part of it. The
route:

* a layout is followed along its pieces: all but the last one are split off whatever comes behind the
  text, and the last one is split off if it does not run on (`LaidOut.split_append_iff`);
* line ends are blanks, and what stands between two blanks is split by itself. So neither reading
  line by line (`toList_ofText`) nor a change of line ends (`split_unifyNewlines`) makes a difference.
-/

namespace PairLisp
namespace Token

/-! ## Cuts -/

/-- A text ends in a symbol: it is its last token, with no blank behind it. -/
def EndsInSymbol (text : String) : Prop :=
  ∃ lead pieces p, LaidOut text lead pieces ∧ pieces.getLast? = some p ∧
    p.token.kind = .symbol ∧ p.gap = ""

/-- A text begins with a character that can stand inside a symbol. -/
def BeginsInside (text : String) : Prop :=
  ∃ c, text.toList.head? = some c ∧ c ∉ blanks ++ delimiters

theorem not_beginsInside_iff {text : String} : ¬ BeginsInside text ↔ Boundary text.toList := by
  constructor
  · intro h c hc
    refine Bool.eq_false_iff.mpr fun hsymbol => h ⟨c, hc, isSymbolChar_iff.mp hsymbol⟩
  · rintro h ⟨c, hc, hinside⟩
    have hsymbol : isSymbolChar c = true := isSymbolChar_iff.mpr hinside
    rw [h c hc] at hsymbol
    cases hsymbol

theorem Boundary.append {cs : List Char} (h : Boundary cs) (hne : cs ≠ []) (rest : List Char) :
    Boundary (cs ++ rest) := by
  obtain ⟨c, cs, rfl⟩ := List.exists_cons_of_ne_nil hne
  exact boundary_cons (h c rfl) (cs ++ rest)

/-- **What follows a text is split by itself** exactly if it does not go on with a symbol at the end
    of the text. By induction on the pieces: a piece before the last one ends at a boundary within the
    text. -/
theorem LaidOut.split_append_iff {text lead : String} {pieces : List Piece}
    (h : LaidOut text lead pieces) (rest : List Char) :
    split (text.toList ++ rest) = split text.toList ++ split rest ↔
      ∀ p, pieces.getLast? = some p → p.token.kind = .symbol → p.gap = "" → Boundary rest := by
  induction pieces generalizing text lead with
  | nil =>
      obtain ⟨rfl, hblank⟩ := laidOut_nil_iff.mp h
      rw [split_blank_append hblank, split_of_blank hblank]
      exact iff_of_true rfl (by intro p hp; cases hp)
  | cons p pieces ih =>
      obtain ⟨tail, rfl, hlead, hp, htail, hboundary⟩ := laidOut_cons_iff.mp h
      rw [String.toList_append, String.toList_append, List.append_assoc, List.append_assoc,
        split_blank_append hlead, split_blank_append hlead,
        (split_token_append_iff hp tail.toList).mpr hboundary, List.cons_append]
      cases pieces with
      | nil =>
          obtain ⟨rfl, hgap⟩ := laidOut_nil_iff.mp htail
          rw [split_of_blank hgap, List.nil_append, ← split_blank_append hgap rest,
            split_token_append_iff hp, boundary_blank_append_iff hgap]
          simp
      | cons next pieces =>
          have hne : tail.toList ≠ [] := by
            intro hempty
            have hsplit := htail.split_eq
            rw [hempty, split_nil] at hsplit
            cases hsplit
          have hfirst := (split_token_append_iff hp (tail.toList ++ rest)).mpr
            fun hkind => (hboundary hkind).append hne rest
          rw [hfirst, List.cons_inj_right, ih htail, List.getLast?_cons_cons]

/-! ## Line ends -/

/-- **Line ends can be changed**, also behind other characters. By induction along the change: a line
    end cuts the text on either side, and any other character joins those in front of it. -/
theorem split_unifyNewlines (before cs : List Char) :
    split (before ++ Source.unifyNewlines cs) = split (before ++ cs) := by
  have hreturn : isBlank '\r' = true := by decide
  have hfeed : isBlank '\n' = true := by decide
  fun_induction Source.unifyNewlines cs generalizing before with
  | case1 => rfl
  | case2 cs ih =>
      have hrest : split (Source.unifyNewlines cs) = split cs := ih []
      rw [split_append_blank hfeed, split_append_blank hreturn, split_blank hfeed, hrest]
  | case3 cs _ ih =>
      have hrest : split (Source.unifyNewlines cs) = split cs := ih []
      rw [split_append_blank hfeed, split_append_blank hreturn, hrest]
  | case4 c cs _ _ ih =>
      have hjoined := ih (before ++ [c])
      rwa [List.append_assoc, List.append_assoc, List.singleton_append,
        List.singleton_append] at hjoined

end Token

open Token

/-- **A file has the tokens of its text**, whatever its line ends are. -/
theorem toList_ofFile (text : String) :
    (TokenStream.ofSource (.ofFile text)).toList = lex text := by
  rw [Source.ofFile, toList_ofText, lex_eq_split, lex_eq_split, String.toList_ofList]
  exact split_unifyNewlines [] text.toList

/-- **A text may be cut wherever the cut does not go through a symbol, and nowhere else.** So a text
    has the same tokens as one chunk, line by line, and as a file with any line ends. -/
theorem lex_append_iff_not_inside_symbol (first second : String) :
    (lex (first ++ second) = lex first ++ lex second ↔
        ¬ (EndsInSymbol first ∧ BeginsInside second)) ∧
      ∀ text, (TokenStream.ofSource (.ofString text)).toList = lex text ∧
        (TokenStream.ofSource (.ofText text)).toList = lex text ∧
        (TokenStream.ofSource (.ofFile text)).toList = lex text := by
  refine ⟨?_, fun text => ⟨toList_ofString text, toList_ofText text, toList_ofFile text⟩⟩
  rw [lex_eq_split, lex_eq_split, lex_eq_split, String.toList_append, not_and,
    not_beginsInside_iff]
  constructor
  · rintro hsplit ⟨lead, pieces, p, hlaid, hlast, hkind, hgap⟩
    exact (hlaid.split_append_iff _).mp hsplit p hlast hkind hgap
  · intro hcut
    obtain ⟨lead, pieces, hlaid⟩ := exists_laidOut first.toList
    rw [String.ofList_toList] at hlaid
    refine (hlaid.split_append_iff _).mpr fun p hlast hkind hgap => ?_
    exact hcut ⟨lead, pieces, p, hlaid, hlast, hkind, hgap⟩

end PairLisp
