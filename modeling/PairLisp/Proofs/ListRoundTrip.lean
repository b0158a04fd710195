import PairLisp.Proofs.ListNotation
import PairLisp.Proofs.RoundTrip

/-!
# Reading back list notation

List notation comes back up to the spelling of the ends of lists: what is read is `canon` of what
was written.

A list is written along its spine, so both steps of the proof go through an expression that stands
for itself and one that goes on with a list together:

* list notation spells an expression by `listTokens`, and what follows the items of a list by
  `endTokens` (`split_listed_append`);
* in the grammar, `listTokens` derive `canon` of the expression, and `endTokens` close any list
  that is open with `canon` of it as the tail (`derives_listTokens`).
-/

namespace PairLisp

open Token Grammar

namespace Expr

mutual

/-- The tokens of an expression in list notation. -/
def listTokens : Expr → List Token
  | .atom token => [⟨.symbol, token⟩]
  | .pair first rest => .lparen :: (first.listTokens ++ rest.endTokens)
  | .blank => []

/-- The tokens of what follows the items of a list. -/
def endTokens : Expr → List Token
  | .atom token =>
    if Symbol.isNil token then [.rparen] else [.dot, ⟨.symbol, token⟩, .rparen]
  | .pair first rest => first.listTokens ++ rest.endTokens
  | .blank => [.dot, .rparen]

end

/-- What follows the items of a list begins with a blank or a parenthesis. -/
theorem boundary_listedRest (e : Expr) (rest : List Char) :
    Boundary (e.listedRest.toList ++ rest) := by
  have hblank (cs : List Char) : Boundary (' ' :: cs) := boundary_cons (by decide) cs
  cases e with
  | atom token =>
      by_cases hnil : Symbol.isNil token = true
      · simpa [listedRest, hnil] using boundary_cons (by decide) rest
      · simpa [listedRest, hnil] using hblank _
  | pair first second => simpa [listedRest] using hblank _
  | blank => simpa [listedRest] using boundary_cons (by decide) rest

/-- List notation is split into these tokens. An expression has to end at a boundary; what follows
    the items of a list ends with its own parenthesis. -/
theorem split_listed_append {e : Expr} (h : e.Readable) :
    (∀ rest, Boundary rest →
      split (e.listed.toList ++ rest) = e.listTokens ++ split rest) ∧
    ∀ rest, split (e.listedRest.toList ++ rest) = e.endTokens ++ split rest := by
  induction e with
  | atom token =>
      refine ⟨fun rest hrest => split_readable_append h hrest, fun rest => ?_⟩
      by_cases hnil : Symbol.isNil token = true
      · simp [listedRest, endTokens, hnil]
      · have hclose : Boundary (')' :: rest) := boundary_cons (by decide) rest
        have htext : (atom token).listedRest.toList ++ rest =
            ' ' :: '.' :: ' ' :: (token.toList ++ ')' :: rest) := by
          simp [listedRest, hnil]
        rw [htext, split_blank (by decide), split_dot, split_blank (by decide),
          split_readable_append h hclose, split_rparen]
        simp [endTokens, hnil]
  | blank => exact False.elim h
  | pair a b iha ihb =>
      obtain ⟨hitem, _⟩ := iha h.1
      obtain ⟨_, hend⟩ := ihb h.2
      have hspine (rest : List Char) :
          split (a.listed.toList ++ (b.listedRest.toList ++ rest)) =
            a.listTokens ++ (b.endTokens ++ split rest) := by
        rw [hitem _ (boundary_listedRest b rest), hend]
      constructor
      · intro rest _
        have htext : (pair a b).listed.toList ++ rest =
            '(' :: (a.listed.toList ++ (b.listedRest.toList ++ rest)) := by
          simp [listed]
        rw [htext, split_lparen, hspine, listTokens, List.cons_append, List.append_assoc]
      · intro rest
        have htext : (pair a b).listedRest.toList ++ rest =
            ' ' :: (a.listed.toList ++ (b.listedRest.toList ++ rest)) := by
          simp [listedRest]
        rw [htext, split_blank (by decide), hspine, endTokens, List.append_assoc]

/-- The tokens of list notation derive the expression with plain ends, alone and behind the items
    of a list. -/
theorem derives_listTokens {e : Expr} (h : e.Readable) :
    Derives e.listTokens (.expression e.canon) ∧
    ∀ {ts : List Token} {item : Expr} {items : List Expr}, Derives ts (.row (item :: items)) →
      Derives (.lparen :: (ts ++ e.endTokens))
        (.expression (ofList (item :: items) e.canon.plainEnd)) := by
  induction e with
  | atom token =>
      refine ⟨.symbol rfl, fun hrow => ?_⟩
      by_cases hnil : Symbol.isNil token = true
      · simpa [endTokens, canon, plainEnd, hnil] using
          Derives.list (l := .lparen) (r := .rparen) rfl hrow rfl
      · have htail : Derives [⟨.symbol, token⟩] (.expression (atom token)) := .symbol rfl
        simpa [endTokens, canon, plainEnd, hnil] using
          Derives.dotted (l := .lparen) (d := .dot) (r := .rparen) rfl hrow rfl htail rfl
  | blank => exact False.elim h
  | pair a b iha ihb =>
      obtain ⟨hitem, _⟩ := iha h.1
      obtain ⟨_, hend⟩ := ihb h.2
      constructor
      · have hone : Derives a.listTokens (.row [a.canon]) := derives_row_snoc .none hitem
        exact hend hone
      · intro ts item items hrow
        -- the first part is one item more, in front of what the second part closes
        have hmore : Derives (ts ++ a.listTokens) (.row (item :: (items ++ [a.canon]))) :=
          derives_row_snoc hrow hitem
        simpa [endTokens, canon, plainEnd, ofList] using hend hmore

end Expr

/-- Texts in a row are read as what their tokens derive. -/
theorem readAll_spaced {write : Expr → String} (tokens : Expr → List Token) {f : Expr → Expr}
    {lead : String} {items : List (Expr × String)} (hlead : Blank lead) (hgaps : Gaps items)
    (hsplit : ∀ item ∈ items, ∀ rest, Boundary rest →
      split ((write item.1).toList ++ rest) = tokens item.1 ++ split rest)
    (hderives : ∀ item ∈ items, Derives (tokens item.1) (.expression (f item.1))) :
    (TokenStream.ofSource (.ofString (lead ++ spaced write items))).readAll.1 =
      .ok (items.map fun item => f item.1) := by
  have htokens : lex (lead ++ spaced write items) = (items.map Prod.fst).flatMap tokens := by
    rw [lex_eq_split, String.toList_append, split_blank_append hlead, split_spaced hgaps hsplit]
  rw [readAll_eq_ok_iff, toList_ofString, htokens]
  have hrow : Derives ((items.map Prod.fst).flatMap tokens)
      (.row ((items.map Prod.fst).map f)) := by
    refine derives_flatMap_map fun e he => ?_
    obtain ⟨item, hitem, rfl⟩ := List.mem_map.mp he
    exact hderives item hitem
  rwa [List.map_map] at hrow

/-- **List notation can be read back up to the spelling of the ends of lists.** Readable
    expressions in list notation, with blanks around and between them, are read as themselves with
    `NIL` for every null atom that is the rest of a pair. So they come back as they were exactly
    if all these atoms are spelled `NIL`; and list notation shows no difference either way. -/
theorem readAll_listText (lead : String) (items : List (Expr × String)) (hlead : Blank lead)
    (hgaps : Gaps items) (h : ∀ item ∈ items, item.1.Readable) :
    (TokenStream.ofSource (.ofString (lead ++ spaced Expr.listText items))).readAll.1 =
        .ok (items.map fun item => item.1.canon) ∧
      ((TokenStream.ofSource (.ofString (lead ++ spaced Expr.listText items))).readAll.1 =
          .ok (items.map Prod.fst) ↔
        ∀ item ∈ items, ∀ token ∈ item.1.restAtoms,
          Symbol.isNil token = true → token = "NIL") ∧
      ∀ e : Expr, e.canon.listText = e.listText := by
  have hread : (TokenStream.ofSource (.ofString (lead ++ spaced Expr.listText items))).readAll.1 =
      .ok (items.map fun item => item.1.canon) := by
    refine readAll_spaced Expr.listTokens hlead hgaps (fun item hitem rest hrest => ?_)
      fun item hitem => ?_
    · rw [Expr.listText_eq_listed (Expr.ComposedOf.listable (h item hitem) id)]
      exact (Expr.split_listed_append (h item hitem)).1 rest hrest
    · exact (Expr.derives_listTokens (h item hitem)).1
  refine ⟨hread, ?_, Expr.listText_canon⟩
  have hsame : items.map (fun item => item.1.canon) = items.map Prod.fst ↔
      ∀ item ∈ items, item.1.canon = item.1 := List.map_inj_left
  rw [hread, Except.ok.injEq, hsame]
  exact forall₂_congr fun item _ => Expr.canon_eq_self_iff item.1

/-- The null atom in front keeps its spelling and the one at the end does not. -/
theorem readAll_listText_nil_spelled :
    (Blank "" ∧ Gaps [(.pair (.atom "nil") (.pair (.atom "x.y") (.atom "Nil")), "\n"),
        (.pair (.atom "a") (.atom "b"), "")]) ∧
      (TokenStream.ofSource (.ofString ("" ++ spaced Expr.listText
          [(.pair (.atom "nil") (.pair (.atom "x.y") (.atom "Nil")), "\n"),
            (.pair (.atom "a") (.atom "b"), "")]))).readAll.1 =
        .ok [.pair (.atom "nil") (.pair (.atom "x.y") (.atom "NIL")),
          .pair (.atom "a") (.atom "b")] :=
  ⟨⟨by decide +kernel, by decide +kernel⟩,
    (readAll_listText "" _ (by decide +kernel) (by decide +kernel) (by decide +kernel)).1⟩

end PairLisp
