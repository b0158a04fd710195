import PairLisp.Expr.Printer
import PairLisp.Proofs.Parts

/-!
# List notation by recursion

The writer of list notation keeps its work on a stack of pieces. At a pair it goes along the whole
list, and puts the pieces of it back in the reverse order. `listed` and `listedRest` give the same text
by recursion: an expression that stands for itself, and what follows the items of a list already begun.
The route:

* by induction on the list, what is put back for its rest are the pieces of the rest in their order
  (`pushList_pair`), and their texts are the text of the rest (`join_restPieces`);
* so the writer puts the texts of all pending pieces behind what it has written (`writeListed_eq`). It
  fails exactly if some list ends in the blank, which has no token (`listing_eq`).

List notation does not show how the end of a proper list is spelled. `canon` spells every such end
`NIL`; it changes nothing that can be seen in list notation (`listing_canon`), and nothing at all
if all ends are spelled so already (`canon_eq_self_iff`).
-/

namespace PairLisp.Expr

mutual

/-- An expression in list notation. -/
def listed : Expr → String
  | .atom token => token
  | .pair first rest => "(" ++ first.listed ++ rest.listedRest
  | .blank => ""

/-- What follows the items of a list in list notation, up to its closing parenthesis. -/
def listedRest : Expr → String
  | .atom token => if Symbol.isNil token then ")" else " . " ++ token ++ ")"
  | .pair first rest => " " ++ first.listed ++ rest.listedRest
  | .blank => ")"

end

/-- Whether an expression is the blank. -/
def isBlank : Expr → Bool
  | .blank => true
  | .atom _ | .pair _ _ => false

/-- Whether no list in an expression ends in the blank. -/
def listable : Expr → Bool
  | .atom _ | .blank => true
  | .pair first rest => first.listable && (!rest.isBlank && rest.listable)

/-- Without blanks there is none at the end of a list. -/
theorem ComposedOf.listable {atoms : String → Prop} {blanks : Prop} {e : Expr}
    (h : e.ComposedOf atoms blanks) (hblanks : ¬ blanks) : e.listable = true := by
  induction e with
  | atom token => rfl
  | pair first rest ihfirst ihrest =>
      have hrest : rest.isBlank = false := by
        cases rest with
        | blank => exact absurd h.2 hblanks
        | atom _ | pair _ _ => rfl
      simp [Expr.listable, ihfirst h.1, ihrest h.2, hrest]
  | blank => exact absurd h hblanks

/-! ## What is put back -/

/-- Whether a list ends in the blank. -/
def endsInBlank : Expr → Bool
  | .pair _ rest => rest.endsInBlank
  | .atom _ => false
  | .blank => true

/-- The pieces of what follows the items of a list. -/
def restPieces : Expr → List Piece
  | .pair first rest => .text " " :: .whole first :: rest.restPieces
  | .atom token =>
    if Symbol.isNil token then [.text ")"] else [.text " . ", .text token, .text ")"]
  | .blank => []

/-- Pushing the items and the end of a list puts its pieces in front, if the list does not end in a
    blank. -/
theorem pushEnd_spine (e : Expr) (todo : List Piece) :
    (pushEnd (spine [] e).2 todo).map (pushItems (spine [] e).1) =
      if e.endsInBlank then .error .noToken else .ok (e.restPieces ++ todo) := by
  induction e with
  | atom token =>
      by_cases hnil : Symbol.isNil token = true <;>
        simp [spine, pushEnd, pushItems, isNull, Expr.token, endsInBlank, restPieces, hnil, Except.map]
  | blank => rfl
  | pair first rest _ ih =>
      -- one item more puts one item more in front of what the others have put there
      have hfirst : (pushEnd (spine [] rest).2 todo).map (pushItems (first :: (spine [] rest).1)) =
          ((pushEnd (spine [] rest).2 todo).map (pushItems (spine [] rest).1)).map
            fun pieces => .text " " :: .whole first :: pieces := by
        cases pushEnd (spine [] rest).2 todo with
        | error cause => rfl
        | ok ended => exact congrArg Except.ok (pushItems_cons first _ ended)
      rw [spine_pair, hfirst, ih, endsInBlank, restPieces]
      cases rest.endsInBlank <;> rfl

/-- **A list is put back as its first item and the pieces of what follows it**, in their order. -/
theorem pushList_pair (first rest : Expr) (todo : List Piece) :
    pushList (.pair first rest) todo =
      if rest.endsInBlank then .error .noToken
      else .ok (.whole first :: (rest.restPieces ++ todo)) := by
  have hput : pushList (.pair first rest) todo =
      ((pushEnd (spine [] rest).2 todo).map (pushItems (spine [] rest).1)).map
        fun pieces => .whole first :: pieces := by
    rw [pushList, spine_pair]
    cases hend : pushEnd (spine [] rest).2 todo <;> simp [hend, Except.map]
  rw [hput, pushEnd_spine]
  cases rest.endsInBlank <;> rfl

/-! ## The writer -/

/-- The text that a pending piece stands for. -/
def Piece.listed : Piece → String
  | .whole e => e.listed
  | .text s => s

/-- Whether a pending piece can be written. -/
def Piece.listable : Piece → Bool
  | .whole e => e.listable
  | .text _ => true

/-- The pieces of the rest of a list have the text of the rest. -/
theorem join_restPieces {e : Expr} (h : e.endsInBlank = false) :
    String.join (e.restPieces.map Piece.listed) = e.listedRest := by
  induction e with
  | atom token =>
      by_cases hnil : Symbol.isNil token = true <;>
        simp [restPieces, listedRest, Piece.listed, hnil, String.append_assoc]
  | blank => cases h
  | pair first rest _ ih => simp [restPieces, listedRest, Piece.listed, ih h, String.append_assoc]

/-- The rest of a list can be written exactly if its pieces can and it does not end in the blank. -/
theorem listable_rest (e : Expr) :
    (!e.isBlank && e.listable) = (!e.endsInBlank && e.restPieces.all Piece.listable) := by
  induction e with
  | atom token =>
      by_cases hnil : Symbol.isNil token = true <;>
        simp [isBlank, listable, endsInBlank, restPieces, Piece.listable, hnil]
  | blank => rfl
  | pair first rest _ ih =>
      have hpieces : (Piece.text " " :: .whole first :: rest.restPieces).all Piece.listable =
          (first.listable && rest.restPieces.all Piece.listable) := rfl
      rw [listable, ih, endsInBlank, restPieces, hpieces]
      cases first.listable <;> cases rest.endsInBlank <;> rfl

/-- **The writer puts the texts of the pending pieces behind what it has written**, or fails if one of
    them cannot be written. -/
theorem writeListed_eq (todo : List Piece) (out : String) :
    writeListed todo out =
      if todo.all Piece.listable then .ok (out ++ String.join (todo.map Piece.listed))
      else .error .noToken := by
  fun_induction writeListed todo out with
  | case1 out => simp
  | case2 s todo out ih => simp [ih, Piece.listable, Piece.listed, String.append_assoc]
  | case3 token todo out ih =>
      simp [ih, Piece.listable, Piece.listed, listable, listed, String.append_assoc]
  | case4 todo out ih => simp [ih, Piece.listable, Piece.listed, listable, listed]
  | case5 first rest todo out after hafter ih =>
      rw [pushList_pair] at hafter
      have hrest := listable_rest rest
      cases hblank : rest.endsInBlank with
      | true => simp [hblank] at hafter
      | false =>
          simp only [hblank, Bool.false_eq_true, if_false, Except.ok.injEq] at hafter
          rw [hblank, Bool.not_false, Bool.true_and] at hrest
          rw [ih, ← hafter, List.all_cons, List.all_append, ← hrest]
          simp [Piece.listable, Piece.listed, listable, listed, join_restPieces hblank,
            String.append_assoc, Bool.and_assoc]
  | case6 first rest todo out cause hcause =>
      rw [pushList_pair] at hcause
      have hrest := listable_rest rest
      cases hblank : rest.endsInBlank with
      | true =>
          simp only [hblank, if_true, Except.error.injEq] at hcause
          rw [hblank, Bool.not_true, Bool.false_and] at hrest
          simp [Piece.listable, listable, hrest, ← hcause]
      | false => simp [hblank] at hcause

/-- **List notation by recursion.** Only a list that ends in the blank cannot be written. -/
theorem listing_eq (e : Expr) :
    e.listing = if e.listable then .ok e.listed else .error .noToken := by
  rw [listing, writeListed_eq]
  simp [Piece.listable, Piece.listed]

/-- What can be written as a list has the text of the recursion. -/
theorem listText_eq_listed {e : Expr} (h : e.listable = true) : e.listText = e.listed := by
  rw [listText, listing_eq, if_pos h]
  rfl

/-- What can be written as a list is written as its text. -/
theorem listing_eq_ok {e : Expr} (h : e.listable = true) : e.listing = .ok e.listText := by
  rw [listing_eq, if_pos h, listText_eq_listed h]

/-- Whether an expression can be written in a notation. -/
def writable : Style → Expr → Bool
  | .dotted, _ => true
  | .listed, e => e.listable

/-- **Writing an expression gives its text**, or fails because a list in it ends in the blank. -/
theorem writing_eq (style : Style) (e : Expr) :
    writing style e = if writable style e then .ok (write style e) else .error .noToken := by
  cases style with
  | dotted => rfl
  | listed =>
      rw [writing, writable, write]
      cases h : e.listable with
      | true => exact listing_eq_ok h
      | false =>
          rw [listing_eq, h]
          rfl

/-- An expression has a text in a notation. -/
def HasText (style : Style) (e : Expr) : Prop :=
  ∃ text, writing style e = .ok text

/-- An expression has a text in a notation just if it can be written in it. -/
theorem hasText_iff {style : Style} {e : Expr} : e.HasText style ↔ writable style e = true := by
  rw [HasText, writing_eq]
  cases writable style e <;> simp

/-- Without blanks an expression can be written in every notation. -/
theorem ComposedOf.writable {atoms : String → Prop} {blanks : Prop} {e : Expr}
    (h : e.ComposedOf atoms blanks) (hblanks : ¬ blanks) (style : Style) :
    Expr.writable style e = true := by
  cases style with
  | dotted => rfl
  | listed => exact h.listable hblanks

/-! ## Ends of lists -/

/-- An expression at the end of a list, with `NIL` for an atom that spells it in another case. -/
def plainEnd : Expr → Expr
  | .atom token => if Symbol.isNil token then nil else .atom token
  | .pair first rest => .pair first rest
  | .blank => .blank

/-- Spells every null atom that is the rest of a pair `NIL`, and keeps all other atoms verbatim. -/
def canon : Expr → Expr
  | .atom token => .atom token
  | .pair first rest => .pair first.canon rest.canon.plainEnd
  | .blank => .blank

/-- The token of an atom. -/
def token? : Expr → Option String
  | .atom token => some token
  | .pair _ _ => none
  | .blank => none

/-- The tokens of the atoms that are the rest of a pair. -/
def restAtoms : Expr → List String
  | .atom _ => []
  | .pair first rest => first.restAtoms ++ (rest.token?.toList ++ rest.restAtoms)
  | .blank => []

theorem isNil_nil : Symbol.isNil "NIL" = true := by
  decide +kernel

/-- The ends of lists cannot be told apart in list notation. -/
theorem listed_canon (e : Expr) :
    e.canon.listed = e.listed ∧ e.canon.plainEnd.listedRest = e.listedRest := by
  induction e with
  | atom token =>
      refine ⟨rfl, ?_⟩
      by_cases hnil : Symbol.isNil token = true
      · simp [canon, plainEnd, listedRest, hnil, nil, isNil_nil]
      · simp [canon, plainEnd, listedRest, hnil]
  | pair first rest ihfirst ihrest =>
      obtain ⟨hfirst, _⟩ := ihfirst
      obtain ⟨_, hrest⟩ := ihrest
      constructor
      · rw [canon, listed, listed, hfirst, hrest]
      · rw [canon, plainEnd, listedRest, listedRest, hfirst, hrest]
  | blank => exact ⟨rfl, rfl⟩

theorem isBlank_plainEnd (e : Expr) : e.plainEnd.isBlank = e.isBlank := by
  cases e with
  | atom token => by_cases hnil : Symbol.isNil token = true <;> simp [plainEnd, hnil, nil, isBlank]
  | pair _ _ | blank => rfl

theorem listable_plainEnd (e : Expr) : e.plainEnd.listable = e.listable := by
  cases e with
  | atom token => by_cases hnil : Symbol.isNil token = true <;> simp [plainEnd, hnil, nil, listable]
  | pair _ _ | blank => rfl

/-- Spelling null ends `NIL` does not change whether an expression can be written. -/
theorem listable_canon (e : Expr) : e.canon.listable = e.listable := by
  induction e with
  | atom token => rfl
  | pair first rest ihfirst ihrest =>
      have hblank : rest.canon.isBlank = rest.isBlank := by cases rest <;> rfl
      rw [canon, listable, listable, ihfirst, isBlank_plainEnd, listable_plainEnd, ihrest, hblank]
  | blank => rfl

/-- **The ends of lists cannot be told apart by what is written.** -/
theorem listing_canon (e : Expr) : e.canon.listing = e.listing := by
  rw [listing_eq, listing_eq, listable_canon, (listed_canon e).1]

/-- Spelling null ends `NIL` does not change the text of an expression. -/
theorem listText_canon (e : Expr) : e.canon.listText = e.listText := by
  rw [listText, listText, listing_canon]

/-- The end of a list is kept exactly if it is kept as an expression and is not null in another
    spelling. -/
theorem plainEnd_canon_eq_iff (e : Expr) :
    e.canon.plainEnd = e ↔
      e.canon = e ∧ ∀ token ∈ e.token?.toList, Symbol.isNil token = true → token = "NIL" := by
  cases e with
  | atom token =>
      by_cases hnil : Symbol.isNil token = true
      · have hend : (atom token).canon.plainEnd = nil := by simp [canon, plainEnd, hnil]
        rw [hend, nil, atom.injEq, eq_comm]
        simp [canon, token?, hnil]
      · simp [canon, plainEnd, token?, hnil]
  | pair first rest => simp [canon, plainEnd, token?]
  | blank => simp [canon, plainEnd, token?]

/-- **An expression is canonical exactly if every null atom that is the rest of a pair is spelled
    `NIL`.** -/
theorem canon_eq_self_iff (e : Expr) :
    e.canon = e ↔ ∀ token ∈ e.restAtoms, Symbol.isNil token = true → token = "NIL" := by
  induction e with
  | atom token => simp [canon, restAtoms]
  | pair first rest ihfirst ihrest =>
      rw [canon, pair.injEq, ihfirst, plainEnd_canon_eq_iff, ihrest, restAtoms]
      simp only [List.forall_mem_append]
      rw [and_comm (a := ∀ token ∈ rest.restAtoms, _)]
  | blank => simp [canon, restAtoms]

end PairLisp.Expr
