import PairLisp.Expr.Basic
import PairLisp.Text.Quoted

/-!
# Writing expressions

Two ways of writing an expression. Dot notation writes every pair as `(first . rest)`. List
notation writes the items of a list one after the other and a dot only before a final atom that
is not null. The blank is written as no text at all, but in list notation it cannot end a list: only
an atom can.

Both writers keep the work still to be done on a stack of pending pieces, so that an expression
nested to any depth can be written.
-/

namespace PairLisp.Expr

/-- Work left for a writer: an expression to write, or text that is ready. -/
inductive Piece where
  | whole (e : Expr)
  | text (s : String)

/-- A bound on the number of steps that a piece takes. -/
def Piece.weight : Piece → Nat
  | .whole e => 4 * e.size
  | .text _ => 1

/-- A bound on the number of steps that the pending pieces take. -/
def weight (todo : List Piece) : Nat :=
  todo.foldr (fun piece total => piece.weight + total) 0

/-! ## Dot notation -/

/-- Writes the pending pieces, first one first, behind `out`. -/
def writeDotted : List Piece → String → String
  | [], out => out
  | .text s :: todo, out => writeDotted todo (out ++ s)
  | .whole (.atom token) :: todo, out => writeDotted todo (out ++ token)
  | .whole .blank :: todo, out => writeDotted todo out
  | .whole (.pair first rest) :: todo, out =>
    writeDotted (.whole first :: .text " . " :: .whole rest :: .text ")" :: todo) (out ++ "(")
termination_by todo => weight todo
decreasing_by
  all_goals
    simp only [weight, List.foldr_cons, Piece.weight, size]
    omega

/-- An expression in dot notation. -/
def dotText (e : Expr) : String :=
  writeDotted [.whole e] ""

/-- How the blank is shown where it has to be seen. -/
def blankText : String := "None"

/-- An expression in dot notation, with a word in place of the blank. -/
def shown : Expr → String
  | .blank => blankText
  | e => e.dotText

/-! ## List notation -/

/-- The items along a list, behind those `seen` before, which are kept latest first, and what the
    list ends in. -/
def spine (seen : List Expr) : Expr → List Expr × Expr
  | .pair first rest => spine (first :: seen) rest
  | .atom token => (seen.reverse, .atom token)
  | .blank => (seen.reverse, .blank)

/-- Puts the end of a list in front of what is pending: the closing parenthesis, and before it a dot
    and a token if the list does not end in a null atom. -/
def pushEnd (tail : Expr) (todo : List Piece) : Except Misuse (List Piece) :=
  if tail.isNull then .ok (.text ")" :: todo)
  else match tail.token with
    | .ok token => .ok (.text " . " :: .text token :: .text ")" :: todo)
    | .error cause => .error cause

/-- Puts items in front of what is pending, the last one first and each behind a blank. -/
def pushItems (items : List Expr) (todo : List Piece) : List Piece :=
  items.reverse.foldl (fun todo item => .text " " :: .whole item :: todo) todo

/-- Puts a list in front of what is pending, its opening parenthesis apart. -/
def pushList (e : Expr) (todo : List Piece) : Except Misuse (List Piece) :=
  let (items, tail) := spine [] e
  match pushEnd tail todo, Take.item items 0 with
  | .ok todo, .ok first => .ok (.whole first :: pushItems (items.drop 1) todo)
  | .error cause, _ => .error cause
  | .ok _, .error cause => .error cause

/-- The items seen before come first. -/
theorem spine_eq (seen : List Expr) (e : Expr) :
    spine seen e = (seen.reverse ++ (spine [] e).1, (spine [] e).2) := by
  induction e generalizing seen with
  | atom token => simp [spine]
  | blank => simp [spine]
  | pair first rest _ ih =>
    rw [spine, spine, ih (first :: seen), ih [first]]
    simp

/-- A pair adds its first part to the items along its rest. -/
theorem spine_pair (first rest : Expr) :
    spine [] (.pair first rest) = (first :: (spine [] rest).1, (spine [] rest).2) := by
  rw [spine, spine_eq]
  rfl

/-- The first item comes in front of all others. -/
theorem pushItems_cons (item : Expr) (items : List Expr) (todo : List Piece) :
    pushItems (item :: items) todo = .text " " :: .whole item :: pushItems items todo := by
  rw [pushItems, List.reverse_cons, List.foldl_append]
  rfl

/-- The end of a list has at most three pieces. -/
theorem weight_pushEnd {tail : Expr} {todo after : List Piece} (h : pushEnd tail todo = .ok after) :
    weight after ≤ weight todo + 3 := by
  unfold pushEnd at h
  split at h
  · cases h
    simp [weight, Piece.weight]
    omega
  · split at h
    · cases h
      simp [weight, Piece.weight]
      omega
    · cases h

/-- The items along a list have room for the blanks between them, and for three pieces more each. -/
theorem weight_spine (e : Expr) (todo : List Piece) :
    weight (pushItems (spine [] e).1 todo) + 3 * (spine [] e).1.length ≤
      4 * e.size + weight todo := by
  induction e with
  | atom token => exact Nat.le_add_left _ _
  | blank => exact Nat.le_add_left _ _
  | pair first rest _ ih =>
    rw [spine_pair, pushItems_cons, List.length_cons]
    simp only [weight, List.foldr_cons, Piece.weight, size] at ih ⊢
    omega

/-- **A list takes fewer steps in pieces than as a whole.** -/
theorem weight_pushList {e : Expr} {todo after : List Piece} (h : pushList e todo = .ok after) :
    weight after < weight (.whole e :: todo) := by
  rw [pushList] at h
  cases hend : pushEnd (spine [] e).2 todo with
  | error cause => simp [hend] at h
  | ok ended =>
    have hle := weight_pushEnd hend
    have hitems := weight_spine e ended
    cases hspine : (spine [] e).1 with
    | nil => simp [hend, hspine, Take.item] at h
    | cons first items =>
      simp only [hend, hspine, Take.item_zero, Except.ok.injEq, List.drop_one, List.tail_cons] at h
      subst h
      rw [hspine, pushItems_cons, List.length_cons] at hitems
      simp only [weight, List.foldr_cons, Piece.weight] at hitems hle ⊢
      omega

/-- Writes the pending pieces, first one first, behind `out`. -/
def writeListed : List Piece → String → Except Misuse String
  | [], out => .ok out
  | .text s :: todo, out => writeListed todo (out ++ s)
  | .whole (.atom token) :: todo, out => writeListed todo (out ++ token)
  | .whole .blank :: todo, out => writeListed todo out
  | .whole (.pair first rest) :: todo, out =>
    match _ : pushList (.pair first rest) todo with
    | .ok todo => writeListed todo (out ++ "(")
    | .error cause => .error cause
termination_by todo => weight todo
decreasing_by
  iterate 3
    simp only [weight, List.foldr_cons, Piece.weight, size]
    omega
  exact weight_pushList (by assumption)

/-- An expression in list notation, if it can be written so. -/
def listing (e : Expr) : Except Misuse String :=
  writeListed [.whole e] ""

/-- An expression in list notation. What cannot be written so has no text. -/
def listText (e : Expr) : String :=
  e.listing.toOption.getD ""

/-! ## Choosing a notation by name -/

/-- The notations an expression can be written in. -/
inductive Style where
  | dotted
  | listed
deriving DecidableEq

/-- The notations by the names that select them. -/
def Style.table : List (String × Style) :=
  [("dot", .dotted), ("list", .listed)]

/-- The notation that a name selects. -/
def Style.ofName? (name : String) : Option Style :=
  table.lookup name

/-- The names that select a notation, as messages list them. -/
def Style.names : String := "('dot', 'list')"

/-- A name that selects no notation. -/
structure UnknownStyle where
  name : String
deriving DecidableEq

/-- What is said about a name that selects no notation. -/
def UnknownStyle.message (e : UnknownStyle) : String :=
  "Unknown notation " ++ Text.quoted e.name ++ "; expected one of " ++ Style.names

/-- An expression in a given notation. -/
def write : Style → Expr → String
  | .dotted, e => e.dotText
  | .listed, e => e.listText

/-- An expression in a given notation, if it can be written so. -/
def writing : Style → Expr → Except Misuse String
  | .dotted, e => .ok e.dotText
  | .listed, e => e.listing

/-- What writing an expression in the notation that `name` selects comes to. -/
def render (name : String) (e : Expr) : Except UnknownStyle (Except Misuse String) :=
  match Take.entry Style.table name with
  | .ok style => .ok (writing style e)
  | .error .noEntry => .error ⟨name⟩
  | .error cause => .ok (.error cause)

end PairLisp.Expr
