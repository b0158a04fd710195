import PairLisp.Misuse
import PairLisp.Symbol

/-!
# Expressions

Programs and data share one type: an atom holds a token exactly as it was written, and a pair
holds two expressions. A list is a chain of pairs through `rest`; it is proper when it ends in an
atom that spells `NIL` in any case.

A text that holds no expression stands for the blank, which is neither an atom nor a pair. The
blank cannot be evaluated, but it can be bound to a name, passed to a function and put into a
pair like any other expression.
-/

namespace PairLisp

/-- An atom, a pair or the blank. -/
inductive Expr where
  | atom (token : String)
  | pair (first rest : Expr)
  | blank
deriving DecidableEq, Inhabited

namespace Expr

/-- The empty list, and what a false test answers. -/
def nil : Expr := .atom "NIL"

/-- What a true test answers. -/
def truth : Expr := .atom "T"

/-- The answer of a test. -/
def ofBool (b : Bool) : Expr :=
  if b then truth else nil

/-- Whether an expression is an atom. -/
def isAtom : Expr → Bool
  | .atom _ => true
  | .pair _ _ => false
  | .blank => false

/-- Whether an expression is an atom that spells `NIL`. -/
def isNull : Expr → Bool
  | .atom token => Symbol.isNil token
  | .pair _ _ => false
  | .blank => false

/-- Whether an expression is an atom that spells `T`. -/
def isTrue : Expr → Bool
  | .atom token => Symbol.isTrue token
  | .pair _ _ => false
  | .blank => false

/-- The token of an atom. -/
def token : Expr → Except Misuse String
  | .atom token => .ok token
  | .pair _ _ => .error .noToken
  | .blank => .error .noToken

/-! ## Lists -/

/-- The list of `items` that ends in `tail`. -/
def ofList (items : List Expr) (tail : Expr) : Expr :=
  items.foldr .pair tail

/-- The items of a proper list, and nothing for any other expression. -/
def toList? : Expr → Option (List Expr)
  | .atom token => if Symbol.isNil token then some [] else none
  | .pair first rest => (toList? rest).map (first :: ·)
  | .blank => none

/-- The number of pairs along a list, and one more if its end is not null. -/
def length : Expr → Nat
  | .atom token => if Symbol.isNil token then 0 else 1
  | .pair _ rest => length rest + 1
  | .blank => 1

@[simp] theorem ofList_nil (tail : Expr) : ofList [] tail = tail := rfl

@[simp] theorem ofList_cons (item : Expr) (items : List Expr) (tail : Expr) :
    ofList (item :: items) tail = .pair item (ofList items tail) := rfl

/-- The number of atoms, pairs and blanks in an expression. -/
def size : Expr → Nat
  | .atom _ => 1
  | .pair first rest => size first + size rest + 1
  | .blank => 1

end Expr
end PairLisp
