/-!
# Misuse of operations

Some operations have no result for some operands: a list has no item behind its end, and nothing can
be divided by zero. Such an operation then says how it was misused. A misuse is the fault of whoever
uses the operation and has not looked at the operands first, and never that of a form.

`Take` holds the operations that take lists and tables apart.
-/

namespace PairLisp

/-- How an operation was misused. -/
inductive Misuse where
  /-- There is no item at a place of a list. -/
  | noItem
  /-- There is nothing to take off a stack. -/
  | emptyStack
  /-- A list was to be taken apart into another number of items than it has. -/
  | wrongCount (expected actual : Nat)
  /-- There is no entry under a key. -/
  | noEntry
  /-- What is no atom was asked for its token. -/
  | noToken
  /-- An integer was divided by zero. -/
  | zeroDivisor
  /-- A numeral and an integer could not be converted into one another. -/
  | notConverted
deriving DecidableEq

namespace Misuse

/-- The name of a misuse in log records. -/
def name : Misuse → String
  | .noItem | .emptyStack => "IndexError"
  | .wrongCount _ _ | .notConverted => "ValueError"
  | .noEntry => "KeyError"
  | .noToken => "AttributeError"
  | .zeroDivisor => "ZeroDivisionError"

/-- What is said about a misuse. -/
def message : Misuse → String
  | .noItem => "list index out of range"
  | .emptyStack => "pop from empty list"
  | .wrongCount expected actual =>
    if actual < expected then
      "not enough values to unpack (expected " ++ expected.repr ++ ", got " ++ actual.repr ++ ")"
    else "too many values to unpack (expected " ++ expected.repr ++ ")"
  | .noEntry => "no such key"
  | .noToken => "'NoneType' object has no attribute 'token'"
  | .zeroDivisor => "integer division or modulo by zero"
  | .notConverted => "integer and text cannot be converted"

end Misuse

namespace Take

variable {α κ : Type}

/-- The item at a place of a list. -/
def item (items : List α) (place : Nat) : Except Misuse α :=
  match items[place]? with
  | some x => .ok x
  | none => .error .noItem

/-- The top of a stack, and what is below it. -/
def top : List α → Except Misuse (α × List α)
  | [] => .error .emptyStack
  | x :: below => .ok (x, below)

/-- Both items of a list of two. -/
def two : List α → Except Misuse (α × α)
  | [x, y] => .ok (x, y)
  | items => .error (.wrongCount 2 items.length)

/-- All items of a list of three. -/
def three : List α → Except Misuse (α × α × α)
  | [x, y, z] => .ok (x, y, z)
  | items => .error (.wrongCount 3 items.length)

/-- What a table has under a key. -/
def entry [DecidableEq κ] (table : List (κ × α)) (key : κ) : Except Misuse α :=
  match table.lookup key with
  | some x => .ok x
  | none => .error .noEntry

@[simp] theorem item_zero (x : α) (items : List α) : item (x :: items) 0 = .ok x := rfl

@[simp] theorem item_one (x y : α) (items : List α) : item (x :: y :: items) 1 = .ok y := rfl

@[simp] theorem two_pair (x y : α) : two [x, y] = .ok (x, y) := rfl

end Take
end PairLisp
