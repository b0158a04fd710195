import PairLisp.Error
import PairLisp.Numeral

/-!
# Primitives

The built-in functions. Each has a label and a number of arguments. An application checks the number
first, then takes the arguments one by one and checks their types, then the arithmetic itself. Integers
are exact, and both operands and results are held to the digit limit of `Numeral`.
-/

namespace PairLisp

/-- The built-in functions. -/
inductive Primitive where
  | car
  | cdr
  | cons
  | eq
  | atom
  | null
  | int
  | plus
  | minus
  | times
  | quotient
  | remainder
  | less
  | greater
deriving DecidableEq

namespace Primitive

/-- All built-in functions. -/
def all : List Primitive :=
  [.car, .cdr, .cons, .eq, .atom, .null, .int, .plus, .minus, .times, .quotient, .remainder,
   .less, .greater]

/-- The label and the number of arguments of a built-in function. -/
def entry : Primitive → String × Nat
  | .car => ("CAR", 1)
  | .cdr => ("CDR", 1)
  | .cons => ("CONS", 2)
  | .eq => ("EQ", 2)
  | .atom => ("ATOM", 1)
  | .null => ("NULL", 1)
  | .int => ("INT", 1)
  | .plus => ("PLUS", 2)
  | .minus => ("MINUS", 2)
  | .times => ("TIMES", 2)
  | .quotient => ("QUOTIENT", 2)
  | .remainder => ("REMAINDER", 2)
  | .less => ("LESS", 2)
  | .greater => ("GREATER", 2)

/-- The name of a built-in function. -/
def label (p : Primitive) : String :=
  p.entry.1

/-- The number of arguments of a built-in function. -/
def arity (p : Primitive) : Nat :=
  p.entry.2

/-- The built-in function that a name stands for, in any case. -/
def ofName? (name : String) : Option Primitive :=
  let key := Symbol.key name
  all.find? fun p => p.label == key

/-! ## Arithmetic -/

/-- Whether an expression is an integer. -/
def isInteger : Expr → Bool
  | .atom token => Numeral.isNumeral token
  | .pair _ _ => false
  | .blank => false

/-- The integer that an expression denotes. -/
def intValue (e : Expr) : Except Misuse Int := do
  Numeral.toInt (← e.token)

/-- The integers that arguments denote. -/
def integers (label : String) (args : List Expr) : Except EvalError (List Int) :=
  if args.all isInteger then
    match args.mapM intValue with
    | .ok values => .ok values
    | .error .notConverted => .error (.integerTooLarge label)
    | .error cause => .error (.misuse cause)
  else .error (.nonIntegerOperand label)

/-- The two integers that arguments denote. -/
def operands (label : String) (args : List Expr) : Except EvalError (Int × Int) := do
  let values ← integers label args
  EvalError.guarded (Take.two values)

/-- The atom of a result: its canonical numeral, if that has few enough digits. -/
def ofInt (label : String) (n : Int) : Except EvalError Expr :=
  match Numeral.toText n with
  | .ok token => .ok (.atom token)
  | .error .notConverted => .error (.integerTooLarge label)
  | .error cause => .error (.misuse cause)

/-- An operation on two integers with an integer result. -/
def arithmetic (label : String) (f : Int → Int → Int) (args : List Expr) :
    Except EvalError Expr := do
  let (a, b) ← operands label args
  ofInt label (f a b)

/-- A division of two integers, of which the second must not be zero. -/
def division (label : String) (f : Int → Int → Except Misuse Int) (args : List Expr) :
    Except EvalError Expr := do
  let (a, b) ← operands label args
  if b = 0 then .error (.divisionByZero label)
  else ofInt label (← EvalError.guarded (f a b))

/-- A comparison of two integers. -/
def comparison (label : String) (test : Int → Int → Bool) (args : List Expr) :
    Except EvalError Expr := do
  let (a, b) ← operands label args
  .ok (Expr.ofBool (test a b))

/-! ## Application -/

/-- The argument at a place. -/
def argument (args : List Expr) (place : Nat) : Except EvalError Expr :=
  EvalError.guarded (Take.item args place)

/-- The first half of a pair. -/
def firstOf (label : String) : Expr → Except EvalError Expr
  | .pair first _ => .ok first
  | .atom _ | .blank => .error (.operandNotPair label)

/-- The second half of a pair. -/
def restOf (label : String) : Expr → Except EvalError Expr
  | .pair _ rest => .ok rest
  | .atom _ | .blank => .error (.operandNotPair label)

/-- Whether two atoms are spelled alike up to case. -/
def sameAtom (label : String) : Expr → Expr → Except EvalError Expr
  | .atom s, .atom t => .ok (Expr.ofBool (Symbol.key s == Symbol.key t))
  | _, _ => .error (.atomsOnly label)

/-- What a built-in function does with arguments of the right number. -/
def dispatch (p : Primitive) (args : List Expr) : Except EvalError Expr :=
  match p with
  | .car => do firstOf p.label (← argument args 0)
  | .cdr => do restOf p.label (← argument args 0)
  | .cons => do return .pair (← argument args 0) (← argument args 1)
  | .eq => do sameAtom p.label (← argument args 0) (← argument args 1)
  | .atom => do return Expr.ofBool (← argument args 0).isAtom
  | .null => do return Expr.ofBool (← argument args 0).isNull
  | .int => do return Expr.ofBool (isInteger (← argument args 0))
  | .plus => arithmetic p.label (· + ·) args
  | .minus => arithmetic p.label (· - ·) args
  | .times => arithmetic p.label (· * ·) args
  | .quotient => division p.label Numeral.quotient args
  | .remainder => division p.label Numeral.remainder args
  | .less => comparison p.label (fun a b => a < b) args
  | .greater => comparison p.label (fun a b => b < a) args

/-- Applies a built-in function to evaluated arguments. -/
def apply (p : Primitive) (args : List Expr) : Except EvalError Expr :=
  if args.length ≠ p.arity then .error (.arityMismatch p.label p.arity args.length)
  else p.dispatch args

end Primitive
end PairLisp
