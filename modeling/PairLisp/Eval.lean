import PairLisp.Action
import PairLisp.Primitive

/-!
# Evaluation

The value of an expression in an environment. An atom is a numeral, one of the constants `T` and
`NIL`, or a variable. The blank has no value. A pair is a special form (`QUOTE`, `COND`, `DEFUN`),
or else a call of a primitive or of a defined function, whose operands are evaluated from left to
right. A called function sees the bindings of its caller. `DEFUN` is accepted only in a form that
the session itself evaluates, never in one that is evaluated on behalf of another.

Each operand, each test, each selected result and each function body is one level deeper than the
form it belongs to, and `evaluate` is given the number of levels it may use. What happens at one
level is `Eval.step`, written over an evaluator for the levels below.
-/

namespace PairLisp

/-- Evaluates an expression in an environment; the flag tells whether it is a form that the
    session itself evaluates. -/
abbrev Evaluator := Expr → Env → Bool → Action Expr

namespace Eval

/-! ## Atoms and special forms -/

/-- The value of an atom. -/
def atom (token : String) (env : Env) : Except EvalError Expr :=
  if Numeral.isNumeral token then .ok (.atom token)
  else if Symbol.isTrue token then .ok Expr.truth
  else if Symbol.isNil token then .ok Expr.nil
  else if Symbol.isIdentifier token then
    match env.lookup? token with
    | some value => .ok value
    | none => .error (.unboundIdentifier token)
  else .error (.invalidIdentifier token)

/-- The forms with evaluation rules of their own. -/
inductive SpecialForm where
  | quote
  | cond
  | defun
deriving DecidableEq

/-- The special form that a name stands for, in any case. -/
def SpecialForm.ofName? (name : String) : Option SpecialForm :=
  let key := Symbol.key name
  if key = "QUOTE" then some .quote
  else if key = "COND" then some .cond
  else if key = "DEFUN" then some .defun
  else none

/-- The operand of a `QUOTE` form. -/
def quote (tail : Expr) : Except EvalError Expr :=
  match tail.toList? with
  | none => .error (.arityMismatch "QUOTE" 1 tail.length)
  | some operands =>
    if operands.length ≠ 1 then .error (.arityMismatch "QUOTE" 1 tail.length)
    else EvalError.guarded (Take.item operands 0)

/-- Behind the check of their number the operand is always there. -/
theorem quote_eq (tail : Expr) :
    quote tail = match tail.toList? with
      | some [e] => .ok e
      | _ => .error (.arityMismatch "QUOTE" 1 tail.length) := by
  rw [quote]
  rcases tail.toList? with _ | _ | ⟨e, _ | ⟨_, _⟩⟩ <;> rfl

/-- The parts of a clause. An atom has none, not even one that is the empty list. -/
def clauseParts? (e : Expr) : Option (List Expr) :=
  if e.isAtom then none else e.toList?

/-- The test and the result of a clause. -/
def clause (e : Expr) : Except ClauseFault (Expr × Expr) :=
  match clauseParts? e with
  | none => .error .notTestResult
  | some parts =>
    if parts.length ≠ 2 then .error .notTestResult
    else match Take.item parts 0, Take.item parts 1 with
      | .ok test, .ok result => .ok (test, result)
      | .error cause, _ => .error (.misuse cause)
      | .ok _, .error cause => .error (.misuse cause)

/-- Behind the check of their number both parts are always there. -/
theorem clause_eq (e : Expr) :
    clause e = match e.toList? with
      | some [test, result] => .ok (test, result)
      | _ => .error .notTestResult := by
  cases e with
  | atom token =>
    rw [Expr.toList?]
    by_cases hnil : Symbol.isNil token <;> simp [clause, clauseParts?, Expr.isAtom, hnil]
  | pair first rest =>
    simp only [clause, clauseParts?, Expr.isAtom, Bool.false_eq_true, if_false]
    rcases (Expr.pair first rest).toList? with _ | _ | ⟨_, _ | ⟨_, _ | ⟨_, _⟩⟩⟩ <;> rfl
  | blank => rfl

/-- The clauses of a `COND` form, all of them checked before any test is evaluated. -/
def clauses (tail : Expr) : Except ClauseFault (List (Expr × Expr)) :=
  if tail.isAtom then .error .atomic
  else match tail.toList? with
    | none => .error .improper
    | some items => items.mapM clause

/-- Evaluates tests in order and then the result of the first one that is true. -/
def select (eval : Evaluator) (env : Env) : List (Expr × Expr) → Action Expr
  | [] => .fail .noMatchingClause
  | (test, result) :: rest => do
    let value ← eval test env false
    if value.isTrue then eval result env false else select eval env rest

/-- Evaluates a `COND` form. -/
def conditional (eval : Evaluator) (tail : Expr) (env : Env) : Action Expr :=
  match clauses tail with
  | .error fault => .fail (.malformedConditional fault)
  | .ok clauses => select eval env clauses

/-- Carries out a `DEFUN` form: the value is the name that was defined. -/
def define (tail : Expr) (topLevel : Bool) : Action Expr :=
  if !topLevel then .fail .nestedDefunForbidden
  else match Definition.ofOperands tail with
    | .error fault => .fail (.malformedDefun fault)
    | .ok d => do
      let defs ← Action.definitions
      Action.recordIf (Primitive.ofName? d.name).isSome (.hiddenByPrimitive d.name)
      Action.recordIf (defs.contains d.name) (.redefined d.name)
      Action.add d
      Action.record (.defined d)
      return .atom d.name

/-! ## Calls -/

/-- Evaluates expressions from left to right; the first failure ends it. -/
def each (eval : Evaluator) (env : Env) : List Expr → Action (List Expr)
  | [] => return []
  | e :: rest => do
    let value ← eval e env false
    let values ← each eval env rest
    return value :: values

/-- The values of the operands of a call. -/
def operands (eval : Evaluator) (name : String) (tail : Expr) (env : Env) :
    Action (List Expr) :=
  match tail.toList? with
  | none => .fail (.badArguments name)
  | some items => each eval env items

/-- Calls a defined function with evaluated arguments. -/
def applyDefinition (eval : Evaluator) (d : Definition) (args : List Expr) (env : Env) :
    Action Expr := do
  let inner ← Action.ofExcept (d.bindArguments args env)
  Action.record (.applied d.name inner)
  eval d.body inner false

/-- Calls what a name stands for with evaluated arguments: a primitive, or else a defined
    function. -/
def apply (eval : Evaluator) (name : String) (args : List Expr) (env : Env) : Action Expr :=
  match Primitive.ofName? name with
  | some p => .ofExcept (p.apply args)
  | none => do
    let defs ← Action.definitions
    match defs.get? name with
    | some d => applyDefinition eval d args env
    | none => .fail (.undefinedFunction name)

/-- Evaluates a call. A name that stands for nothing is refused before the operands are looked
    at. -/
def call (eval : Evaluator) (name : String) (tail : Expr) (env : Env) : Action Expr := do
  let defs ← Action.definitions
  if (Primitive.ofName? name).isSome || defs.contains name then
    let args ← operands eval name tail env
    apply eval name args env
  else .fail (.undefinedFunction name)

/-! ## Expressions -/

/-- Evaluates an expression, given an evaluator for the levels below. -/
def step (eval : Evaluator) : Evaluator
  | .atom token, env, _ => .ofExcept (atom token env)
  | .blank, _, _ => .fail .blankForm
  | .pair .blank _, _, _ => .fail (.illegalFunctionName .blank)
  | .pair (.pair first rest) _, _, _ => .fail (.illegalFunctionName (.pair first rest))
  | .pair (.atom name) tail, env, topLevel =>
    match SpecialForm.ofName? name with
    | some .quote => .ofExcept (quote tail)
    | some .cond => conditional eval tail env
    | some .defun => define tail topLevel
    | none => call eval name tail env

end Eval

/-- Evaluates an expression within a number of levels. -/
def evaluate : Nat → Evaluator
  | 0 => fun _ _ _ => .fail .recursionDepthExceeded
  | depth + 1 => Eval.step (evaluate depth)

end PairLisp
