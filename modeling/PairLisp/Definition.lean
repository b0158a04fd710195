import PairLisp.Env
import PairLisp.Error

/-!
# Function definitions

A definition names a function, its formal parameters and its body. It is read off the operands of
a `DEFUN` form, and calling it binds the parameters on top of the caller's bindings.
-/

namespace PairLisp

/-- A user function. -/
structure Definition where
  name : String
  formals : List String
  body : Expr
deriving DecidableEq

namespace Definition

/-- The number of parameters. -/
def arity (d : Definition) : Nat :=
  d.formals.length

/-- The form that makes this definition, in list notation. -/
def text (d : Definition) : String :=
  "(DEFUN " ++ d.name ++ " " ++ (Expr.ofList (d.formals.map .atom) Expr.nil).listText ++ " "
    ++ d.body.listText ++ ")"

/-- The name and the number of parameters. -/
def label (d : Definition) : String :=
  d.name ++ "/" ++ d.arity.repr

/-- The token of an atom that is an identifier. -/
def identifier? : Expr → Option String
  | .atom token => if Symbol.isIdentifier token then some token else none
  | .pair _ _ => none
  | .blank => none

/-- The names in a list of formal parameters, or the first that is no identifier. -/
def formalNames : List Expr → Except DefunFault (List String)
  | [] => .ok []
  | e :: rest =>
    match identifier? e with
    | none => .error (.parameter e)
    | some name => (formalNames rest).map (name :: ·)

/-- The definition that the operands of a `DEFUN` form describe: a name, a list of parameters and
    a body. -/
def ofOperands (operands : Expr) : Except DefunFault Definition :=
  match operands.toList? with
  | none => .error .form
  | some items =>
    if items.length ≠ 3 then .error .form
    else match Take.three items with
      | .error cause => .error (.misuse cause)
      | .ok (name, formals, body) =>
        match identifier? name with
        | none => .error .name
        | some name =>
          match formals.toList? with
          | none => .error .parameterList
          | some formals => (formalNames formals).map fun formals => ⟨name, formals, body⟩

/-- Behind the check of their number all three operands are always there. -/
theorem ofOperands_eq (operands : Expr) :
    ofOperands operands = match operands.toList? with
      | some [name, formals, body] =>
        match identifier? name with
        | none => .error .name
        | some name =>
          match formals.toList? with
          | none => .error .parameterList
          | some formals => (formalNames formals).map fun formals => ⟨name, formals, body⟩
      | _ => .error .form := by
  rw [ofOperands]
  rcases operands.toList? with _ | _ | ⟨_, _ | ⟨_, _ | ⟨_, _ | ⟨_, _⟩⟩⟩⟩ <;> rfl

/-- The environment for the body: the parameters bound to the arguments on top of the caller's
    environment. -/
def bindArguments (d : Definition) (args : List Expr) (caller : Env) : Except EvalError Env :=
  if args.length = d.arity then .ok (caller.extend d.formals args)
  else .error (.arityMismatch d.name d.arity args.length)

end Definition
end PairLisp
