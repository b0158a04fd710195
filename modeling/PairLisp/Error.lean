import PairLisp.Expr.Printer

/-!
# Errors

What can go wrong, as causes. Reading fails with a `ReadError`, evaluation with an `EvalError`;
the wording of each is given by one `message` function, and every error has a kind, by which log
records name it, and belongs to a family of kinds.

An error that is a misuse says nothing about a form, but about the code that should have prevented it.
-/

namespace PairLisp

/-- Results can be compared where their errors and their values can. -/
instance decidableEqResult {ε α : Type} [DecidableEq ε] [DecidableEq α] :
    DecidableEq (Except ε α)
  | .ok a, .ok b => decidable_of_iff (a = b) ⟨congrArg Except.ok, Except.ok.inj⟩
  | .error a, .error b => decidable_of_iff (a = b) ⟨congrArg Except.error, Except.error.inj⟩
  | .ok _, .error _ => isFalse nofun
  | .error _, .ok _ => isFalse nofun

/-- The families that kinds of errors are grouped in. -/
inductive Family where
  /-- The text is no expression. -/
  | reading
  /-- A symbol is used that cannot name anything. -/
  | naming
  /-- A symbol is used that is not bound. -/
  | binding
  /-- A form or a call has the wrong shape. -/
  | shape
  /-- The number of arguments is wrong. -/
  | arity
  /-- An argument has the wrong type. -/
  | operand
  /-- Integer arithmetic cannot be carried out. -/
  | arithmetic
  /-- Nothing is found under a name or a condition. -/
  | lookup
deriving DecidableEq

/-- The kinds of errors. -/
inductive ErrorKind where
  | malformedInput
  | invalidIdentifier
  | illegalFunctionName
  | unboundIdentifier
  | malformedConditional
  | malformedDefun
  | nestedDefunForbidden
  | badArguments
  | arityMismatch
  | operandNotPair
  | atomsOnly
  | nonIntegerOperand
  | integerTooLarge
  | divisionByZero
  | undefinedFunction
  | noMatchingClause
  | recursionDepthExceeded
  | blankForm
  | misuse (cause : Misuse)
deriving DecidableEq

namespace ErrorKind

/-- The name of a kind in log records. -/
def name : ErrorKind → String
  | .malformedInput => "MalformedInput"
  | .invalidIdentifier => "InvalidIdentifier"
  | .illegalFunctionName => "IllegalFunctionName"
  | .unboundIdentifier => "UnboundIdentifier"
  | .malformedConditional => "MalformedConditional"
  | .malformedDefun => "MalformedDefun"
  | .nestedDefunForbidden => "NestedDefunForbidden"
  | .badArguments => "BadArguments"
  | .arityMismatch => "ArityMismatch"
  | .operandNotPair => "OperandNotPair"
  | .atomsOnly => "AtomsOnly"
  | .nonIntegerOperand => "NonIntegerOperand"
  | .integerTooLarge => "IntegerTooLarge"
  | .divisionByZero => "DivisionByZero"
  | .undefinedFunction => "UndefinedFunction"
  | .noMatchingClause => "NoMatchingClause"
  | .recursionDepthExceeded => "RecursionDepthExceeded"
  | .blankForm => "TypeError"
  | .misuse cause => cause.name

/-- The family of a kind. Running out of depth, evaluating the blank and misuses stand by
    themselves. -/
def family? : ErrorKind → Option Family
  | .malformedInput => some .reading
  | .invalidIdentifier | .illegalFunctionName => some .naming
  | .unboundIdentifier => some .binding
  | .malformedConditional | .malformedDefun | .nestedDefunForbidden | .badArguments => some .shape
  | .arityMismatch => some .arity
  | .operandNotPair | .atomsOnly | .nonIntegerOperand => some .operand
  | .integerTooLarge | .divisionByZero => some .arithmetic
  | .undefinedFunction | .noMatchingClause => some .lookup
  | .recursionDepthExceeded | .blankForm | .misuse _ => none

/-- Whether errors of a kind say that a form is wrong. Asking for the value of the blank is not of
    this sort, as the blank is no form, and neither are misuses. -/
def concernsForm : ErrorKind → Bool
  | .blankForm | .misuse _ => false
  | _ => true

end ErrorKind

/-! ## Quoting

Some errors quote an expression. One that cannot be written makes quoting it a misuse. -/

/-- The kind of an error that quotes an expression. -/
def ErrorKind.quoting (kind : ErrorKind) (quoted : Expr) : ErrorKind :=
  match quoted.listing with
  | .ok _ => kind
  | .error cause => .misuse cause

/-- A message that begins with an expression between quotes. -/
def quotingMessage (quoted : Expr) (said : String) : String :=
  match quoted.listing with
  | .ok text => "'" ++ text ++ "'" ++ said
  | .error cause => cause.message

/-! ## Reading -/

/-- Why a text cannot be read. -/
inductive ReadError where
  /-- A token that cannot begin or continue an expression here. -/
  | unexpected (text : String)
  /-- A second dot, behind the tail of a dotted list. -/
  | misplacedDot
  /-- A dotted list that goes on behind its tail. -/
  | notClosed (found : String)
  /-- The input ends among the items of a list. -/
  | endInList
  /-- The input ends between a dot and the tail. -/
  | endAfterDot
  /-- The input ends behind the tail of a dotted list. -/
  | endAfterTail
  /-- The reader misuses what it keeps. -/
  | misuse (cause : Misuse)
deriving DecidableEq

/-- The kind of a reading error. -/
def ReadError.kind : ReadError → ErrorKind
  | .misuse cause => .misuse cause
  | _ => .malformedInput

/-- What is said about a text that cannot be read. -/
def ReadError.message : ReadError → String
  | .unexpected text => "'" ++ text ++ "' is a bad s-expression"
  | .misplacedDot => "misplaced '.'"
  | .notClosed found => "expected ')' after dotted pair, found '" ++ found ++ "'"
  | .endInList => "unexpected end of input, expected ')'"
  | .endAfterDot => "unexpected end of input after '.'"
  | .endAfterTail => "unexpected end of input, expected ')' after dotted pair"
  | .misuse cause => cause.message

/-! ## Evaluation -/

/-- What is wrong with the clauses of a conditional. -/
inductive ClauseFault where
  | atomic
  | improper
  | notTestResult
  | misuse (cause : Misuse)
deriving DecidableEq

/-- The kind of error that the clauses of a conditional make. -/
def ClauseFault.kind : ClauseFault → ErrorKind
  | .misuse cause => .misuse cause
  | _ => .malformedConditional

/-- What is said about the clauses of a conditional. -/
def ClauseFault.message : ClauseFault → String
  | .atomic => "conditional cannot be atomic"
  | .improper => "conditional clause list is not a proper list"
  | .notTestResult => "conditional clause is not a (test result) pair"
  | .misuse cause => cause.message

/-- What is wrong with a function definition. -/
inductive DefunFault where
  | form
  | name
  | parameterList
  | parameter (given : Expr)
  | misuse (cause : Misuse)
deriving DecidableEq

/-- The kind of error that a function definition makes. -/
def DefunFault.kind : DefunFault → ErrorKind
  | .parameter given => .quoting .malformedDefun given
  | .misuse cause => .misuse cause
  | _ => .malformedDefun

/-- What is said about a function definition. -/
def DefunFault.message : DefunFault → String
  | .form => "function definition is not in good form"
  | .name => "function name is bad"
  | .parameterList => "parameter list is bad"
  | .parameter given => quotingMessage given " is a bad parameter"
  | .misuse cause => cause.message

/-- Why an expression has no value. -/
inductive EvalError where
  | invalidIdentifier (token : String)
  | illegalFunctionName (head : Expr)
  | unboundIdentifier (name : String)
  | malformedConditional (fault : ClauseFault)
  | malformedDefun (fault : DefunFault)
  | nestedDefunForbidden
  | badArguments (name : String)
  | arityMismatch (name : String) (expected actual : Nat)
  | operandNotPair (name : String)
  | atomsOnly (name : String)
  | nonIntegerOperand (name : String)
  | integerTooLarge (name : String)
  | divisionByZero (name : String)
  | undefinedFunction (name : String)
  | noMatchingClause
  | recursionDepthExceeded
  | blankForm
  | misuse (cause : Misuse)
deriving DecidableEq

namespace EvalError

/-- The kind of an evaluation error. -/
def kind : EvalError → ErrorKind
  | .invalidIdentifier _ => .invalidIdentifier
  | .illegalFunctionName head => .quoting .illegalFunctionName head
  | .unboundIdentifier _ => .unboundIdentifier
  | .malformedConditional fault => fault.kind
  | .malformedDefun fault => fault.kind
  | .nestedDefunForbidden => .nestedDefunForbidden
  | .badArguments _ => .badArguments
  | .arityMismatch _ _ _ => .arityMismatch
  | .operandNotPair _ => .operandNotPair
  | .atomsOnly _ => .atomsOnly
  | .nonIntegerOperand _ => .nonIntegerOperand
  | .integerTooLarge _ => .integerTooLarge
  | .divisionByZero _ => .divisionByZero
  | .undefinedFunction _ => .undefinedFunction
  | .noMatchingClause => .noMatchingClause
  | .recursionDepthExceeded => .recursionDepthExceeded
  | .blankForm => .blankForm
  | .misuse cause => .misuse cause

/-- What is said about a number of arguments. -/
def arityMessage (name expected actual : String) : String :=
  name ++ " expects " ++ expected ++ " parameters, but " ++ actual ++ " were provided"

/-- What is said about an evaluation error. -/
def message : EvalError → String
  | .invalidIdentifier token => "'" ++ token ++ "' is not a valid identifier"
  | .illegalFunctionName head => quotingMessage head " is an illegal function name"
  | .unboundIdentifier name => name ++ " is not bound"
  | .malformedConditional fault => fault.message
  | .malformedDefun fault => fault.message
  | .nestedDefunForbidden => "no nested DEFUNs allowed"
  | .badArguments name => "'" ++ name ++ "' has bad arguments"
  | .arityMismatch name expected actual => arityMessage name expected.repr actual.repr
  | .operandNotPair name => name ++ " cannot be performed on an atom"
  | .atomsOnly name => name ++ ": atoms only"
  | .nonIntegerOperand name => name ++ ": integers only"
  | .integerTooLarge name => name ++ ": integer too large"
  | .divisionByZero name => name ++ ": division by zero"
  | .undefinedFunction name => "'" ++ name ++ "' is not defined"
  | .noMatchingClause => "no conditional clause evaluated to T"
  | .recursionDepthExceeded => "maximum recursion depth exceeded"
  | .blankForm => "Cannot evaluate " ++ Expr.blankText
  | .misuse cause => cause.message

/-- A result that may be missing because of a misuse, as a result of evaluation. -/
def guarded {α : Type} (result : Except Misuse α) : Except EvalError α :=
  result.mapError .misuse

@[simp] theorem guarded_ok {α : Type} (a : α) : guarded (.ok a) = .ok a := rfl

end EvalError

/-! ## Either -/

/-- Why a form that was to be read and evaluated gave no value. -/
inductive Error where
  | read (cause : ReadError)
  | eval (cause : EvalError)
deriving DecidableEq

namespace Error

/-- The kind of an error. -/
def kind : Error → ErrorKind
  | .read cause => cause.kind
  | .eval cause => cause.kind

/-- What is said about an error. -/
def message : Error → String
  | .read cause => cause.message
  | .eval cause => cause.message

/-- Whether an error says that a form is wrong. -/
def concernsForm (e : Error) : Bool :=
  e.kind.concernsForm

end Error
end PairLisp
