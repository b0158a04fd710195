import PairLisp.Eval
import PairLisp.TokenStream

/-!
# Sessions

A session evaluates top-level forms one after the other. It keeps the table of definitions, which
only grows, and an ambient environment, which stays as it was when the session began. A source of
text is evaluated form by form: the forms before an error keep their effects, and those after it
are not evaluated. The same holds of a source that is loaded for its definitions, whose values are
dropped.
-/

namespace PairLisp

/-- The state between two top-level forms. -/
structure Session where
  /-- The functions defined so far. -/
  defs : Definitions
  /-- The environment that forms are evaluated in. -/
  env : Env
  /-- The number of levels that evaluation may use. -/
  depth : Nat

namespace Session

/-- The limit on stack frames that holds unless another one is configured. -/
def defaultLimit : Nat := 1000

/-- The number of levels within a limit on stack frames: each level takes three. -/
def levels (limit : Nat) : Nat :=
  limit / 3

/-- A session without definitions. -/
def start (limit : Nat) : Session :=
  ⟨.empty, .empty, levels limit⟩

/-- What a top-level form comes to. -/
def evalForm (session : Session) (form : Expr) : Outcome Expr :=
  (evaluate session.depth form session.env true).run session.defs

/-- The session after a form that came to `outcome`. -/
def after (session : Session) (outcome : Outcome Expr) : Session :=
  { session with defs := outcome.defs }

/-- What evaluating a source of text comes to. -/
structure Run where
  /-- The values of the forms, in order. -/
  values : List Expr
  /-- The error that ended the run early. -/
  error? : Option Error
  /-- The session afterwards. -/
  session : Session
  /-- What happened on the way. -/
  events : List Event
  /-- The forms that were evaluated, in order, a failed one included. -/
  forms : List Expr

/-- What is done about a reading for its value: an error ends the run, and a value is kept. -/
def evalReading (session : Session) : Except ReadError Expr → TokenStream.Course Session Run
  | .error cause => .ends ⟨[], some (.read cause), session, [], []⟩
  | .ok form =>
    let outcome := session.evalForm form
    let next := session.after outcome
    match outcome.result with
    | .error cause => .ends ⟨[], some (.eval cause), next, outcome.events, [form]⟩
    | .ok value =>
      .goesOn next fun run =>
        { run with
          values := value :: run.values
          events := outcome.events ++ run.events
          forms := form :: run.forms }

/-- Evaluates the forms of a source of text up to the first error. -/
def evalSource (session : Session) (source : Source) : Run :=
  (TokenStream.ofSource source).drive evalReading (fun last => ⟨[], none, last, [], []⟩) session

/-- What loading a source of text comes to. -/
structure Load where
  /-- The error that ended the loading early. -/
  error? : Option Error
  /-- The session afterwards. -/
  session : Session
  /-- What happened on the way. -/
  events : List Event
  /-- The forms that were evaluated, in order, a failed one included. -/
  forms : List Expr

/-- What is done about a reading for what it defines: an error ends the loading, and a value is
    dropped. -/
def loadReading (session : Session) : Except ReadError Expr → TokenStream.Course Session Load
  | .error cause => .ends ⟨some (.read cause), session, [], []⟩
  | .ok form =>
    let outcome := session.evalForm form
    let next := session.after outcome
    match outcome.result with
    | .error cause => .ends ⟨some (.eval cause), next, outcome.events, [form]⟩
    | .ok _ =>
      .goesOn next fun load =>
        { load with
          events := outcome.events ++ load.events
          forms := form :: load.forms }

/-- Loads a source of text for its definitions, up to the first error. -/
def loadSource (session : Session) (source : Source) : Load :=
  (TokenStream.ofSource source).drive loadReading (fun last => ⟨none, last, [], []⟩) session

/-- What a run without error answers. -/
inductive Answer where
  | one (value : Expr)
  | many (values : List Expr)

/-- The answer of a run: its only value, the empty list if there is none, or all of them. -/
def Run.answer (run : Run) : Except Error Answer :=
  match run.error? with
  | some cause => .error cause
  | none =>
    match run.values with
    | [] => .ok (.one Expr.nil)
    | [value] => .ok (.one value)
    | values => .ok (.many values)

end Session
end PairLisp
