import PairLisp.Definitions

/-!
# Log records

What happens during a session is reported as a list of events. Each has a level, the channel that
it is reported on and a text; a log shows the events at or above a threshold, one line for each.
-/

namespace PairLisp

/-- Something worth a log record. -/
inductive Event where
  /-- A function was defined that a primitive of the same name hides. -/
  | hiddenByPrimitive (name : String)
  /-- A function was defined again. -/
  | redefined (name : String)
  /-- A function was defined. -/
  | defined (d : Definition)
  /-- A function was called; its body sees `env`. -/
  | applied (name : String) (env : Env)
  /-- A form could not be read or evaluated. -/
  | formFailed (cause : Error)
  /-- The input ended after a number of forms. -/
  | inputEnded (forms : Nat)
deriving DecidableEq

/-- How much an event matters. -/
inductive Level where
  | debug
  | warning
deriving DecidableEq

namespace Level

/-- The place of a level on the scale of thresholds. -/
def rank : Level → Nat
  | .debug => 10
  | .warning => 30

/-- The name of a level in a log line. -/
def name : Level → String
  | .debug => "DEBUG"
  | .warning => "WARNING"

/-- The threshold that a name stands for. -/
def threshold? (name : String) : Option Nat :=
  [("CRITICAL", 50), ("FATAL", 50), ("ERROR", 40), ("WARNING", 30), ("WARN", 30), ("INFO", 20),
   ("DEBUG", 10), ("NOTSET", 0)].lookup name

end Level

namespace Event

/-- How much an event matters. -/
def level : Event → Level
  | .hiddenByPrimitive _ => .warning
  | _ => .debug

/-- The channel that an event is reported on. -/
def channel : Event → String
  | .hiddenByPrimitive _ | .defined _ => "dotlisp.evaluation.special_forms.defun_form"
  | .redefined _ => "dotlisp.types.definitions"
  | .applied _ _ => "dotlisp.evaluation.apply"
  | .formFailed _ | .inputEnded _ => "dotlisp.repl"

/-- What is reported. -/
def text : Event → String
  | .hiddenByPrimitive name =>
    "DEFUN " ++ name ++ " is shadowed by the primitive of the same name"
  | .redefined name => "DEFUN " ++ name ++ " shadows an earlier definition"
  | .defined d => "Defined " ++ d.text
  | .applied name env => "APPLY " ++ name ++ " with " ++ env.text
  | .formFailed cause => "Form failed with " ++ cause.kind.name ++ ": " ++ cause.message
  | .inputEnded forms => "End of input after " ++ forms.repr ++ " form(s)"

/-- The log line of an event. -/
def line (event : Event) : String :=
  event.level.name ++ ":" ++ event.channel ++ ":" ++ event.text ++ "\n"

/-- The log of the events at or above a threshold. -/
def log (threshold : Nat) (events : List Event) : String :=
  String.join ((events.filter fun event => threshold ≤ event.level.rank).map line)

end Event
end PairLisp
