import PairLisp.Session
import PairLisp.Settings

/-!
# The read loop

The loop reads one form at a time, evaluates it and writes one line: the value, or a mark and the
message of the error. Before each read it writes a prompt, if it is asked to. It goes on after an
error, and it ends with the input. Three things end it earlier: a notation that does not exist, which
is found out when the first value is to be written, a value that cannot be written in the notation, and
an error that does not concern a form.
-/

namespace PairLisp
namespace ReadLoop

/-- Why a loop ends before its input. -/
inductive Failure where
  /-- There is no such notation. -/
  | style (cause : Expr.UnknownStyle)
  /-- A value cannot be written. -/
  | unwritten (cause : Misuse)
  /-- An error does not concern a form. -/
  | error (cause : Error)
deriving DecidableEq

/-- What is said about the early end of a loop. -/
def Failure.message : Failure → String
  | .style cause => cause.message
  | .unwritten cause => cause.message
  | .error cause => cause.message

/-- What the loop does about one form. -/
structure Reply where
  /-- The line to write. -/
  line : Except Failure String
  /-- The session afterwards. -/
  session : Session
  /-- What happened on the way. -/
  events : List Event

/-- The reply to a form that could not be read or evaluated. -/
def refuse (settings : Settings) (session : Session) (events : List Event) (cause : Error) :
    Reply :=
  if cause.concernsForm then
    ⟨.ok (settings.errorMark ++ cause.message ++ "\n"), session, events ++ [.formFailed cause]⟩
  else ⟨.error (.error cause), session, events⟩

/-- The line of a value, in the notation that the settings name. -/
def valueLine (settings : Settings) (value : Expr) : Except Failure String :=
  match value.render settings.style with
  | .ok (.ok text) => .ok (text ++ "\n")
  | .ok (.error cause) => .error (.unwritten cause)
  | .error cause => .error (.style cause)

/-- The reply to a form, or to what was read in place of one. -/
def reply (settings : Settings) (session : Session) : Except ReadError Expr → Reply
  | .error cause => refuse settings session [] (.read cause)
  | .ok form =>
    let outcome := session.evalForm form
    let next := session.after outcome
    match outcome.result with
    | .error cause => refuse settings next outcome.events (.eval cause)
    | .ok value => ⟨valueLine settings value, next, outcome.events⟩

/-- What the loop writes before it reads. -/
def promptText (settings : Settings) (prompting : Bool) : String :=
  if prompting then settings.prompt else ""

/-- The loop between two readings. -/
structure Position where
  session : Session
  /-- How many forms have been dealt with. -/
  count : Nat

/-- What the loop does behind a reading, or at the end of input. -/
structure Turn where
  /-- What is written. -/
  text : String
  /-- What happened on the way. -/
  events : List Event
  /-- Where the loop is afterwards. -/
  position : Position
  /-- Whether the loop ends here, and what ends it before its input. -/
  ending? : Option (Option Failure)

/-- The turn that is taken behind a reading, or at the end of input. -/
def turn (settings : Settings) (position : Position) :
    Option (Except ReadError Expr) → Turn
  | none => ⟨"", [.inputEnded position.count], position, some none⟩
  | some reading =>
    let reply := reply settings position.session reading
    match reply.line with
    | .ok line => ⟨line, reply.events, ⟨reply.session, position.count + 1⟩, none⟩
    | .error failure => ⟨"", reply.events, ⟨reply.session, position.count⟩, some (some failure)⟩

/-- What a loop has done when it ends. -/
structure Transcript where
  /-- Everything written. -/
  output : String
  /-- The session afterwards. -/
  session : Session
  /-- What happened on the way. -/
  events : List Event
  /-- What ended the loop before its input, if anything did. -/
  failure? : Option Failure

/-- A turn in front of what the loop does after it. -/
def Transcript.behind (transcript : Transcript) (prompt : String) (turn : Turn) : Transcript :=
  { transcript with
    output := prompt ++ turn.text ++ transcript.output
    events := turn.events ++ transcript.events }

/-- The transcript of a loop that ends with a turn. -/
def Transcript.ofLast (prompt : String) (turn : Turn) : Transcript :=
  ⟨prompt ++ turn.text, turn.position.session, turn.events, turn.ending?.join⟩

/-- What the loop does about a reading: it writes a prompt before it and takes a turn behind it. -/
def doReading (settings : Settings) (prompting : Bool) (position : Position)
    (reading : Except ReadError Expr) : TokenStream.Course Position Transcript :=
  let prompt := promptText settings prompting
  let turn := turn settings position (some reading)
  match turn.ending? with
  | some _ => .ends (.ofLast prompt turn)
  | none => .goesOn turn.position fun transcript => transcript.behind prompt turn

/-- What the loop does at the end of input. -/
def doEnd (settings : Settings) (prompting : Bool) (position : Position) : Transcript :=
  .ofLast (promptText settings prompting) (turn settings position none)

/-- Runs the loop over a source of text. -/
def run (settings : Settings) (prompting : Bool) (session : Session) (source : Source) :
    Transcript :=
  (TokenStream.ofSource source).drive (doReading settings prompting) (doEnd settings prompting)
    ⟨session, 0⟩

end ReadLoop
end PairLisp
