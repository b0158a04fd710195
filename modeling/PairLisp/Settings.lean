import PairLisp.Expr.Printer
import PairLisp.Numeral
import PairLisp.Text.Case

/-!
# Settings

What the environment variables of a process configure: the prompt, the mark in front of an error,
the notation of results, a limit on recursion and the level of the log. The notation is checked
before the limit.
-/

namespace PairLisp

/-- How the read loop presents itself and how far evaluation may go. -/
structure Settings where
  /-- Written before each read. -/
  prompt : String
  /-- Written before the message of an error. -/
  errorMark : String
  /-- The name of the notation that results are written in. -/
  style : String
  /-- The limit on stack frames, if one is configured. -/
  recursionLimit : Option Nat
  /-- The name of the level from which on events are logged. -/
  logLevel : String
deriving DecidableEq

/-- Why settings cannot be loaded. -/
inductive SettingsError where
  /-- The notation is none of the known ones. -/
  | style (given : String)
  /-- The limit is no integer. -/
  | limitNotInteger (given : String)
  /-- The limit is zero or less. -/
  | limitNotPositive (given : Int)
deriving DecidableEq

/-- What is said about settings that cannot be loaded. -/
def SettingsError.message : SettingsError → String
  | .style given =>
    "DOTLISP_NOTATION must be one of " ++ Expr.Style.names ++ ", got " ++ Text.quoted given
  | .limitNotInteger given =>
    "DOTLISP_RECURSION_LIMIT must be an integer, got " ++ Text.quoted given
  | .limitNotPositive given =>
    "DOTLISP_RECURSION_LIMIT must be positive, got " ++ Numeral.ofInt given

namespace Settings

/-- The settings of a process that configures nothing. -/
def default : Settings where
  prompt := ">>> "
  errorMark := "**ERR** "
  style := "dot"
  recursionLimit := none
  logLevel := "WARNING"

/-- The names of the environment variables that configure something. -/
def variableNames : List String :=
  ["DOTLISP_PROMPT", "DOTLISP_ERROR_PREFIX", "DOTLISP_NOTATION", "DOTLISP_RECURSION_LIMIT",
   "DOTLISP_LOG_LEVEL"]

/-- The notation that a configured value names: white space around it and its case do not
    matter. -/
def loadStyle (value : String) : Except SettingsError String :=
  let name := Text.lower (Text.trim value)
  match Expr.Style.ofName? name with
  | some _ => .ok name
  | none => .error (.style name)

/-- The limit that a configured value gives; a blank one gives none. -/
def loadLimit (value : String) : Except SettingsError (Option Nat) :=
  let text := Text.trim value
  if text = "" then .ok none
  else match Numeral.ofLiteral? text with
    | none => .error (.limitNotInteger text)
    | some n => if 0 < n then .ok (some n.toNat) else .error (.limitNotPositive n)

/-- The level that a configured value names: white space around it and its case do not matter. -/
def loadLevel (value : String) : String :=
  Text.upper (Text.trim value)

/-- The settings that the variables of a process give. -/
def load (environ : String → Option String) : Except SettingsError Settings := do
  let style ← loadStyle ((environ "DOTLISP_NOTATION").getD default.style)
  let limit ← loadLimit ((environ "DOTLISP_RECURSION_LIMIT").getD "")
  return {
    prompt := (environ "DOTLISP_PROMPT").getD default.prompt
    errorMark := (environ "DOTLISP_ERROR_PREFIX").getD default.errorMark
    style := style
    recursionLimit := limit
    logLevel := loadLevel ((environ "DOTLISP_LOG_LEVEL").getD default.logLevel) }

end Settings
end PairLisp
