import PairLisp.CommandLine.Options
import PairLisp.ReadLoop

/-!
# Running the command

The command runs the read loop over the files it is given, one after the other and in one
session, or else over its standard input. The arguments are examined first, then the
configuration, then the level of the log; each of these can end the command before anything is
read.
-/

namespace PairLisp.CommandLine

/-! ## Texts -/

/-- The summary of the arguments. -/
def usageText : String :=
  "usage: dotlisp [-h] [--notation \x7bdot,list\x7d] [--no-prompt]\n" ++
  "               [--log-level LOG_LEVEL]\n" ++
  "               [files ...]\n"

/-- The description of the command and its arguments. -/
def helpText : String :=
  usageText ++
  "\n" ++
  "Read-eval-print loop for a small LISP dialect.\n" ++
  "\n" ++
  "positional arguments:\n" ++
  "  files                 source files to run; standard input if none\n" ++
  "\n" ++
  "options:\n" ++
  "  -h, --help            show this help message and exit\n" ++
  "  --notation \x7bdot,list\x7d\n" ++
  "                        output notation for results\n" ++
  "  --no-prompt           do not print a prompt before each read\n" ++
  "  --log-level LOG_LEVEL\n" ++
  "                        logging level, e.g. DEBUG\n"

/-- What a name stands for in the file system. -/
inductive File where
  | text (contents : String)
  | missing
  | directory
  /-- The name goes on behind that of a file. -/
  | throughFile
deriving DecidableEq

/-- Why a file cannot be run. -/
inductive FileError where
  | missing (name : String)
  | directory (name : String)
  | throughFile (name : String)
  /-- The name holds the character that ends names. -/
  | nullInName
deriving DecidableEq

/-- What is said about a file that cannot be run. -/
def FileError.message : FileError → String
  | .missing name => "[Errno 2] No such file or directory: " ++ Text.quoted name
  | .directory name => "[Errno 21] Is a directory: " ++ Text.quoted name
  | .throughFile name => "[Errno 20] Not a directory: " ++ Text.quoted name
  | .nullInName => "embedded null byte"

/-- How a run of the command ends. -/
inductive Ending where
  /-- It comes to its end. -/
  | returned (status : Nat)
  /-- The arguments end it. -/
  | stopped (status : Nat)
  /-- A file cannot be run. -/
  | fileFailed (cause : FileError)
  /-- The read loop ends before its input. -/
  | loopFailed (cause : ReadLoop.Failure)
deriving DecidableEq

/-- What a run of the command leaves behind. -/
structure Report where
  /-- The standard output. -/
  stdout : String
  /-- The standard error. -/
  stderr : String
  ending : Ending
deriving DecidableEq

/-! ## Before the run -/

/-- What is left to do once arguments and configuration have been examined. -/
structure Job where
  settings : Settings
  /-- The rank from which on events are logged. -/
  threshold : Nat
  /-- The files to run. -/
  files : List String
  /-- Whether standard input is read with a prompt. -/
  prompting : Bool

/-- The report of a run that the arguments end. -/
def Stop.report : Stop → Report
  | .help => ⟨helpText, "", .stopped 0⟩
  | .usage cause => ⟨"", usageText ++ "dotlisp: error: " ++ cause.message ++ "\n", .stopped 2⟩

/-- The report of a run that cannot start. -/
def cannotStart (message : String) : Report :=
  ⟨"", message ++ "\n", .returned 2⟩

/-- The settings with what the arguments put in place of them. An empty level leaves the
    configured one in force. -/
def override (settings : Settings) (options : Options) : Settings :=
  let level := match options.logLevel with
    | none | some "" => settings.logLevel
    | some given => given
  { settings with
    style := options.style.getD settings.style
    logLevel := Text.upper level }

/-- The job that arguments and environment variables describe, or the report of a run that ends
    before it. -/
def plan (args : List String) (environ : String → Option String) : Except Report Job :=
  match Options.parse args with
  | .error stop => .error stop.report
  | .ok options =>
    match Settings.load environ with
    | .error cause => .error (cannotStart cause.message)
    | .ok loaded =>
      let settings := override loaded options
      match Level.threshold? settings.logLevel with
      | none => .error (cannotStart ("Invalid log level: " ++ settings.logLevel))
      | some threshold => .ok ⟨settings, threshold, options.files, !options.noPrompt⟩

/-! ## The run -/

/-- The session that a job starts with. -/
def Job.session (job : Job) : Session :=
  .start (job.settings.recursionLimit.getD Session.defaultLimit)

/-- The report of one run of the read loop and what follows it. -/
def Job.report (job : Job) (transcript : ReadLoop.Transcript) (goOn : Session → Report) :
    Report :=
  let log := Event.log job.threshold transcript.events
  match transcript.failure? with
  | some cause => ⟨transcript.output, log, .loopFailed cause⟩
  | none =>
    let rest := goOn transcript.session
    ⟨transcript.output ++ rest.stdout, log ++ rest.stderr, rest.ending⟩

/-- The contents of the file that a name stands for. -/
def File.contents (file : File) (name : String) : Except FileError String :=
  if name.toList.contains '\x00' then .error .nullInName
  else match file with
    | .text contents => .ok contents
    | .missing => .error (.missing name)
    | .directory => .error (.directory name)
    | .throughFile => .error (.throughFile name)

/-- Runs files in one session; a file that cannot be run ends the command. -/
def Job.runFiles (job : Job) (files : String → File) (session : Session) : List String → Report
  | [] => ⟨"", "", .returned 0⟩
  | name :: rest =>
    match (files name).contents name with
    | .error cause => ⟨"", "", .fileFailed cause⟩
    | .ok contents =>
      job.report (ReadLoop.run job.settings false session (.ofFile contents))
        fun next => job.runFiles files next rest

/-- Runs standard input. -/
def Job.runInput (job : Job) (stdin : String) : Report :=
  job.report (ReadLoop.run job.settings job.prompting job.session (.ofText stdin))
    fun _ => ⟨"", "", .returned 0⟩

/-- Runs the command. -/
def run (args : List String) (environ : String → Option String) (stdin : String)
    (files : String → File) : Report :=
  match plan args environ with
  | .error report => report
  | .ok job =>
    if job.files.isEmpty then job.runInput stdin
    else job.runFiles files job.session job.files

end PairLisp.CommandLine
