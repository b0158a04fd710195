import PairLisp.CommandLine.Run

/-!
# The command itself

The outer layer: it fetches arguments, environment variables, files and lines of standard input,
hands them to the library and writes what comes back. Standard input is read no further than the
form at hand, so the command can be used interactively.
-/

namespace PairLisp.CommandLine

/-- What a name stands for in the file system. A directory can be opened and is found out when it
    is read, while a name that goes on behind a file cannot be opened at all. -/
def fetchFile (name : String) : IO File := do
  try
    return .text (← IO.FS.readFile name)
  catch
    | .noFileOrDirectory .. => return .missing
    | .inappropriateType (some _) .. => return .throughFile
    | .inappropriateType none .. => return .directory
    | cause => throw cause

/-- The environment variables that configure the command. -/
def fetchVariables : IO (List (String × String)) :=
  Settings.variableNames.filterMapM fun name => do
    return (← IO.getEnv name).map fun value => (name, value)

/-- Writes a report and returns the exit status. -/
def deliver (report : Report) : IO UInt32 := do
  (← IO.getStdout).putStr report.stdout
  (← IO.getStderr).putStr report.stderr
  match report.ending with
  | .returned status | .stopped status => return status.toUInt32
  | .fileFailed cause =>
    IO.eprintln cause.message
    return 1
  | .loopFailed cause =>
    IO.eprintln cause.message
    return 1

/-- The next reading of standard input, behind tokens of a line already read, and the tokens left.
    There is none once the input has ended, and no tokens are left then. -/
partial def nextReading (stdin : IO.FS.Stream) (stack : Reader.Stack) (line : List Token) :
    IO (Option (Except ReadError Expr) × Option (List Token)) := do
  match stack.feed line with
  | .done result rest => return (some result, some rest)
  | .pending next =>
    let chunk ← stdin.getLine
    if chunk.isEmpty then
      match next.finish with
      | .ok _ => return (none, none)
      | .error cause => return (some (.error cause), none)
    else nextReading stdin next (Token.lex chunk)

/-- The read loop over standard input: the turns of `ReadLoop.turn`, each written when it is taken. -/
partial def converse (job : Job) (position : ReadLoop.Position) (line? : Option (List Token)) :
    IO UInt32 := do
  let stdout ← IO.getStdout
  let stderr ← IO.getStderr
  stdout.putStr (ReadLoop.promptText job.settings job.prompting)
  stdout.flush
  let (reading?, rest?) ← match line? with
    | some line => nextReading (← IO.getStdin) [] line
    | none => pure (none, none)
  let turn := ReadLoop.turn job.settings position reading?
  stderr.putStr (Event.log job.threshold turn.events)
  stdout.putStr turn.text
  match turn.ending? with
  | none => converse job turn.position rest?
  | some none => return 0
  | some (some cause) =>
    stderr.putStrLn cause.message
    return 1

end PairLisp.CommandLine

open PairLisp.CommandLine in
/-- Runs the command with the arguments and variables of this process. -/
def main (args : List String) : IO UInt32 := do
  let environ ← fetchVariables
  match plan args (fun name => environ.lookup name) with
  | .error report => deliver report
  | .ok job =>
    if job.files.isEmpty then converse job ⟨job.session, 0⟩ (some [])
    else
      let files ← job.files.mapM fun name => do return (name, ← fetchFile name)
      deliver (job.runFiles (fun name => (files.lookup name).getD .missing) job.session job.files)
