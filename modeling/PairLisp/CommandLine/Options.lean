import PairLisp.Expr.Printer

/-!
# Command line arguments

Arguments are options, file names, or the separator `--`, behind which everything is a file name.
An option may be shortened as long as only one option begins that way, and its value may be
attached behind an equals sign. All file names stand together: those behind an option that
follows earlier file names are not recognised.

Arguments are first sorted one by one, which finds ambiguous options, and then consumed in order.
-/

namespace PairLisp.CommandLine

/-- The options. -/
inductive Flag where
  | help
  | style
  | noPrompt
  | logLevel
deriving DecidableEq

namespace Flag

/-- The spellings of the options. -/
def spellings : List (String × Flag) :=
  [("-h", .help), ("--help", .help), ("--notation", .style), ("--no-prompt", .noPrompt),
   ("--log-level", .logLevel)]

/-- How messages name an option. -/
def title : Flag → String
  | .help => "-h/--help"
  | .style => "--notation"
  | .noPrompt => "--no-prompt"
  | .logLevel => "--log-level"

/-- Whether an option needs a value. -/
def takesValue : Flag → Bool
  | .help | .noPrompt => false
  | .style | .logLevel => true

end Flag

/-- What is wrong with the arguments. -/
inductive UsageError where
  | ambiguous (given : String) (candidates : List String)
  | valueMissing (flag : Flag)
  | valueIgnored (flag : Flag) (given : String)
  | invalidChoice (flag : Flag) (given : String)
  | unrecognized (given : List String)
deriving DecidableEq

/-- What is said about the arguments. -/
def UsageError.message : UsageError → String
  | .ambiguous given candidates =>
    "ambiguous option: " ++ given ++ " could match " ++ String.intercalate ", " candidates
  | .valueMissing flag => "argument " ++ flag.title ++ ": expected one argument"
  | .valueIgnored flag given =>
    "argument " ++ flag.title ++ ": ignored explicit argument " ++ Text.quoted given
  | .invalidChoice flag given =>
    "argument " ++ flag.title ++ ": invalid choice: " ++ Text.quoted given
      ++ " (choose from 'dot', 'list')"
  | .unrecognized given => "unrecognized arguments: " ++ String.intercalate " " given

/-! ## Sorting -/

/-- An argument by the part it plays. -/
inductive Argument where
  /-- A file name, or the value of the option before it. -/
  | operand (text : String)
  /-- The separator behind which everything is an operand. -/
  | separator
  /-- An option, with the value attached to it. -/
  | option (flag : Flag) (attached : Option String)
  /-- Something that looks like an option and is none. -/
  | unknown (text : String)
deriving DecidableEq

/-- The text before the first equals sign and the text behind it, if there is one. -/
def splitAtEquals (cs : List Char) : List Char × Option String :=
  match cs.dropWhile (· ≠ '=') with
  | [] => (cs, none)
  | _ :: value => (cs.takeWhile (· ≠ '='), some (String.ofList value))

/-- The options that begin with the given characters, in order. -/
def beginningWith (cs : List Char) : List (String × Flag) :=
  Flag.spellings.filter fun entry => cs.isPrefixOf entry.1.toList

/-- The value attached to `-h` by the characters behind it. Each further `h` only asks for help
    again; whatever follows these is a value. -/
def bundled (cs : List Char) : Option String :=
  match cs.dropWhile (· = 'h') with
  | [] => none
  | value => some (String.ofList value)

/-- Whether a text is a negative number: digits, with a point before the last of them at most. A
    line feed behind it does no harm. -/
def isNegativeNumber (cs : List Char) : Bool :=
  let isDigit := fun c => (Text.digitValue? c).isSome
  let body := if cs.getLast? = some '\n' then cs.dropLast else cs
  match body with
  | '-' :: number =>
    match number.dropWhile isDigit with
    | [] => !number.isEmpty
    | '.' :: fraction => !fraction.isEmpty && fraction.all isDigit
    | _ => false
  | _ => false

/-- An argument that begins with two dashes and is not spelled like an option: an option with a
    value attached, a shortened option, or none at all. -/
def sortLong (text : String) (cs : List Char) : Except UsageError Argument :=
  let (name, attached) := splitAtEquals cs
  match Flag.spellings.lookup (String.ofList name), beginningWith name with
  | some flag, _ => .ok (.option flag attached)
  | none, [(_, flag)] => .ok (.option flag attached)
  | none, [] => .ok (if cs.contains ' ' then .operand text else .unknown text)
  | none, candidates => .error (.ambiguous text (candidates.map Prod.fst))

/-- An argument that begins with a single dash and is not spelled like an option: a bundle of
    `-h`, possibly behind an equals sign, a file name, or none at all. -/
def sortShort (text : String) : List Char → Argument
  | '-' :: 'h' :: '=' :: [] => .option .help (some "")
  | '-' :: 'h' :: '=' :: cs => .option .help (bundled cs)
  | '-' :: 'h' :: cs => .option .help (bundled cs)
  | cs => if isNegativeNumber cs || cs.contains ' ' then .operand text else .unknown text

/-- The part that one argument plays. -/
def sort (text : String) : Except UsageError Argument :=
  match Flag.spellings.lookup text, text.toList with
  | some flag, _ => .ok (.option flag none)
  | none, '-' :: '-' :: cs => sortLong text ('-' :: '-' :: cs)
  | none, '-' :: c :: cs => .ok (sortShort text ('-' :: c :: cs))
  | none, _ => .ok (.operand text)

/-- The parts that all arguments play. -/
def sortAll : List String → Except UsageError (List Argument)
  | [] => .ok []
  | text :: rest =>
    if text = "--" then .ok (.separator :: rest.map .operand)
    else do
      let first ← sort text
      let others ← sortAll rest
      return first :: others

/-! ## Consuming -/

/-- Whether file names can still come. -/
inductive FileNames where
  /-- None has come yet. -/
  | awaited
  /-- They are coming. -/
  | arriving
  /-- An option has ended them. -/
  | complete
deriving DecidableEq

/-- After a file name, more of them can come unless they are complete. -/
def FileNames.onOperand : FileNames → FileNames
  | .awaited | .arriving => .arriving
  | .complete => .complete

/-- An option ends the file names before it. -/
def FileNames.onOption : FileNames → FileNames
  | .awaited => .awaited
  | .arriving | .complete => .complete

/-- What the arguments ask for. -/
structure Options where
  /-- The files to run. -/
  files : List String
  /-- The notation of results, if one is given. -/
  style : Option String
  /-- Whether no prompt is wanted. -/
  noPrompt : Bool
  /-- The level of the log, if one is given. -/
  logLevel : Option String
  /-- What was not recognised. -/
  extras : List String
deriving DecidableEq

/-- Why arguments end the program at once. -/
inductive Stop where
  | help
  | usage (cause : UsageError)
deriving DecidableEq

namespace Options

/-- What no arguments ask for. -/
def blank : Options := ⟨[], none, false, none, []⟩

/-- Carries out an option without a value. -/
def set (options : Options) : Flag → Except Stop Options
  | .help => .error .help
  | .noPrompt => .ok { options with noPrompt := true }
  | flag => .error (.usage (.valueMissing flag))

/-- Carries out an option with its value. Two dashes, which can only be attached, take back what
    was given before. -/
def setValue (options : Options) (value : String) : Flag → Except Stop Options
  | .style =>
    if value = "--" then .ok { options with style := none }
    else match Expr.Style.ofName? value with
      | some _ => .ok { options with style := some value }
      | none => .error (.usage (.invalidChoice .style value))
  | .logLevel => .ok { options with logLevel := if value = "--" then none else some value }
  | flag => .error (.usage (.valueIgnored flag value))

/-- Takes a file name, or what stands where none can come. -/
def addFile (options : Options) (names : FileNames) (text : String) : Options :=
  match names with
  | .complete => { options with extras := options.extras ++ [text] }
  | .awaited | .arriving => { options with files := options.files ++ [text] }

/-- The separator is dropped among file names and an extra argument elsewhere. -/
def addSeparator (options : Options) (names : FileNames) : Options :=
  match names with
  | .complete => { options with extras := options.extras ++ ["--"] }
  | .awaited | .arriving => options

/-- Consumes arguments in order. -/
def consume (options : Options) (names : FileNames) : List Argument → Except Stop Options
  | [] => .ok options
  | .operand text :: rest => consume (options.addFile names text) names.onOperand rest
  | .separator :: rest => consume (options.addSeparator names) names.onOperand rest
  | .unknown text :: rest =>
    consume { options with extras := options.extras ++ [text] } names.onOption rest
  | .option flag (some value) :: rest => do
    consume (← options.setValue value flag) names.onOption rest
  | .option flag none :: .operand value :: rest =>
    if flag.takesValue then do
      consume (← options.setValue value flag) names.onOption rest
    else do
      consume (← options.set flag) names.onOption (.operand value :: rest)
  | .option flag none :: rest => do
    consume (← options.set flag) names.onOption rest

/-- What a list of arguments asks for. -/
def parse (args : List String) : Except Stop Options :=
  match sortAll args with
  | .error cause => .error (.usage cause)
  | .ok arguments => do
    let options ← consume blank .awaited arguments
    if options.extras.isEmpty then .ok options
    else .error (.usage (.unrecognized options.extras))

end Options
end PairLisp.CommandLine
