import KotlinContract.Text.Quoted
import KotlinContract.Text.Separated

/-!
# Arguments of the command line

The command line takes one file and three options. An option may be given by any beginning of
its long name that no other option shares, with its value after an equals sign or as the next
argument, and short options may be run together. After a double dash nothing is an option. A
double dash that was taken with the file is dropped.

Arguments are first told apart one by one and then taken from left to right. An option that is
not known, and every argument after the file, is left over; leftovers are an error only if
nothing else is wrong.
-/
namespace KotlinContract.CommandLine

/-- The options of the program. -/
inductive Choice where
  /-- Show the help text. -/
  | help
  /-- Write a report to a path. -/
  | json
  /-- Tell about progress. -/
  | verbose
  deriving DecidableEq

/-- The names of an option, the short one first. -/
def Choice.names : Choice → List String
  | .help => ["-h", "--help"]
  | .json => ["--json"]
  | .verbose => ["-v", "--verbose"]

/-- Whether an option takes a value. -/
def Choice.takesValue : Choice → Bool
  | .json => true
  | _ => false

/-- Every name with its option. -/
def allNames : List (String × Choice) :=
  [Choice.help, .json, .verbose].flatMap fun choice => choice.names.map fun name => (name, choice)

/-- Why arguments are refused. -/
inductive UsageError where
  /-- There is no file. -/
  | fileMissing
  /-- Some arguments were left over. -/
  | leftOver (arguments : List String)
  /-- An option lacks its value. -/
  | valueMissing (choice : Choice)
  /-- An option has a value that it does not take. -/
  | valueIgnored (choice : Choice) (value : String)
  /-- A beginning of a name is shared by several options. -/
  | ambiguous (argument : String) (names : List String)
  deriving DecidableEq

/-- The message for refused arguments. -/
def UsageError.message : UsageError → String
  | .fileMissing => "the following arguments are required: file"
  | .leftOver arguments => "unrecognized arguments: " ++ Text.join " " arguments
  | .valueMissing choice =>
    "argument " ++ Text.join "/" choice.names ++ ": expected one argument"
  | .valueIgnored choice value =>
    "argument " ++ Text.join "/" choice.names ++ ": ignored explicit argument " ++
      Text.quoted value
  | .ambiguous argument names =>
    "ambiguous option: " ++ argument ++ " could match " ++ Text.join ", " names

/-- What an argument is. -/
inductive Argument where
  /-- A value. -/
  | value (text : String)
  /-- The first double dash. -/
  | dashes
  /-- An option that is not known. -/
  | unknown (text : String)
  /-- An option without a value of its own. -/
  | plain (choice : Choice)
  /-- An option with its value after an equals sign. -/
  | assigned (choice : Choice) (value : String)
  /-- A short option with more letters after it. -/
  | bundle (choice : Choice) (letters : List Char)
  deriving DecidableEq

/-- Whether characters are those of a negative number, whole or with a point. -/
def isNegativeNumber : List Char → Bool
  | '-' :: unsigned =>
    let (whole, rest) := unsigned.span Char.isDigit
    match rest with
    | [] => !whole.isEmpty
    | '.' :: fraction => !fraction.isEmpty && fraction.all Char.isDigit
    | _ => false
  | _ => false

/-- What an argument is that begins with a dash and is not the name of an option. -/
def unnamedArgument (text : String) : Argument :=
  let chars := text.toList
  if isNegativeNumber chars || chars.contains ' ' then .value text else .unknown text

/-- The name before the first equals sign and the value after it, if there is an equals sign. -/
def divided (chars : List Char) : String × Option String :=
  match chars.span (· ≠ '=') with
  | (name, _ :: value) => (String.ofList name, some (String.ofList value))
  | (name, []) => (String.ofList name, none)

/-- An option with or without a value after an equals sign. -/
def named (choice : Choice) : Option String → Argument
  | some value => .assigned choice value
  | none => .plain choice

/-- What a single argument is. -/
def classify (text : String) : Except UsageError Argument :=
  match text.toList with
  | [] => .ok (.value text)
  | ['-'] => .ok (.value text)
  | '-' :: second :: letters =>
    let (name, value) := divided text.toList
    match allNames.lookup text, allNames.lookup name with
    | some choice, _ => .ok (.plain choice)
    | none, some choice => .ok (named choice value)
    | none, none =>
      if second = '-' then
        match allNames.filter fun (known, _) => name.toList.isPrefixOf known.toList with
        | [] => .ok (unnamedArgument text)
        | [(_, choice)] => .ok (named choice value)
        | several => .error (.ambiguous text (several.map (·.1)))
      else
        match allNames.lookup (String.ofList ['-', second]) with
        | some choice => .ok (.bundle choice letters)
        | none => .ok (unnamedArgument text)
  | _ => .ok (.value text)

/-- What the arguments are, each in its place. -/
def classifyAll : List String → Except UsageError (List Argument)
  | [] => .ok []
  | "--" :: rest => .ok (.dashes :: rest.map .value)
  | text :: rest => do
    let argument ← classify text
    let arguments ← classifyAll rest
    return argument :: arguments

/-- What the arguments ask for, as far as they have been taken. -/
structure Taken where
  /-- The file. -/
  file : Option String := none
  /-- Where to write a report. -/
  json : Option String := none
  /-- Whether to tell about progress. -/
  verbose : Bool := false
  /-- Whether the help text was asked for. -/
  help : Bool := false
  /-- The arguments that were left over. -/
  leftOver : List String := []
  deriving DecidableEq

namespace Taken

/-- Take an option that has no value. -/
def set (taken : Taken) : Choice → Taken
  | .help => { taken with help := true }
  | .json => taken
  | .verbose => { taken with verbose := true }

/-- Leave an argument over. -/
def leave (taken : Taken) (text : String) : Taken :=
  { taken with leftOver := taken.leftOver ++ [text] }

end Taken

/-- Options without values that are run together after a first one. The first letter that is no
option leaves the letters from there on over. -/
def takeBundle (taken : Taken) (choice : Choice) :
    List Char → Except UsageError (Taken ⊕ (Taken × Choice))
  | [] => .ok (.inr (taken, choice))
  | '-' :: letters => .error (.valueIgnored choice (String.ofList ('-' :: letters)))
  | letter :: letters =>
    let taken := taken.set choice
    match allNames.lookup (String.ofList ['-', letter]) with
    | none => .ok (.inl (taken.leave (String.ofList ('-' :: letter :: letters))))
    | some next =>
      match letters with
      | '=' :: value => .error (.valueIgnored next (String.ofList value))
      | letters => takeBundle taken next letters

/-- Take arguments from left to right, and stop where the help text is asked for. -/
def takeAll (taken : Taken) : List Argument → Except UsageError Taken
  | [] => .ok taken
  | .value text :: .dashes :: rest =>
    if taken.file.isNone then takeAll { taken with file := some text } rest
    else takeAll ((taken.leave text).leave "--") rest
  | .value text :: rest =>
    if taken.file.isNone then takeAll { taken with file := some text } rest
    else takeAll (taken.leave text) rest
  | .dashes :: .value text :: rest =>
    if taken.file.isNone then takeAll { taken with file := some text } rest
    else takeAll ((taken.leave "--").leave text) rest
  | .dashes :: rest => takeAll (taken.leave "--") rest
  | .unknown text :: rest => takeAll (taken.leave text) rest
  | .plain .json :: .value text :: rest => takeAll { taken with json := some text } rest
  | .plain choice :: rest =>
    if choice.takesValue then .error (.valueMissing choice)
    else if choice = .help then .ok (taken.set .help)
    else takeAll (taken.set choice) rest
  | .assigned choice value :: rest =>
    if choice.takesValue then takeAll { taken with json := some value } rest
    else .error (.valueIgnored choice value)
  | .bundle choice letters :: rest => do
    match ← takeBundle taken choice letters with
    | .inl taken => if taken.help then return taken else takeAll taken rest
    | .inr (taken, last) =>
      let taken := taken.set last
      if taken.help then return taken else takeAll taken rest

/-- What the program is asked to do. -/
inductive Request where
  /-- Show the help text. -/
  | help
  /-- Render a file, possibly with a report, possibly telling about progress. -/
  | render (file : String) (json : Option String) (verbose : Bool)
  deriving DecidableEq

/-- What arguments ask for. -/
def parse (arguments : List String) : Except UsageError Request := do
  let taken ← takeAll {} (← classifyAll arguments)
  if taken.help then return .help
  match taken.file with
  | none => throw .fileMissing
  | some file =>
    if taken.leftOver.isEmpty then return .render file taken.json taken.verbose
    else throw (.leftOver taken.leftOver)

/-- The name of the program. -/
def programName : String := "contractpoet"

/-- The line that shows how the program is called. -/
def usage : String := "usage: " ++ programName ++ " [-h] [--json JSON_OUTPUT] [-v] file\n"

/-- The text for refused arguments. -/
def UsageError.text (error : UsageError) : String :=
  usage ++ programName ++ ": error: " ++ error.message ++ "\n"

/-- The help text. -/
def helpText : String :=
  Text.join "\n"
    [usage,
      "Render functions with their contract blocks",
      "",
      "positional arguments:",
      "  file                JSON document describing a function and its contract",
      "",
      "options:",
      "  -h, --help          show this help message and exit",
      "  --json JSON_OUTPUT  Write a JSON report to this path",
      "  -v, --verbose       Verbose output",
      "",
      "Examples:",
      "    # Print the function with its contract",
      "    contractpoet examples/calls_in_place.json",
      "",
      "    # Also write a JSON report with integrity hashes",
      "    contractpoet examples/calls_in_place.json --json out/report.json -v",
      "        ",
      ""]

end KotlinContract.CommandLine
