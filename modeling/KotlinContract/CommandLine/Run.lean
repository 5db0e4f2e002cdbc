import KotlinContract.CommandLine.Arguments
import KotlinContract.CommandLine.FileStore
import KotlinContract.Document.Parse
import KotlinContract.Json.Reader
import KotlinContract.Report

/-!
# Running the command line

A run is a function of the arguments, the files and the time. All documents of a file are read
before any is rendered, and all are rendered before anything is written. Writing a report makes
directories, empties the report's own file and only then takes the digest of the document file;
whatever was done when it fails stays done.
-/
namespace KotlinContract.CommandLine

/-- Why a run is refused. -/
inductive Refusal where
  /-- A document or its contract is refused. -/
  | document (error : Error)
  /-- The file is not JSON. -/
  | notJson (path : String) (flaw : Json.Flaw) (text : List Char) (left : Nat)
  /-- A number in the file has too many digits. -/
  | tooManyDigits (count : Nat)
  /-- The file is not UTF-8. -/
  | notUtf8 (fault : Text.Utf8.Fault)

/-- The message for a refused run. -/
def Refusal.message : Refusal → String
  | .document error => error.message
  | .notJson path flaw text left =>
    "Invalid JSON in " ++ path ++ ": " ++ Json.flawMessage flaw text left
  | .tooManyDigits count => (Json.Failure.tooManyDigits count).message []
  | .notUtf8 fault => fault.message

/-- Why a run ends early. -/
inductive Stop where
  /-- The run is refused. -/
  | refused (refusal : Refusal)
  /-- A file cannot be read or written. -/
  | file (error : FileError)

/-- The JSON value in the characters of a file. -/
def readJson (path : String) (text : List Char) : Except Refusal Json :=
  match Json.readChars text with
  | .ok value => .ok value
  | .error (.malformed flaw left) => .error (.notJson path flaw text left)
  | .error (.tooManyDigits count) => .error (.tooManyDigits count)

/-- The documents in a value: the items of a list, or the value itself. -/
def documentsOf : Json → List Json
  | .array items => items
  | value => [value]

/-- The functions and contracts in the bytes of a file. -/
def parseBytes (path : String) (bytes : List UInt8) :
    Except Refusal (List (Declaration × Contract)) := do
  let text ← match FileStore.textOf bytes with
    | .ok text => pure text
    | .error fault => throw (.notUtf8 fault)
  let value ← readJson path text
  match (documentsOf value).mapM Document.parse with
  | .ok found => return found
  | .error error => throw (.document error)

/-- The functions and contracts in a file. -/
def parseFile (files : FileStore) (path : String) :
    Except Stop (List (Declaration × Contract)) :=
  match files.read path with
  | .error error => .error (.file error)
  | .ok bytes =>
    match parseBytes path bytes with
    | .error refusal => .error (.refused refusal)
    | .ok found => .ok found

/-- What a run has done so far. -/
structure Progress where
  /-- The files. -/
  files : FileStore
  /-- What was told. -/
  told : String := ""

/-- A line of progress. -/
def progressLine (text : String) : String := "[Render] " ++ text ++ "\n"

/-- Tell about progress, if that was asked for. -/
def Progress.tell (progress : Progress) (verbose : Bool) (text : String) : Progress :=
  if verbose then { progress with told := progress.told ++ progressLine text } else progress

/-- How a run ended. -/
structure Ended (α : Type) where
  /-- What was done until then. -/
  progress : Progress
  /-- The result, or why there is none. -/
  result : Except Stop α

/-- Render functions one after the other into a report and a list of sources. -/
def renderAll (verbose : Bool) (progress : Progress) (report : Report) :
    List (Declaration × Contract) → Ended (Report × List String)
  | [] => ⟨progress, .ok (report, [])⟩
  | (function, contract) :: rest =>
    match function.attach contract with
    | .error error => ⟨progress, .error (.refused (.document error))⟩
    | .ok attached =>
      let source := attached.source
      let progress := progress.tell verbose
        (function.name ++ ": " ++ toString contract.effects.length ++ " effect(s)")
      match report.add function contract source with
      | .error error => ⟨progress, .error (.refused (.document error))⟩
      | .ok report =>
        let ended := renderAll verbose progress report rest
        ⟨ended.progress, ended.result.map fun (report, sources) => (report, source :: sources)⟩

/-- How reports are laid out in files. -/
def reportLayout : Json.Layout := { indent := some 2 }

/-- How writing a report ended. What was made or emptied before a failure stays so. -/
structure Written where
  /-- The files. -/
  files : FileStore
  /-- Why it failed, if it did. -/
  result : Except Stop Unit

/-- Write a report to a file, in a directory that is made if it is missing. -/
def writeReport (files : FileStore) (report : Report) (path time : String) : Written :=
  let made := files.makeParent path
  match made.result with
  | .error error => ⟨made.files, .error (.file error)⟩
  | .ok () =>
    match made.files.write path [] with
    | .error error => ⟨made.files, .error (.file error)⟩
    | .ok opened =>
      match opened.digest report.sourceFile with
      | .error fault => ⟨opened, .error (.refused (.notUtf8 fault))⟩
      | .ok digest =>
        match opened.write path (report.text reportLayout time digest).toUTF8.toList with
        | .error error => ⟨opened, .error (.file error)⟩
        | .ok files => ⟨files, .ok ()⟩

/-- Render the functions of a file, and write a report if a path for one is given. -/
def render (files : FileStore) (time file : String) (json : Option String) (verbose : Bool) :
    Ended (List String) :=
  let progress : Progress := { files }
  match parseFile files file with
  | .error stop => ⟨progress, .error stop⟩
  | .ok found =>
    let progress := progress.tell verbose
      ("Found " ++ toString found.length ++ " function(s) in " ++ file)
    let ended := renderAll verbose progress { sourceFile := file } found
    match ended.result, json.filter (· ≠ "") with
    | .error stop, _ => ⟨ended.progress, .error stop⟩
    | .ok (_, sources), none => ⟨ended.progress, .ok sources⟩
    | .ok (report, sources), some path =>
      let written := writeReport ended.progress.files report path time
      let progress := { ended.progress with files := written.files }
      match written.result with
      | .error stop => ⟨progress, .error stop⟩
      | .ok () => ⟨progress.tell verbose ("Wrote JSON report to " ++ path), .ok sources⟩

/-- How the program ends. -/
inductive Exit where
  /-- With a code. -/
  | code (code : Nat)
  /-- Because a file cannot be read or written. -/
  | failed (error : FileError)
  deriving DecidableEq

/-- What a run leaves behind. -/
structure Outcome where
  /-- How the program ended. -/
  exit : Exit
  /-- What it printed. -/
  output : String
  /-- What it printed about errors. -/
  errors : String
  /-- The files. -/
  files : FileStore

/-- The line for an error. -/
def errorLine (message : String) : String := "Error: " ++ message ++ "\n"

/-- Run the program. -/
def run (arguments : List String) (files : FileStore) (time : String) : Outcome :=
  match parse arguments with
  | .error error => { exit := .code 2, output := "", errors := error.text, files }
  | .ok .help => { exit := .code 0, output := helpText, errors := "", files }
  | .ok (.render file json verbose) =>
    if files.has file then
      let ended := render files time file json verbose
      let output := ended.progress.told
      let files := ended.progress.files
      match ended.result with
      | .ok sources =>
        { exit := .code 0, output := output ++ Text.join "\n" sources, errors := "", files }
      | .error (.refused refusal) =>
        { exit := .code 1, output, errors := errorLine refusal.message, files }
      | .error (.file error) => { exit := .failed error, output, errors := "", files }
    else
      { exit := .code 1, output := "", errors := errorLine ("File not found: " ++ file), files }

end KotlinContract.CommandLine
