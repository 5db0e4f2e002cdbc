import KotlinContract.CommandLine.Run
import KotlinContract.Text.Separated
import Std.Time.DateTime

/-!
# The program

Looks at the files that the arguments name, runs the command line on them, prints what it says
and writes the files that it changed. The moment of a run is a text in universal time, as reports
have it: date, time and offset, with microseconds unless there are none.
-/
namespace KotlinContract.CommandLine

/-- A number in decimal digits with zeros in front of it up to a width. -/
def padded (width number : Nat) : String :=
  let digits := (toString number).toList
  String.ofList (List.replicate (width - digits.length) '0' ++ digits)

/-- A moment: a date and the microseconds since its midnight. -/
structure Instant where
  /-- The year. -/
  year : Nat
  /-- The month, counted from one. -/
  month : Nat
  /-- The day of the month, counted from one. -/
  day : Nat
  /-- The microseconds since midnight. -/
  microseconds : Nat
  deriving DecidableEq

/-- The text of an instant. -/
def Instant.text (instant : Instant) : String :=
  let seconds := instant.microseconds / 1000000
  let fraction := instant.microseconds % 1000000
  Text.join "-" [padded 4 instant.year, padded 2 instant.month, padded 2 instant.day] ++ "T" ++
    Text.join ":"
      [padded 2 (seconds / 3600), padded 2 (seconds / 60 % 60), padded 2 (seconds % 60)] ++
    (if fraction = 0 then "" else "." ++ padded 6 fraction) ++ "+00:00"

/-- What is at a path, if anything is. -/
def observe (path : String) : IO (Option Node) := do
  try
    return some (.file (← IO.FS.readBinFile path).toList)
  catch
    | .noFileOrDirectory .. => return none
    | .inappropriateType .. => return some .directory
    | error => throw error

/-- The store with what is found on the way along segments from a place. -/
def observeAlong (files : FileStore) (path : Path) : List String → IO FileStore
  | [] => return files
  | segment :: rest => do
    let next := path.step segment
    if files.node? path != some .directory then return files
    match ← observe next.text with
    | some node => observeAlong (files.put next node) next rest
    | none => return files

/-- The files that the paths lead to, and what is on the way. -/
def observeAll (paths : List String) : IO FileStore :=
  paths.foldlM (fun files text =>
    let route := (Route.ofText text).tidy
    observeAlong files route.start route.segments) {}

/-- Bring about what a run has changed. -/
def store (before after : FileStore) : IO Unit :=
  after.entries.forM fun (path, node) =>
    if before.node? path = some node then pure ()
    else
      match node with
      | .file bytes => IO.FS.writeBinFile (Path.text path) ⟨bytes.toArray⟩
      | .directory => IO.FS.createDirAll (Path.text path)

/-- The present moment. -/
def present : IO Instant := do
  let now ← Std.Time.Timestamp.now
  let microseconds := now.toNanosecondsSinceUnixEpoch.val / 1000
  let day : Int := 86400000000
  let date := Std.Time.PlainDate.ofEpochDay ⟨microseconds / day⟩
  return {
    year := date.year.toInt.toNat
    month := date.month.val.toNat
    day := date.day.val.toNat
    microseconds := (microseconds % day).toNat }

/-- The files that arguments name. -/
def namedFiles (arguments : List String) : List String :=
  match parse arguments with
  | .ok (.render file json _) => file :: json.toList
  | _ => []

end KotlinContract.CommandLine

open KotlinContract CommandLine in
/-- Run the program with the arguments it was started with. -/
def main (arguments : List String) : IO UInt32 := do
  let before ← observeAll (namedFiles arguments)
  let outcome := run arguments before (← present).text
  store before outcome.files
  IO.print outcome.output
  IO.eprint outcome.errors
  match outcome.exit with
  | .code code => return UInt32.ofNat code
  | .failed error =>
    IO.eprintln error.message
    return 1
