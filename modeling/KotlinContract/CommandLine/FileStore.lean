import KotlinContract.CommandLine.Path
import KotlinContract.Digest.Sha256
import KotlinContract.Text.Line
import KotlinContract.Text.Quoted
import KotlinContract.Text.Utf8

/-!
# Files

A store of files as the command line sees it: contents under paths relative to a working
directory. Above a file stand directories, which need not be listed. A route is followed from
directory to directory, so the same file may be written in several ways. Whether something is
there and what its digest is are asked along the tidy route; reading and writing a file follow
the route as it is written.
-/
namespace KotlinContract

/-- What a path leads to. -/
inductive Node where
  /-- A file with its bytes. -/
  | file (bytes : List UInt8)
  /-- A directory. -/
  | directory
  deriving DecidableEq

/-- A store of files. -/
structure FileStore where
  /-- What is stored, each path once. -/
  entries : List (Path × Node) := []
  deriving DecidableEq

/-- Why a file could not be read or written. -/
inductive FileError where
  /-- There is no such file. -/
  | notFound (path : String)
  /-- There is something else where a directory should be made. -/
  | exists (path : String)
  /-- There is a file where a directory should be. -/
  | notADirectory (path : String)
  /-- There is a directory where a file should be. -/
  | isADirectory (path : String)
  deriving DecidableEq

namespace FileError

/-- The number of an error. -/
def number : FileError → Nat
  | .notFound _ => 2
  | .exists _ => 17
  | .notADirectory _ => 20
  | .isADirectory _ => 21

/-- The words for an error. -/
def words : FileError → String
  | .notFound _ => "No such file or directory"
  | .exists _ => "File exists"
  | .notADirectory _ => "Not a directory"
  | .isADirectory _ => "Is a directory"

/-- The path as it was written. -/
def path : FileError → String
  | .notFound path => path
  | .exists path => path
  | .notADirectory path => path
  | .isADirectory path => path

/-- The message of an error. -/
def message (error : FileError) : String :=
  "[Errno " ++ toString error.number ++ "] " ++ error.words ++ ": " ++ Text.quoted error.path

end FileError

namespace FileStore

/-- What is at a path. The working directory and what is above it are directories, and so are
the root and every path that leads on to something. -/
def node? (files : FileStore) (path : Path) : Option Node :=
  match files.entries.lookup path with
  | some node => some node
  | none =>
    if path.isAbove || path = [Path.root] ||
        files.entries.any (fun (other, _) => path.isPrefixOf other) then
      some .directory
    else none

/-- Put something at a path. -/
def put (files : FileStore) (path : Path) (node : Node) : FileStore where
  entries :=
    if files.entries.any (·.1 = path) then
      files.entries.map fun entry => if entry.1 = path then (path, node) else entry
    else files.entries ++ [(path, node)]

/-- What stops a walk before its end. -/
inductive Obstacle where
  /-- There is nothing. -/
  | nothing
  /-- There is a file. -/
  | file
  deriving DecidableEq

/-- The error that an obstacle is. -/
def Obstacle.error (text : String) : Obstacle → FileError
  | .nothing => .notFound text
  | .file => .notADirectory text

/-- Follow segments from a place. Every segment asks for a directory to take it in. -/
def walk (files : FileStore) (path : Path) : List String → Except Obstacle Path
  | [] => .ok path
  | segment :: rest =>
    match files.node? path with
    | some .directory => files.walk (path.step segment) rest
    | some (.file _) => .error .file
    | none => .error .nothing

/-- Follow segments to a directory. -/
def enter (files : FileStore) (path : Path) (segments : List String) : Except Obstacle Path :=
  files.walk path (segments ++ ["."])

/-- A walk that is not stopped ends where its segments lead. -/
theorem walk_eq_ok {files : FileStore} {path place : Path} {segments : List String}
    (walked : files.walk path segments = .ok place) : segments.foldl Path.step path = place := by
  induction segments generalizing path with
  | nil => simpa [walk] using walked
  | cons segment rest hypothesis =>
    simp only [walk] at walked
    split at walked
    · exact hypothesis walked
    · cases walked
    · cases walked

/-- A walk that is not stopped is not stopped along the tidy route either. -/
theorem walk_tidy {files : FileStore} {path place : Path} {segments : List String}
    (walked : files.walk path segments = .ok place) :
    files.walk path (segments.filter (!Path.isIdle ·)) = .ok place := by
  induction segments generalizing path with
  | nil => simpa [walk] using walked
  | cons segment rest hypothesis =>
    simp only [walk] at walked
    split at walked
    next directory =>
      by_cases idle : Path.isIdle segment = true
      · simpa [idle] using hypothesis walked
      · simpa [idle, walk, directory] using hypothesis walked
    · cases walked
    · cases walked

/-- What a route leads to, if it leads anywhere. -/
def at? (files : FileStore) (route : Route) : Option Node :=
  match files.walk route.start route.segments with
  | .ok path => files.node? path
  | .error _ => none

/-- Whether a path in text leads to something. -/
def has (files : FileStore) (text : String) : Bool := (files.at? (Route.ofText text).tidy).isSome

/-- The bytes of the file at a path in text. -/
def read (files : FileStore) (text : String) : Except FileError (List UInt8) :=
  let route := Route.ofText text
  match files.walk route.start route.segments with
  | .error obstacle => .error (obstacle.error text)
  | .ok path =>
    match files.node? path with
    | some (.file bytes) => .ok bytes
    | some .directory => .error (if text = "" then .notFound text else .isADirectory text)
    | none => .error (.notFound text)

/-- Make the directory at the end of a route; the one above it has to be there. -/
def makeLast (files : FileStore) (route : Route) : Except FileError FileStore :=
  match route.segments.getLast? with
  | none => .error (.exists route.text)
  | some last =>
    match files.enter route.start route.segments.dropLast with
    | .error obstacle => .error (obstacle.error route.text)
    | .ok above =>
      if last = Path.up || (files.node? (above.step last)).isSome then
        .error (.exists route.text)
      else .ok (files.put (above.step last) .directory)

/-- Whether a directory is there already; otherwise why it was not made. -/
def settle (files : FileStore) (route : Route) (error : FileError) : Except FileError Unit :=
  if files.at? route = some .directory then .ok () else .error error

/-- How making directories ended. What was made before a failure stays. -/
structure Made where
  /-- The files. -/
  files : FileStore
  /-- Why it failed, if it did. -/
  result : Except FileError Unit

/-- Make the directory at the end of a route and those above it. The segments are given from
the last to the first. -/
def makeAll (files : FileStore) (absolute : Bool) : List String → Made
  | [] => ⟨files, .ok ()⟩
  | last :: above =>
    let route : Route := ⟨absolute, (last :: above).reverse⟩
    match files.makeLast route with
    | .ok files => ⟨files, .ok ()⟩
    | .error (.notFound _) =>
      let made := files.makeAll absolute above
      match made.result with
      | .error error => ⟨made.files, .error error⟩
      | .ok () =>
        match made.files.makeLast route with
        | .ok files => ⟨files, .ok ()⟩
        | .error (.notFound text) => ⟨made.files, .error (.notFound text)⟩
        | .error error => ⟨made.files, made.files.settle route error⟩
    | .error error => ⟨files, files.settle route error⟩

/-- Make the directory that the file at a path in text is in, and those above it. -/
def makeParent (files : FileStore) (text : String) : Made :=
  let route := (Route.ofText text).tidy
  files.makeAll route.absolute route.segments.dropLast.reverse

/-- Write a file; the directory that it is in has to be there. -/
def write (files : FileStore) (text : String) (bytes : List UInt8) :
    Except FileError FileStore :=
  let route := Route.ofText text
  let slashed := route.segments.getLast? = some ""
  let segments := (route.segments.reverse.dropWhile (· = "")).reverse
  let last := segments.getLastD ""
  match files.enter route.start segments.dropLast with
  | .error obstacle => .error (obstacle.error text)
  | .ok above =>
    let path := above.step last
    if slashed || Path.isIdle last || last = Path.up || files.node? path = some .directory then
      .error (.isADirectory text)
    else .ok (files.put path (.file bytes))

/-- The characters that bytes stand for, with line ends unified. -/
def textOf (bytes : List UInt8) : Except Text.Utf8.Fault (List Char) :=
  (Text.Utf8.decode bytes).map Text.unifyLineEnds

/-- The digest of the text of a file; there is none if the path does not lead to a file. -/
def digest (files : FileStore) (text : String) : Except Text.Utf8.Fault (Option String) :=
  match files.at? (Route.ofText text).tidy with
  | some (.file bytes) =>
    (textOf bytes).map fun chars => some (Digest.hexDigest (String.ofList chars))
  | _ => .ok none

end FileStore

end KotlinContract
