import KotlinContract.Text.Separated

/-!
# Paths

A route is a path as it is written: where it starts and the segments that follow, divided by
slashes. Empty segments and single points lead nowhere else, and two points lead back up, but
all of them ask for a directory to be there. A path is where a route ends: the names on the
way from the start, or from the places above it.
-/
namespace KotlinContract

/-- The names that lead to a place. They may begin with the root, or with the way up from the
working directory. -/
abbrev Path := List String

namespace Path

/-- The name of the place that absolute routes start at. -/
def root : String := "/"

/-- The segment that leads up. -/
def up : String := ".."

/-- Whether a segment leads nowhere else. -/
def isIdle (segment : String) : Bool := segment = "" || segment = "."

/-- Whether the place is above the working directory. -/
def isAbove (path : Path) : Bool := path.all (· = up)

/-- The place above. Nothing is above the root. -/
def parent (path : Path) : Path :=
  if path.isAbove then up :: path
  else if path = [root] then path
  else path.dropLast

/-- The place that a segment leads to. -/
def step (path : Path) (segment : String) : Path :=
  if isIdle segment then path
  else if segment = up then path.parent
  else path ++ [segment]

/-- A segment that leads nowhere else leads to the same place. -/
@[simp] theorem step_of_isIdle {path : Path} {segment : String} (idle : isIdle segment = true) :
    path.step segment = path := by
  simp [step, idle]

/-- Names as text, from the working directory or from the root. -/
def joined (absolute : Bool) (names : List String) : String :=
  let text := Text.join "/" names
  if absolute then root ++ text else if text = "" then "." else text

/-- The text of a path. -/
def text (path : Path) : String :=
  match path with
  | [] => joined false []
  | first :: rest => if first = root then joined true rest else joined false path

end Path

/-- A path as it is written. -/
structure Route where
  /-- Whether it starts at the root. -/
  absolute : Bool
  /-- The segments that follow. -/
  segments : List String
  deriving DecidableEq

namespace Route

/-- The route that a text describes, segment by segment. -/
def ofText (text : String) : Route where
  absolute := text.toList.head? = some '/'
  segments := Text.split '/' text

/-- The route without the segments that lead nowhere else. -/
def tidy (route : Route) : Route :=
  { route with segments := route.segments.filter (!Path.isIdle ·) }

/-- The place that a route starts at. -/
def start (route : Route) : Path := if route.absolute then [Path.root] else []

/-- The place that a route ends at if there are directories all along it. -/
def stop (route : Route) : Path := route.segments.foldl Path.step route.start

/-- The text of a route. -/
def text (route : Route) : String := Path.joined route.absolute route.segments

end Route

end KotlinContract
