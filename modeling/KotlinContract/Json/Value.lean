/-!
# JSON values

A JSON value keeps whole numbers and floating-point numbers apart, because documents are read
differently depending on which of the two was written. The members of an object are kept in
order; where a key is looked up, its first member counts.

Tags are values that a caller attaches to what it builds, one for each kind of value. They are
carried along and take no part in rendering or equality.
-/
namespace KotlinContract

/-- A JSON value. -/
inductive Json where
  /-- The null value. -/
  | null
  /-- A truth value. -/
  | boolean (value : Bool)
  /-- A number written without fraction and exponent. -/
  | integer (value : Int)
  /-- Any other number. -/
  | real (value : Float)
  /-- A text. -/
  | text (value : String)
  /-- A list of values. -/
  | array (items : List Json)
  /-- Values under keys, in order. -/
  | object (members : List (String × Json))

namespace Json

instance : Inhabited Json := ⟨.null⟩

/-- The kinds of JSON values. -/
inductive Kind where
  /-- The null value. -/
  | null
  /-- Truth values. -/
  | boolean
  /-- Whole numbers. -/
  | integer
  /-- Floating-point numbers. -/
  | real
  /-- Texts. -/
  | text
  /-- Lists. -/
  | array
  /-- Objects. -/
  | object
  deriving DecidableEq

/-- The word for a kind in messages. -/
def Kind.word : Kind → String
  | .null => "NoneType"
  | .boolean => "bool"
  | .integer => "int"
  | .real => "float"
  | .text => "str"
  | .array => "list"
  | .object => "dict"

/-- The kind of a value. -/
def kind : Json → Kind
  | .null => .null
  | .boolean _ => .boolean
  | .integer _ => .integer
  | .real _ => .real
  | .text _ => .text
  | .array _ => .array
  | .object _ => .object

/-- The members of an object; any other value has none. -/
def members : Json → List (String × Json)
  | .object members => members
  | _ => []

/-- The items of a list; any other value has none. -/
def items : Json → List Json
  | .array items => items
  | _ => []

/-- The value under a key, if there is one. -/
def member? (members : List (String × Json)) (key : String) : Option Json := members.lookup key

/-- Put a value under a key: in the place of the key's first member, or at the end. -/
def insertMember (key : String) (value : Json) : List (String × Json) → List (String × Json)
  | [] => [(key, value)]
  | (name, old) :: rest =>
    if name = key then (name, value) :: rest else (name, old) :: insertMember key value rest

/-- The member that was put is the one that is found. -/
theorem member?_insertMember (key : String) (value : Json) (members : List (String × Json)) :
    member? (insertMember key value members) key = some value := by
  induction members with
  | nil => simp [insertMember, member?]
  | cons first rest hypothesis =>
    obtain ⟨name, old⟩ := first
    by_cases same : name = key
    · simp [insertMember, member?, same]
    · have differs : (key == name) = false := by simpa using fun h => same h.symm
      simpa [insertMember, member?, same, List.lookup_cons, differs] using hypothesis

end Json

/-- Values under kinds, in the order in which the kinds were first used. -/
structure Tags where
  /-- The kinds and their values. -/
  entries : List (Json.Kind × Json) := []

namespace Tags

/-- No tags. -/
def empty : Tags := {}

instance : Inhabited Tags := ⟨empty⟩

/-- The kinds under which there is a value. -/
def kinds (tags : Tags) : List Json.Kind := tags.entries.map (·.1)

/-- The value under a kind, if there is one. -/
def find? (tags : Tags) (kind : Json.Kind) : Option Json := tags.entries.lookup kind

/-- Put a value under a kind, in place of the one that is there. -/
def insert (tags : Tags) (kind : Json.Kind) (value : Json) : Tags where
  entries :=
    if kind ∈ tags.kinds then
      tags.entries.map fun (other, old) => (other, if other = kind then value else old)
    else tags.entries ++ [(kind, value)]

end Tags

end KotlinContract
