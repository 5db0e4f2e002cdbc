import KotlinContract.Decimal.Real
import KotlinContract.Json.Value
import KotlinContract.Text.Hex

/-!
# Writing JSON

A value is written on one line, or with every item and member on a line of its own and so many
spaces per level. Characters beyond ASCII are written as escapes of UTF-16 units in lower case.
-/
namespace KotlinContract.Json

/-- How a value is laid out: on one line, or with so many spaces per level. -/
structure Layout where
  /-- Spaces per level, if lines are broken at all. -/
  indent : Option Nat := none
  deriving DecidableEq

/-- The text after the opening bracket and before each item, at a level. -/
def Layout.newline (layout : Layout) (depth : Nat) : List Char :=
  match layout.indent with
  | none => []
  | some width => '\n' :: List.replicate (width * depth) ' '

/-- The text between two items, at their level. -/
def Layout.separator (layout : Layout) (depth : Nat) : List Char :=
  match layout.indent with
  | none => [',', ' ']
  | some _ => ',' :: layout.newline depth

/-- One UTF-16 unit as an escape. -/
def escapedUnit (unit : Nat) : List Char := '\\' :: 'u' :: Text.hexDigits 4 unit

/-- One character inside a written text. -/
def escapedChar (c : Char) : List Char :=
  if c = '\x22' then ['\\', '\x22']
  else if c = '\\' then ['\\', '\\']
  else if c = '\n' then ['\\', 'n']
  else if c = '\r' then ['\\', 'r']
  else if c = '\t' then ['\\', 't']
  else if c = '\x0c' then ['\\', 'f']
  else if c = '\x08' then ['\\', 'b']
  else if ' ' ≤ c && c ≤ '~' then [c]
  else if c.toNat < 0x10000 then escapedUnit c.toNat
  else
    escapedUnit (0xd800 + (c.toNat - 0x10000) / 0x400) ++
      escapedUnit (0xdc00 + (c.toNat - 0x10000) % 0x400)

/-- A text with its quotes. -/
def writtenText (text : String) : List Char :=
  '\x22' :: text.toList.flatMap escapedChar ++ ['\x22']

/-- A floating-point number. -/
def writtenReal (number : Float) : List Char :=
  match Decimal.Parts.ofFloat number with
  | .nan => "NaN".toList
  | .infinite false => "Infinity".toList
  | .infinite true => "-Infinity".toList
  | parts => parts.chars

mutual

/-- The characters of a value that stands at a level. -/
def written (layout : Layout) (depth : Nat) : Json → List Char
  | .null => "null".toList
  | .boolean true => "true".toList
  | .boolean false => "false".toList
  | .integer value => (Decimal.integerText value).toList
  | .real value => writtenReal value
  | .text value => writtenText value
  | .array [] => "[]".toList
  | .array (item :: items) =>
    '[' :: layout.newline (depth + 1) ++ written layout (depth + 1) item ++
      writtenItems layout (depth + 1) items ++ layout.newline depth ++ [']']
  | .object [] => "\x7b\x7d".toList
  | .object ((key, value) :: members) =>
    '\x7b' :: layout.newline (depth + 1) ++ writtenText key ++ ": ".toList ++
      written layout (depth + 1) value ++ writtenMembers layout (depth + 1) members ++
      layout.newline depth ++ ['\x7d']

/-- The characters of the items after the first one, with their separators. -/
def writtenItems (layout : Layout) (depth : Nat) : List Json → List Char
  | [] => []
  | item :: items =>
    layout.separator depth ++ written layout depth item ++ writtenItems layout depth items

/-- The characters of the members after the first one, with their separators. -/
def writtenMembers (layout : Layout) (depth : Nat) : List (String × Json) → List Char
  | [] => []
  | (key, value) :: members =>
    layout.separator depth ++ writtenText key ++ ": ".toList ++ written layout depth value ++
      writtenMembers layout depth members

end

/-- The text of a value. -/
def render (layout : Layout) (value : Json) : String := String.ofList (written layout 0 value)

end KotlinContract.Json
