import KotlinContract.Decimal.Real
import KotlinContract.Literal
import KotlinContract.Schema.Checked
import KotlinContract.Text.CharacterClass

/-!
# Scalars of documents

Texts, words, truth values, whole numbers and constants. Truth values and whole numbers are
read generously: numbers and texts may stand for either. Where that is not wanted, the exact
readers take the JSON value of the kind and nothing else.
-/
namespace KotlinContract.Schema

/-- A text. -/
def text : Json → Checked String
  | .text value => .valid value
  | _ => .fault .notAText

/-- One of several words. -/
def word {α : Type} (ofWord? : String → Option α) : Json → Checked α
  | .text value =>
    match ofWord? value with
    | some found => .valid found
    | none => .fault .unknownWord
  | _ => .fault .unknownWord

/-- A character with the small letter of ASCII in place of a capital one. -/
def lowerChars (chars : List Char) : List Char := chars.map Char.toLower

/-- The texts that stand for true. -/
def trueWords : List String := ["1", "t", "true", "y", "yes", "on"]

/-- The texts that stand for false. -/
def falseWords : List String := ["0", "f", "false", "n", "no", "off"]

/-- The truth value that a text stands for, in letters of either case. -/
def booleanOfText? (value : String) : Option Bool :=
  let lowered := String.ofList (lowerChars value.toList)
  if lowered ∈ trueWords then some true
  else if lowered ∈ falseWords then some false
  else none

/-- The least number that is too great for 64 bits with a sign. -/
def bound64 : Int := 9223372036854775808

/-- Whether a whole number fits into 64 bits with a sign. -/
def fits64 (value : Int) : Bool := -bound64 ≤ value && value < bound64

/-- Whether a floating-point number of this whole value is taken for a whole number; the least
number that fits into 64 bits is not. -/
def isSafeReal (value : Int) : Bool := -bound64 < value && value < bound64

/-- The whole number that a floating-point number is, or what hinders it from being one. -/
inductive Whole where
  /-- It is this whole number. -/
  | exact (value : Int)
  /-- It has a fractional part. -/
  | fractional
  /-- It is infinite or not a number. -/
  | notFinite

/-- The whole number that a floating-point number is. -/
def wholeOfReal (value : Float) : Whole :=
  match Decimal.Parts.ofFloat value with
  | .nan => .notFinite
  | .infinite _ => .notFinite
  | .zero _ => .exact 0
  | .finite negative significand exponent =>
    let scale := Nat.pow 2 exponent.natAbs
    if exponent < 0 && significand % scale ≠ 0 then .fractional
    else
      let size : Int := if exponent < 0 then significand / scale else significand * scale
      .exact (if negative then -size else size)

/-- A truth value, or a number or text that stands for one. -/
def boolean : Json → Checked Bool
  | .boolean value => .valid value
  | .integer value =>
    if value = 0 then .valid false
    else if value = 1 then .valid true
    else if fits64 value then .fault .unreadableBoolean
    else .fault .notABoolean
  | .real value =>
    match wholeOfReal value with
    | .exact 0 => .valid false
    | .exact 1 => .valid true
    | _ => .fault .notABoolean
  | .text value =>
    match booleanOfText? value with
    | some found => .valid found
    | none => .fault .unreadableBoolean
  | _ => .fault .notABoolean

/-- The digits of a text in which single underscores may stand between digits. -/
def digitGroups? : List Char → Option (List Char)
  | [] => none
  | [digit] => if digit.isDigit then some [digit] else none
  | digit :: '_' :: rest =>
    if digit.isDigit then (digitGroups? rest).map (digit :: ·) else none
  | digit :: rest => if digit.isDigit then (digitGroups? rest).map (digit :: ·) else none

/-- The characters without the point and zeros at their end, if they have both. -/
def dropZeroFraction (chars : List Char) : List Char :=
  let (whole, fraction) := chars.span (· ≠ '.')
  match fraction with
  | '.' :: zeros => if !zeros.isEmpty && zeros.all (· == '0') then whole else chars
  | _ => chars

/-- The whole number that a text stands for: an optional sign, digits, and possibly a point and
zeros, with white space around them. Zeros in front are digits like any others: some readers skip
them before they look for a sign and for underscores, and so take `0__1` and `0-1` for numbers,
which are none here. Nor is there a limit on the length of the text, as some readers have. -/
def integerOfText? (value : String) : Option Int :=
  let trimmed := Text.trimWhere Text.isSpace value.toList
  let (negative, unsigned) := match trimmed with
    | '-' :: rest => (true, rest)
    | '+' :: rest => (false, rest)
    | _ => (false, trimmed)
  (digitGroups? (dropZeroFraction unsigned)).map fun digits =>
    let size : Int := digits.foldl (fun total digit => total * 10 + (digit.toNat - 0x30)) 0
    if negative then -size else size

/-- A whole number, or a number, truth value or text that stands for one. -/
def integer : Json → Checked Int
  | .integer value => .valid value
  | .boolean value => .valid (if value then 1 else 0)
  | .real value =>
    match wholeOfReal value with
    | .exact found => if isSafeReal found then .valid found else .fault .oversized
    | .fractional => .fault .fractional
    | .notFinite => .fault .notFinite
  | .text value =>
    match integerOfText? value with
    | some found => .valid found
    | none => .fault .unreadableInteger
  | _ => .fault .notAnInteger

/-- A whole number and nothing that stands for one. -/
def exactInteger : Json → Checked Int
  | .integer value => .valid value
  | _ => .fault .notAnInteger

/-- The faults of a value that is none of the kinds of constants, one for each kind. -/
def notAConstant : List Fault :=
  [⟨[.key "bool"], .notABoolean⟩, ⟨[.key "int"], .notAnInteger⟩,
    ⟨[.key "float"], .notAReal⟩, ⟨[.key "str"], .notAText⟩]

/-- A constant, which keeps the kind that it is written in. -/
def constant (value : Json) : Checked Literal :=
  match Literal.ofJson? value with
  | some found => .valid found
  | none => .invalid notAConstant

end KotlinContract.Schema
