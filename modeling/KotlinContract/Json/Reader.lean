import KotlinContract.Json.Value
import KotlinContract.Text.Hex

/-!
# Reading JSON

A text is read from its front; each step returns the characters after what it read. Where the
text is not JSON, the failure says what was expected and how many characters were left, from
which `Failure.message` finds line and column. Beyond the standard the words `NaN`, `Infinity`
and `-Infinity` are read, a number too large for a floating-point number is infinite, the last
of several members under one key counts, and whole numbers have at most 4300 digits. Lone surrogates
are not kept (`charOfUnit`).
-/
namespace KotlinContract.Json

/-- What is wrong with a text at a place. -/
inductive Flaw where
  /-- No value begins here. -/
  | value
  /-- No key begins here. -/
  | propertyName
  /-- The colon after a key is missing. -/
  | colon
  /-- The comma after an item or member is missing. -/
  | comma
  /-- Something follows the value. -/
  | extraData
  /-- The text that begins here does not end. -/
  | unterminated
  /-- A backslash is followed by none of the letters that it may be followed by. -/
  | backslash
  /-- Four hexadecimal digits are missing. -/
  | unicodeEscape
  /-- A control character stands inside a text. -/
  | controlCharacter
  /-- The text begins with a byte order mark. -/
  | byteOrderMark
  deriving DecidableEq

/-- The words for a flaw. -/
def Flaw.message : Flaw → String
  | .value => "Expecting value"
  | .propertyName => "Expecting property name enclosed in double quotes"
  | .colon => "Expecting ':' delimiter"
  | .comma => "Expecting ',' delimiter"
  | .extraData => "Extra data"
  | .unterminated => "Unterminated string starting at"
  | .backslash => "Invalid \\escape"
  | .unicodeEscape => "Invalid \\uXXXX escape"
  | .controlCharacter => "Invalid control character at"
  | .byteOrderMark => "Unexpected UTF-8 BOM (decode using utf-8-sig)"

/-- Why a text was not read. -/
inductive Failure where
  /-- The text is not JSON at the place where so many characters are left. -/
  | malformed (flaw : Flaw) (left : Nat)
  /-- A whole number has too many digits. -/
  | tooManyDigits (count : Nat)
  deriving DecidableEq

/-- A flaw at the front of the characters that are left. -/
def flawAt {α : Type} (flaw : Flaw) (input : List Char) : Except Failure α :=
  .error (.malformed flaw input.length)

/-- A place in a text. -/
structure Place where
  /-- The line, counted from one. -/
  line : Nat
  /-- The column, counted from one. -/
  column : Nat
  /-- How many characters come before. -/
  offset : Nat
  deriving DecidableEq

/-- The place after the characters given. -/
def Place.after (before : List Char) : Place where
  line := before.count '\n' + 1
  column := (before.reverse.takeWhile (· ≠ '\n')).length + 1
  offset := before.length

/-- The message for a flaw at the place in the text where so many characters are left. -/
def flawMessage (flaw : Flaw) (input : List Char) (left : Nat) : String :=
  let place := Place.after (input.take (input.length - left))
  flaw.message ++ ": line " ++ toString place.line ++ " column " ++ toString place.column ++
    " (char " ++ toString place.offset ++ ")"

/-- Whether a character may stand between the parts of a value. -/
def isGap (c : Char) : Bool := c == ' ' || c == '\t' || c == '\n' || c == '\r'

/-- The characters after the gap at the front. -/
def skipGap (input : List Char) : List Char := input.dropWhile isGap

/-- The UTF-16 unit that four hexadecimal digits stand for. -/
def unit? (a b c d : Char) : Option Nat := do
  let a ← Text.hexValue? a
  let b ← Text.hexValue? b
  let c ← Text.hexValue? c
  let d ← Text.hexValue? d
  return ((a * 16 + b) * 16 + c) * 16 + d

/-- Whether a unit is the first one of a pair. -/
def isHighUnit (unit : Nat) : Bool := 0xd800 ≤ unit && unit < 0xdc00

/-- Whether a unit is the second one of a pair. -/
def isLowUnit (unit : Nat) : Bool := 0xdc00 ≤ unit && unit < 0xe000

/-- The character of a single unit; half of a surrogate pair gives the replacement character. A
text cannot hold such a half by itself: results on files and requests are about texts that are free
of lone surrogates. -/
def charOfUnit (unit : Nat) : Char :=
  if isHighUnit unit || isLowUnit unit then '\ufffd' else Char.ofNat unit

/-- The character of a pair of units. -/
def charOfPair (high low : Nat) : Char :=
  Char.ofNat (0x10000 + (high - 0xd800) * 0x400 + (low - 0xdc00))

/-- The character that a letter after a backslash stands for. -/
def escapeLetter? (c : Char) : Option Char :=
  if c = '\x22' || c = '\\' || c = '/' then some c
  else if c = 'b' then some '\x08'
  else if c = 'f' then some '\x0c'
  else if c = 'n' then some '\n'
  else if c = 'r' then some '\r'
  else if c = 't' then some '\t'
  else none

/-- Put a character in front of what was read. -/
def prepend (c : Char) :
    Except Failure (List Char × List Char) → Except Failure (List Char × List Char)
  | .ok (chars, rest) => .ok (c :: chars, rest)
  | .error failure => .error failure

/-- Put the replacement character in front of what was read if half of a pair is waiting. -/
def releaseHalf (waiting : Option Nat) (found : Except Failure (List Char × List Char)) :
    Except Failure (List Char × List Char) :=
  match waiting with
  | none => found
  | some unit => prepend (charOfUnit unit) found

/-- The characters of a text up to its closing quote; `opening` characters were left at its
opening quote, and `waiting` is the first half of a pair if one has just been read. -/
def readText (opening : Nat) (waiting : Option Nat) :
    List Char → Except Failure (List Char × List Char)
  | [] => .error (.malformed .unterminated opening)
  | '\x22' :: rest => releaseHalf waiting (.ok ([], rest))
  | '\\' :: [] => .error (.malformed .unterminated opening)
  | '\\' :: 'u' :: a :: b :: c :: d :: rest =>
    match unit? a b c d, rest.isEmpty with
    | some unit, false =>
      match waiting, isLowUnit unit with
      | some high, true => prepend (charOfPair high unit) (readText opening none rest)
      | waiting, _ =>
        releaseHalf waiting
          (if isHighUnit unit then readText opening (some unit) rest
          else prepend (charOfUnit unit) (readText opening none rest))
    | _, _ => .error (.malformed .unicodeEscape (5 + rest.length))
  | '\\' :: 'u' :: rest => .error (.malformed .unicodeEscape (1 + rest.length))
  | '\\' :: letter :: rest =>
    match escapeLetter? letter with
    | some c => releaseHalf waiting (prepend c (readText opening none rest))
    | none => .error (.malformed .backslash (2 + rest.length))
  | c :: rest =>
    if c ≤ '\x1f' then .error (.malformed .controlCharacter (1 + rest.length))
    else releaseHalf waiting (prepend c (readText opening none rest))

/-- The number that decimal digits stand for. -/
def digitsValue (digits : List Char) : Nat :=
  digits.foldl (fun value digit => value * 10 + (digit.toNat - 0x30)) 0

/-- The most digits that a whole number may have where it is read. Where one is written
(`Decimal.integerText`), it has as many digits as it needs. -/
def mostDigits : Nat := 4300

/-- The floating-point number `digits * 10 ^ exponent`. From four hundred places on either side
of the point every number is infinite or zero. -/
def realOf (negative : Bool) (digits : List Char) (exponent : Int) : Float :=
  let number := digitsValue digits
  let places := (Nat.toDigits 10 number).length + exponent
  let size :=
    if number = 0 || places < -400 then 0.0
    else if 400 < places then 1.0 / 0.0
    else if exponent < 0 then Float.ofScientific number true exponent.natAbs
    else Float.ofScientific number false exponent.natAbs
  if negative then -size else size

/-- The whole part of a number: a single zero, or digits that begin with none. -/
def readWhole (input : List Char) : Option (List Char × List Char) :=
  match input with
  | '0' :: rest => some (['0'], rest)
  | digit :: _ => if digit.isDigit then some (input.span Char.isDigit) else none
  | [] => none

/-- The digits after a point, if the point is followed by one. -/
def readFraction (input : List Char) : Option (List Char × List Char) :=
  match input with
  | '.' :: rest =>
    match rest.span Char.isDigit with
    | ([], _) => none
    | found => some found
  | _ => none

/-- The exponent after its letter, if it has a digit. -/
def readExponent (input : List Char) : Option (Int × List Char) :=
  match input with
  | letter :: rest =>
    if letter = 'e' || letter = 'E' then
      let (negative, unsigned) := match rest with
        | '-' :: rest => (true, rest)
        | '+' :: rest => (false, rest)
        | _ => (false, rest)
      match unsigned.span Char.isDigit with
      | ([], _) => none
      | (digits, rest) =>
        let size : Int := digitsValue digits
        some (if negative then -size else size, rest)
    else none
  | [] => none

/-- A number. -/
def readNumber (input : List Char) : Except Failure (Json × List Char) :=
  let (negative, unsigned) := match input with
    | '-' :: rest => (true, rest)
    | _ => (false, input)
  match readWhole unsigned with
  | none => flawAt .value input
  | some (whole, rest) =>
    let (fraction, afterFraction) := (readFraction rest).getD ([], rest)
    match readExponent afterFraction with
    | some (exponent, rest) =>
      .ok (.real (realOf negative (whole ++ fraction) (exponent - fraction.length)), rest)
    | none =>
      if fraction.isEmpty then
        if mostDigits < whole.length then .error (.tooManyDigits whole.length)
        else
          let size : Int := digitsValue whole
          .ok (.integer (if negative then -size else size), rest)
      else .ok (.real (realOf negative (whole ++ fraction) (-fraction.length)), afterFraction)

/-- The words that stand for values. -/
def words : List (List Char × Json) :=
  [("null".toList, .null), ("true".toList, .boolean true), ("false".toList, .boolean false),
    ("NaN".toList, .real (0.0 / 0.0)), ("Infinity".toList, .real (1.0 / 0.0)),
    ("-Infinity".toList, .real (-1.0 / 0.0))]

/-- The word at the front, if there is one. -/
def readWord? (input : List Char) : Option (Json × List Char) :=
  words.findSome? fun (word, value) => (word.isPrefixOf? input).map fun rest => (value, rest)

/-- Members in the order in which their keys first appear, each with its last value. -/
def ofMembers (members : List (String × Json)) : Json :=
  .object (members.foldl (fun found (key, value) => insertMember key value found) [])

mutual

/-- A value at the front. Every step takes a character, so as many steps as there are
characters are enough. -/
def readValue : (steps : Nat) → List Char → Except Failure (Json × List Char)
  | 0, input => flawAt .value input
  | steps + 1, input =>
    match input with
    | '\x22' :: rest => do
      let (found, rest) ← readText input.length none rest
      return (.text (String.ofList found), rest)
    | '[' :: rest =>
      match skipGap rest with
      | ']' :: rest => .ok (.array [], rest)
      | rest => do
        let (items, rest) ← readItems steps rest
        return (.array items, rest)
    | '\x7b' :: rest =>
      match skipGap rest with
      | '\x7d' :: rest => .ok (.object [], rest)
      | rest => do
        let (members, rest) ← readMembers steps rest
        return (ofMembers members, rest)
    | _ =>
      match readWord? input with
      | some found => .ok found
      | none => readNumber input

/-- The items of a list from the first one to the closing bracket. -/
def readItems : (steps : Nat) → List Char → Except Failure (List Json × List Char)
  | 0, input => flawAt .value input
  | steps + 1, input => do
    let (item, rest) ← readValue steps input
    match skipGap rest with
    | ']' :: rest => return ([item], rest)
    | ',' :: rest =>
      let (items, rest) ← readItems steps (skipGap rest)
      return (item :: items, rest)
    | rest => flawAt .comma rest

/-- The members of an object from the first one to the closing brace. -/
def readMembers :
    (steps : Nat) → List Char → Except Failure (List (String × Json) × List Char)
  | 0, input => flawAt .propertyName input
  | steps + 1, input =>
    match input with
    | '\x22' :: rest => do
      let (key, rest) ← readText input.length none rest
      match skipGap rest with
      | ':' :: rest =>
        let (value, rest) ← readValue steps (skipGap rest)
        match skipGap rest with
        | '\x7d' :: rest => return ([(String.ofList key, value)], rest)
        | ',' :: rest =>
          let (members, rest) ← readMembers steps (skipGap rest)
          return ((String.ofList key, value) :: members, rest)
        | rest => flawAt .comma rest
      | rest => flawAt .colon rest
    | _ => flawAt .propertyName input

end

/-- The value that the characters of a whole text stand for. -/
def readChars (input : List Char) : Except Failure Json :=
  if input.head? = some '\ufeff' then flawAt .byteOrderMark input
  else do
    let (value, rest) ← readValue (2 * input.length + 1) (skipGap input)
    match skipGap rest with
    | [] => return value
    | rest => flawAt .extraData rest

/-- The message for a text that was not read. The limit on digits is a message of its own. -/
def Failure.message (input : List Char) : Failure → String
  | .malformed flaw left => flawMessage flaw input left
  | .tooManyDigits count =>
    "Exceeds the limit (" ++ toString mostDigits ++ " digits) for integer string conversion: " ++
      "value has " ++ toString count ++
      " digits; use sys.set_int_max_str_digits() to increase the limit"

end KotlinContract.Json
