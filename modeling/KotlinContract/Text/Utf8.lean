import KotlinContract.Text.Hex

/-!
# Reading UTF-8

Bytes are read one at a time. A first byte announces how many continuation bytes follow and
the range of each of them; the ranges leave out overlong forms, surrogates and code points
beyond the last one. Where the bytes are not UTF-8 the fault names the first byte of the
sequence that cannot be finished, how many bytes were taken for it, and what went wrong.
-/
namespace KotlinContract.Text.Utf8

/-- What is wrong with a sequence of bytes. -/
inductive Flaw where
  /-- No character begins with this byte. -/
  | startByte
  /-- A continuation byte is missing or out of range. -/
  | continuationByte
  /-- The bytes end inside a character. -/
  | endOfData
  deriving DecidableEq

/-- A place at which bytes are not UTF-8. -/
structure Fault where
  /-- How many bytes come before the sequence. -/
  start : Nat
  /-- How many bytes were taken for the sequence. -/
  count : Nat
  /-- The first byte of the sequence. -/
  byte : UInt8
  /-- What is wrong. -/
  flaw : Flaw
  deriving DecidableEq

/-- The words for a flaw. -/
def Flaw.message : Flaw → String
  | .startByte => "invalid start byte"
  | .continuationByte => "invalid continuation byte"
  | .endOfData => "unexpected end of data"

/-- The message for a fault: a single byte is shown, several bytes are counted from first to
last. -/
def Fault.message (fault : Fault) : String :=
  if fault.count = 1 then
    "'utf-8' codec can't decode byte 0x" ++
      String.ofList (hexDigits 2 fault.byte.toNat) ++ " in position " ++
      toString fault.start ++ ": " ++ fault.flaw.message
  else
    "'utf-8' codec can't decode bytes in position " ++ toString fault.start ++ "-" ++
      toString (fault.start + fault.count - 1) ++ ": " ++ fault.flaw.message

/-- The range that a continuation byte has to lie in. -/
structure Expected where
  /-- The least byte. -/
  least : UInt8
  /-- The greatest byte. -/
  greatest : UInt8

/-- Any continuation byte. -/
def Expected.any : Expected := ⟨0x80, 0xbf⟩

/-- What a first byte announces: the bits it holds itself, and the bytes to follow. -/
def lead? (byte : UInt8) : Option (Nat × List Expected) :=
  if byte < 0x80 then some (byte.toNat, [])
  else if byte < 0xc2 then none
  else if byte < 0xe0 then some (byte.toNat - 0xc0, [.any])
  else if byte = 0xe0 then some (0, [⟨0xa0, 0xbf⟩, .any])
  else if byte = 0xed then some (0xd, [⟨0x80, 0x9f⟩, .any])
  else if byte < 0xf0 then some (byte.toNat - 0xe0, [.any, .any])
  else if byte = 0xf0 then some (0, [⟨0x90, 0xbf⟩, .any, .any])
  else if byte < 0xf4 then some (byte.toNat - 0xf0, [.any, .any, .any])
  else if byte = 0xf4 then some (4, [⟨0x80, 0x8f⟩, .any, .any])
  else none

/-- A character of which some bytes are still to come. -/
structure Pending where
  /-- How many bytes come before the character. -/
  start : Nat
  /-- Its first byte. -/
  byte : UInt8
  /-- The bits read so far. -/
  value : Nat
  /-- The next byte. -/
  next : Expected
  /-- The bytes after the next one. -/
  later : List Expected

/-- Read the bytes from a position on, inside a character or between two. -/
def decodeFrom (position : Nat) : Option Pending → List UInt8 → Except Fault (List Char)
  | none, [] => .ok []
  | some pending, [] =>
    .error ⟨pending.start, position - pending.start, pending.byte, .endOfData⟩
  | none, byte :: rest =>
    match lead? byte with
    | none => .error ⟨position, 1, byte, .startByte⟩
    | some (value, []) => (decodeFrom (position + 1) none rest).map (Char.ofNat value :: ·)
    | some (value, next :: later) =>
      decodeFrom (position + 1) (some ⟨position, byte, value, next, later⟩) rest
  | some pending, byte :: rest =>
    if pending.next.least ≤ byte && byte ≤ pending.next.greatest then
      let value := pending.value * 64 + (byte.toNat - 0x80)
      match pending.later with
      | [] => (decodeFrom (position + 1) none rest).map (Char.ofNat value :: ·)
      | next :: later =>
        decodeFrom (position + 1)
          (some { pending with value := value, next := next, later := later }) rest
    else .error ⟨pending.start, position - pending.start, pending.byte, .continuationByte⟩

/-- The characters that bytes stand for. -/
def decode (bytes : List UInt8) : Except Fault (List Char) := decodeFrom 0 none bytes

end KotlinContract.Text.Utf8
