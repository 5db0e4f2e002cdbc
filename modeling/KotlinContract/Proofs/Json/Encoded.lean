import KotlinContract.CommandLine.FileStore
import KotlinContract.Proofs.Json.ReadBack

/-!
# The bytes of a written value

A value without floating-point numbers is written with line feeds and the printable characters of
ASCII only (`Restorable.ascii_written`). Each of these is a byte of its own, so a file that holds
the bytes of the text has the text (`Restorable.textOf_render`).
-/
namespace KotlinContract.Json

/-- Only line feeds and printable characters of ASCII. -/
def Ascii (chars : List Char) : Prop := ∀ c ∈ chars, c = '\n' ∨ ' ' ≤ c ∧ c ≤ '~'

@[simp] theorem ascii_nil : Ascii [] := nofun

@[simp] theorem ascii_cons {c : Char} {chars : List Char} :
    Ascii (c :: chars) ↔ (c = '\n' ∨ ' ' ≤ c ∧ c ≤ '~') ∧ Ascii chars :=
  List.forall_mem_cons

@[simp] theorem ascii_append {left right : List Char} :
    Ascii (left ++ right) ↔ Ascii left ∧ Ascii right :=
  List.forall_mem_append

/-- A unit is written with hexadecimal digits. -/
theorem ascii_escapedUnit (unit : Nat) : Ascii (escapedUnit unit) := by
  have every : ∀ digit : Fin 16, ' ' ≤ Text.hexDigit digit.val ∧ Text.hexDigit digit.val ≤ '~' := by
    decide
  have digit (number : Nat) : ' ' ≤ Text.hexDigit number ∧ Text.hexDigit number ≤ '~' := by
    have found := every ⟨number % 16, Nat.mod_lt _ (by decide)⟩
    simpa [Text.hexDigit] using found
  rw [escapedUnit, hexDigits_four]
  simp [digit]

/-- Every character is written in ASCII. -/
theorem ascii_escapedChar (c : Char) : Ascii (escapedChar c) := by
  rcases escapedChar_cases c with
    ⟨letter, same, -, -, printable⟩ | ⟨same, -, -, printable⟩ | ⟨same, -⟩ | ⟨-, same⟩
  · simp [same, printable]
  · simp [same, printable]
  · rw [same]
    exact ascii_escapedUnit _
  · rw [same]
    exact ascii_append.mpr ⟨ascii_escapedUnit _, ascii_escapedUnit _⟩

/-- A text is written in ASCII. -/
theorem ascii_writtenText (text : String) : Ascii (writtenText text) := by
  have inner : Ascii (text.toList.flatMap escapedChar) := by
    intro d member
    obtain ⟨c, -, found⟩ := List.mem_flatMap.mp member
    exact ascii_escapedChar c d found
  simp [writtenText, inner]

/-- A whole number is written in ASCII. -/
theorem ascii_integerText (value : Int) : Ascii (Decimal.integerText value).toList := by
  have digits : Ascii (Nat.toDigits 10 value.natAbs) := by
    intro c member
    have isDigit : c.isDigit = true := Nat.isDigit_of_mem_toDigits (by decide) (by decide) member
    simp only [Char.isDigit, Bool.and_eq_true, decide_eq_true_eq] at isDigit
    have low : '0' ≤ c := isDigit.1
    have high : c ≤ '9' := isDigit.2
    exact .inr ⟨Char.le_trans (by decide) low, Char.le_trans high (by decide)⟩
  rw [Decimal.integerText, String.toList_ofList, Decimal.digitsOf, Decimal.signText]
  split <;> simp [digits]

variable {layout : Layout} {depth : Nat}

/-- Lines are broken and indented in ASCII. -/
theorem ascii_newline (layout : Layout) (depth : Nat) : Ascii (layout.newline depth) := by
  rw [Layout.newline]
  split
  · exact ascii_nil
  · refine ascii_cons.mpr ⟨.inl rfl, fun c member => .inr ?_⟩
    rw [List.eq_of_mem_replicate member]
    decide

/-- Items and members are divided in ASCII. -/
theorem ascii_separator (layout : Layout) (depth : Nat) : Ascii (layout.separator depth) := by
  rw [Layout.separator]
  split
  · simp
  · exact ascii_cons.mpr ⟨.inr (by decide), ascii_newline layout depth⟩

/-- Items are written in ASCII if each of them is. -/
theorem ascii_writtenItems {items : List Json}
    (each : ∀ item ∈ items, Ascii (written layout depth item)) :
    Ascii (writtenItems layout depth items) := by
  induction items with
  | nil => exact ascii_nil
  | cons item items hypothesis =>
    rw [List.forall_mem_cons] at each
    rw [writtenItems]
    simp [ascii_separator, each.1, hypothesis each.2]

/-- Members are written in ASCII if the value of each of them is. -/
theorem ascii_writtenMembers {members : List (String × Json)}
    (each : ∀ member ∈ members, Ascii (written layout depth member.2)) :
    Ascii (writtenMembers layout depth members) := by
  induction members with
  | nil => exact ascii_nil
  | cons member members hypothesis =>
    obtain ⟨key, value⟩ := member
    rw [List.forall_mem_cons] at each
    rw [writtenMembers]
    simp [ascii_separator, ascii_writtenText, each.1, hypothesis each.2]

/-- A value that can be read back is written in ASCII. -/
theorem Restorable.ascii_written {value : Json} (restorable : Restorable value) :
    Ascii (written layout depth value) := by
  induction restorable generalizing depth with
  | null => simp [written]
  | boolean value => cases value <;> simp [written]
  | integer => exact ascii_integerText _
  | text value => exact ascii_writtenText value
  | @array items each hypothesis =>
    cases items with
    | nil => simp [written]
    | cons item items =>
      rw [List.forall_mem_cons] at hypothesis
      have others : Ascii (writtenItems layout (depth + 1) items) :=
        ascii_writtenItems fun item member => hypothesis.2 item member
      simp [written, ascii_newline, hypothesis.1, others]
  | @object members different each hypothesis =>
    cases members with
    | nil => simp [written]
    | cons member members =>
      obtain ⟨key, value⟩ := member
      rw [List.forall_mem_cons] at hypothesis
      have others : Ascii (writtenMembers layout (depth + 1) members) :=
        ascii_writtenMembers fun member found => hypothesis.2 member found
      simp [written, ascii_newline, ascii_writtenText, hypothesis.1, others]

/-- A character of ASCII lies below the first byte that announces another one. -/
theorem toNat_lt_of_ascii {c : Char} (ascii : c = '\n' ∨ ' ' ≤ c ∧ c ≤ '~') : c.toNat < 0x80 := by
  rcases ascii with rfl | ⟨-, high⟩
  · decide
  · exact Nat.lt_of_le_of_lt high (by decide)

/-- A character of ASCII is announced by its only byte. -/
theorem lead?_toUInt8 {c : Char} (small : c.toNat < 0x80) :
    Text.Utf8.lead? c.val.toUInt8 = some (c.toNat, []) := by
  have same : c.val.toUInt8.toNat = c.toNat := by
    rw [UInt32.toNat_toUInt8]
    exact Nat.mod_eq_of_lt (Nat.lt_trans small (by decide))
  rw [Text.Utf8.lead?, if_pos (UInt8.lt_iff_toNat_lt.mpr (same ▸ small)), same]

/-- The bytes of ASCII are decoded one by one. -/
theorem decodeFrom_of_ascii {chars : List Char} (ascii : Ascii chars) (position : Nat) :
    Text.Utf8.decodeFrom position none (chars.map fun c => c.val.toUInt8) = .ok chars := by
  induction chars generalizing position with
  | nil => rfl
  | cons c chars hypothesis =>
    rw [ascii_cons] at ascii
    rw [List.map_cons, Text.Utf8.decodeFrom, lead?_toUInt8 (toNat_lt_of_ascii ascii.1)]
    simp only [hypothesis ascii.2, Except.map, Char.ofNat_toNat]

/-- The bytes of an array from a place on are listed behind those that were listed before. -/
theorem toListLoop_eq (bytes : ByteArray) (place : Nat) (listed : List UInt8) :
    ByteArray.toList.loop bytes place listed = listed.reverse ++ bytes.data.toList.drop place := by
  fun_induction ByteArray.toList.loop bytes place listed with
  | case1 place listed inside hypothesis =>
    have within : place < bytes.data.toList.length := inside
    have byte : bytes.get! place = bytes.data.toList[place] := by
      rw [Array.getElem_toList]
      exact getElem!_pos bytes.data place inside
    rw [hypothesis, List.reverse_cons, List.append_assoc, List.drop_eq_getElem_cons within, byte]
    rfl
  | case2 place listed outside =>
    have beyond : bytes.data.toList.length ≤ place := Nat.le_of_not_lt outside
    rw [List.drop_eq_nil_of_le beyond, List.append_nil]

/-- The bytes of a text in ASCII, one for each character. -/
theorem toList_toUTF8 {chars : List Char} (ascii : Ascii chars) :
    (String.ofList chars).toUTF8.toList = chars.map fun c => c.val.toUInt8 := by
  have each : chars.flatMap String.utf8EncodeChar = chars.map fun c => c.val.toUInt8 := by
    induction chars with
    | nil => rfl
    | cons c chars hypothesis =>
      rw [ascii_cons] at ascii
      have small : c.val ≤ 127 := Nat.le_of_lt_succ (toNat_lt_of_ascii ascii.1)
      rw [List.flatMap_cons, hypothesis ascii.2,
        String.utf8EncodeChar_eq_singleton (Char.utf8Size_eq_one_iff.mpr small)]
      rfl
  rw [String.toUTF8_eq_toByteArray, String.toByteArray_ofList, List.utf8Encode, each,
    ByteArray.toList, toListLoop_eq, List.toList_data_toByteArray]
  rfl

/-- A file with the bytes of a written value has its text. -/
theorem Restorable.textOf_render {value : Json} (restorable : Restorable value) (layout : Layout) :
    FileStore.textOf (value.render layout).toUTF8.toList = .ok (value.render layout).toList := by
  have ascii : Ascii (written layout 0 value) := restorable.ascii_written
  have unbroken : '\r' ∉ written layout 0 value := by
    intro member
    rcases ascii _ member with same | ⟨low, -⟩
    · cases same
    · exact absurd low (by decide)
  rw [render, toList_toUTF8 ascii, FileStore.textOf, Text.Utf8.decode,
    decodeFrom_of_ascii ascii, String.toList_ofList]
  exact congrArg Except.ok (Text.unifyLineEnds_of_not_mem unbroken)

end KotlinContract.Json
