import KotlinContract.Json.Reader
import KotlinContract.Json.Writer

/-!
# Written texts are read back

A character is written with a backslash and a letter, as itself, or as one or two escapes of UTF-16
units (`escapedChar_cases`), and reading what was written for it gives the character
(`readText_escapedChar_append`). So a written text is read up to its closing quote, whatever comes
after it (`readText_flatMap_append`).
-/
namespace KotlinContract.Json

/-- The four digits of a unit, the highest first. -/
theorem hexDigits_four (unit : Nat) :
    Text.hexDigits 4 unit =
      [Text.hexDigit (unit / 16 / 16 / 16), Text.hexDigit (unit / 16 / 16),
        Text.hexDigit (unit / 16), Text.hexDigit unit] := rfl

/-- The four digits of a unit stand for the unit. -/
theorem unit?_hexDigits {unit : Nat} (small : unit < 0x10000) :
    unit? (Text.hexDigit (unit / 16 / 16 / 16)) (Text.hexDigit (unit / 16 / 16))
      (Text.hexDigit (unit / 16)) (Text.hexDigit unit) = some unit := by
  simp only [unit?, Text.hexValue?_hexDigit, bind, Option.bind, pure, Option.some.injEq]
  omega

/-- A unit that is written as an escape is read as that unit, unless the text ends with it. The
first one of a pair waits for the other. -/
theorem readText_unit_append (opening : Nat) {unit : Nat} (small : unit < 0x10000)
    {rest : List Char} (more : rest ≠ []) :
    readText opening none (escapedUnit unit ++ rest) =
      if isHighUnit unit then readText opening (some unit) rest
      else prepend (charOfUnit unit) (readText opening none rest) := by
  have continued : rest.isEmpty = false := List.isEmpty_eq_false_iff.mpr more
  rw [escapedUnit, hexDigits_four]
  simp only [List.cons_append, List.nil_append]
  rw [readText]
  simp only [unit?_hexDigits small, continued, releaseHalf]

/-- The second unit of a pair is read together with the first one. -/
theorem readText_secondUnit_append (opening high : Nat) {unit : Nat} (small : unit < 0x10000)
    (low : isLowUnit unit = true) {rest : List Char} (more : rest ≠ []) :
    readText opening (some high) (escapedUnit unit ++ rest) =
      prepend (charOfPair high unit) (readText opening none rest) := by
  have continued : rest.isEmpty = false := List.isEmpty_eq_false_iff.mpr more
  rw [escapedUnit, hexDigits_four]
  simp only [List.cons_append, List.nil_append]
  rw [readText]
  simp only [unit?_hexDigits small, continued, low]

/-- A character is written with a letter that stands for it, as itself, as its only unit or as the
two units of a pair. -/
theorem escapedChar_cases (c : Char) :
    (∃ letter, escapedChar c = ['\\', letter] ∧ escapeLetter? letter = some c ∧ letter ≠ 'u' ∧
        ' ' ≤ letter ∧ letter ≤ '~') ∨
      (escapedChar c = [c] ∧ c ≠ '\x22' ∧ c ≠ '\\' ∧ ' ' ≤ c ∧ c ≤ '~') ∨
      (escapedChar c = escapedUnit c.toNat ∧ c.toNat < 0x10000) ∨
      (0x10000 ≤ c.toNat ∧
        escapedChar c =
          escapedUnit (0xd800 + (c.toNat - 0x10000) / 0x400) ++
            escapedUnit (0xdc00 + (c.toNat - 0x10000) % 0x400)) := by
  rw [escapedChar]
  by_cases quote : c = '\x22'
  · exact .inl ⟨'\x22', by rw [if_pos quote], by rw [quote]; rfl, by decide⟩
  rw [if_neg quote]
  by_cases backslash : c = '\\'
  · exact .inl ⟨'\\', by rw [if_pos backslash], by rw [backslash]; rfl, by decide⟩
  rw [if_neg backslash]
  split
  next same => exact .inl ⟨'n', rfl, by rw [same]; rfl, by decide⟩
  split
  next same => exact .inl ⟨'r', rfl, by rw [same]; rfl, by decide⟩
  split
  next same => exact .inl ⟨'t', rfl, by rw [same]; rfl, by decide⟩
  split
  next same => exact .inl ⟨'f', rfl, by rw [same]; rfl, by decide⟩
  split
  next same => exact .inl ⟨'b', rfl, by rw [same]; rfl, by decide⟩
  split
  next printable =>
    simp only [Bool.and_eq_true, decide_eq_true_eq] at printable
    exact .inr (.inl ⟨rfl, quote, backslash, printable⟩)
  split
  next single => exact .inr (.inr (.inl ⟨rfl, single⟩))
  next pair => exact .inr (.inr (.inr ⟨Nat.le_of_not_lt pair, rfl⟩))

/-- No character is half of a pair, and none lies beyond the pairs. -/
theorem toNat_whole (c : Char) :
    c.toNat < 0xd800 ∨ 0xe000 ≤ c.toNat ∧ c.toNat < 0x110000 := by
  rcases c.valid with below | above
  · exact .inl below
  · exact .inr ⟨above.1, above.2⟩

/-- The only unit of a character stands for it. -/
theorem charOfUnit_toNat (c : Char) : charOfUnit c.toNat = c := by
  have whole := toNat_whole c
  rw [charOfUnit, if_neg, Char.ofNat_toNat]
  simp only [isHighUnit, isLowUnit, Bool.or_eq_true, Bool.and_eq_true, decide_eq_true_eq]
  omega

/-- The two units of a character stand for it. -/
theorem charOfPair_toNat {c : Char} (large : 0x10000 ≤ c.toNat) :
    charOfPair (0xd800 + (c.toNat - 0x10000) / 0x400) (0xdc00 + (c.toNat - 0x10000) % 0x400) =
      c := by
  rw [charOfPair]
  have same : 0x10000 + (0xd800 + (c.toNat - 0x10000) / 0x400 - 0xd800) * 0x400 +
      (0xdc00 + (c.toNat - 0x10000) % 0x400 - 0xdc00) = c.toNat := by omega
  rw [same, Char.ofNat_toNat]

/-- Reading what was written for a character gives the character, unless the text ends with it. -/
theorem readText_escapedChar_append (opening : Nat) (c : Char) {rest : List Char}
    (more : rest ≠ []) :
    readText opening none (escapedChar c ++ rest) = prepend c (readText opening none rest) := by
  rcases escapedChar_cases c with
    ⟨letter, same, stands, other, -⟩ | ⟨same, unquoted, plain, low, -⟩ | ⟨same, single⟩ |
    ⟨large, same⟩
  · rw [same, List.cons_append, List.singleton_append, readText, stands]
    · rfl
    · exact fun _ _ _ _ _ same _ => other same
    · exact other
  · rw [same, List.singleton_append, readText, if_neg]
    · rfl
    · exact fun control => absurd (Char.le_trans low control) (by decide)
    · exact unquoted
    · exact fun same _ => plain same
    · exact fun _ _ _ _ _ same _ => plain same
    · exact fun _ same _ => plain same
    · exact fun _ _ same _ => plain same
  · have whole := toNat_whole c
    have single' : isHighUnit c.toNat = false := by
      simp only [isHighUnit, Bool.and_eq_false_iff, decide_eq_false_iff_not]
      omega
    rw [same, readText_unit_append opening single more, single', if_neg Bool.false_ne_true,
      charOfUnit_toNat]
  · have whole := toNat_whole c
    have high : isHighUnit (0xd800 + (c.toNat - 0x10000) / 0x400) = true := by
      simp only [isHighUnit, Bool.and_eq_true, decide_eq_true_eq]
      omega
    have low : isLowUnit (0xdc00 + (c.toNat - 0x10000) % 0x400) = true := by
      simp only [isLowUnit, Bool.and_eq_true, decide_eq_true_eq]
      omega
    rw [same, List.append_assoc, readText_unit_append opening (by omega) (by simp [escapedUnit]),
      if_pos high, readText_secondUnit_append opening _ (by omega) low more, charOfPair_toNat large]

/-- The characters of a written text are read up to its closing quote, whatever follows. -/
theorem readText_flatMap_append (opening : Nat) (chars rest : List Char) :
    readText opening none (chars.flatMap escapedChar ++ '\x22' :: rest) = .ok (chars, rest) := by
  induction chars with
  | nil =>
    rw [List.flatMap_nil, List.nil_append, readText]
    rfl
  | cons c chars hypothesis =>
    rw [List.flatMap_cons, List.append_assoc, readText_escapedChar_append opening c (by simp),
      hypothesis]
    rfl

end KotlinContract.Json
