import KotlinContract.Json.Reader
import KotlinContract.Json.Writer
import Mathlib.Data.List.TakeDrop

/-!
# Written numbers are read back

The digits of a whole number begin with zero only for zero, so all of them are read as its whole
part (`readWhole_toDigits_append`). If what follows does not go on with a number, a whole number
that is written with no more digits than are allowed is read back (`readNumber_append`), and no word
is read in its place (`readWord?_append`).
-/
namespace KotlinContract.Json

/-- What stands here does not go on with a number. -/
def Stops (rest : List Char) : Prop :=
  ∀ c ∈ rest.head?, c.isDigit = false ∧ c ≠ '.' ∧ c ≠ 'e' ∧ c ≠ 'E'

/-- Digits are read as the number that they stand for. -/
theorem digitsValue_toDigits (number : Nat) : digitsValue (Nat.toDigits 10 number) = number := by
  have folded (digits : List Char) (value : Nat) :
      digits.foldl (fun value digit => value * 10 + (digit.toNat - 0x30)) value =
        Nat.ofDigitChars 10 digits value := by
    simp only [Nat.ofDigitChars, Nat.mul_comm 10]
    rfl
  rw [digitsValue, folded, Nat.ofDigitChars_ten_toDigits]

/-- The digits of a number begin with zero only for zero. -/
theorem head?_toDigits_ne {number : Nat} (positive : 0 < number) :
    (Nat.toDigits 10 number).head? ≠ some '0' := by
  induction number using Nat.strongRecOn with
  | ind number hypothesis =>
    rcases Nat.lt_or_ge number 10 with small | large
    · have every : ∀ digit : Fin 10, 0 < digit.val → [digit.val.digitChar].head? ≠ some '0' := by
        decide
      rw [Nat.toDigits_of_lt_base small]
      exact every ⟨number, small⟩ positive
    · rw [Nat.toDigits_of_base_le (by decide) large, List.head?_append, Ne, Option.or_eq_some_iff]
      rintro (zero | ⟨none, -⟩)
      · exact hypothesis (number / 10) (by omega) (by omega) zero
      · exact Nat.toDigits_ne_nil (List.head?_eq_none_iff.mp none)

/-- The digits of a number are told from what follows. -/
theorem span_toDigits_append (number : Nat) {rest : List Char} (stops : Stops rest) :
    (Nat.toDigits 10 number ++ rest).span Char.isDigit = (Nat.toDigits 10 number, rest) := by
  have digits : ∀ c ∈ Nat.toDigits 10 number, c.isDigit = true := fun c member =>
    Nat.isDigit_of_mem_toDigits (by decide) (by decide) member
  rw [List.span_eq_takeWhile_dropWhile, List.takeWhile_append_of_pos digits,
    List.dropWhile_append_of_pos digits]
  cases rest with
  | nil => simp
  | cons c others =>
    have other : ¬ c.isDigit = true := by simp [(stops c rfl).1]
    rw [List.takeWhile_cons_of_neg other, List.dropWhile_cons_of_neg other, List.append_nil]

/-- All digits of a number are its whole part. -/
theorem readWhole_toDigits_append (number : Nat) {rest : List Char} (stops : Stops rest) :
    readWhole (Nat.toDigits 10 number ++ rest) = some (Nat.toDigits 10 number, rest) := by
  rcases Nat.eq_zero_or_pos number with rfl | positive
  · rfl
  · have span := span_toDigits_append number stops
    have first := head?_toDigits_ne positive
    cases written : Nat.toDigits 10 number with
    | nil => exact absurd written Nat.toDigits_ne_nil
    | cons digit others =>
      have isDigit : digit.isDigit = true :=
        Nat.isDigit_of_mem_toDigits (by decide) (by decide)
          (written ▸ List.mem_cons_self : digit ∈ Nat.toDigits 10 number)
      rw [written] at span first
      rw [List.cons_append, readWhole, if_pos isDigit, ← List.cons_append, span]
      intro zero
      exact first (congrArg some zero)

/-- No fraction follows a number that stops. -/
theorem Stops.readFraction_eq_none {rest : List Char} (stops : Stops rest) :
    readFraction rest = none := by
  unfold readFraction
  split
  next => exact absurd rfl (stops '.' rfl).2.1
  next => rfl

/-- No exponent follows a number that stops. -/
theorem Stops.readExponent_eq_none {rest : List Char} (stops : Stops rest) :
    readExponent rest = none := by
  unfold readExponent
  split
  next letter _ =>
    obtain ⟨-, -, small, large⟩ := stops letter rfl
    rw [if_neg (by simp [small, large])]
  next => rfl

/-- A whole number with no more digits than are allowed is read back. -/
theorem readNumber_append {value : Int}
    (short : (Decimal.digitsOf value.natAbs).length ≤ mostDigits) {rest : List Char}
    (stops : Stops rest) :
    readNumber ((Decimal.integerText value).toList ++ rest) = .ok (.integer value, rest) := by
  have whole := readWhole_toDigits_append value.natAbs stops
  have few : ¬ mostDigits < (Nat.toDigits 10 value.natAbs).length := Nat.not_lt.mpr short
  have number : digitsValue (Nat.toDigits 10 value.natAbs) = value.natAbs :=
    digitsValue_toDigits value.natAbs
  rw [Decimal.integerText, String.toList_ofList, Decimal.digitsOf, Decimal.signText]
  rcases Int.lt_or_le value 0 with negative | positive
  · simp only [negative, decide_true, if_true, List.cons_append, List.nil_append, readNumber, whole,
      stops.readFraction_eq_none, Option.getD_none, stops.readExponent_eq_none, List.isEmpty_nil,
      few, if_false, number]
    rw [Int.ofNat_natAbs_of_nonpos (Int.le_of_lt negative), Int.neg_neg]
  · have unsigned : ∀ others, Nat.toDigits 10 value.natAbs ++ rest ≠ '-' :: others := by
      intro others same
      rw [same] at whole
      cases whole
    simp only [Int.not_lt.mpr positive, decide_false, Bool.false_eq_true, if_false, List.nil_append,
      readNumber, whole, stops.readFraction_eq_none, Option.getD_none, stops.readExponent_eq_none,
      List.isEmpty_nil, if_true, few, number]
    rw [Int.natAbs_of_nonneg positive]

/-- A whole number is written as a digit with others after it, with a sign in front of it if the
number is negative. -/
theorem exists_toList_integerText (value : Int) :
    ∃ sign digit others, (Decimal.integerText value).toList = sign ++ digit :: others ∧
      digit.isDigit = true ∧ (sign = [] ∨ sign = ['-']) := by
  rw [Decimal.integerText, String.toList_ofList, Decimal.digitsOf, Decimal.signText]
  cases digits : Nat.toDigits 10 value.natAbs with
  | nil => exact absurd digits Nat.toDigits_ne_nil
  | cons digit others =>
    have member : digit ∈ Nat.toDigits 10 value.natAbs := digits ▸ List.mem_cons_self
    refine ⟨_, digit, others, rfl, Nat.isDigit_of_mem_toDigits (by decide) (by decide) member, ?_⟩
    cases decide (value < 0) <;> simp

/-- A digit is not any other character. -/
theorem beq_digit {c digit : Char} (isDigit : digit.isDigit = true) (other : c.isDigit = false) :
    (c == digit) = false := by
  rw [beq_eq_false_iff_ne]
  rintro rfl
  rw [isDigit] at other
  cases other

/-- A whole number begins with nothing but a sign or a digit. -/
theorem integerText_append_ne {value : Int} {c : Char} {rest others : List Char}
    (other : (c == '-' || c.isDigit) = false) :
    (Decimal.integerText value).toList ++ rest ≠ c :: others := by
  simp only [Bool.or_eq_false_iff, beq_eq_false_iff_ne] at other
  obtain ⟨sign, digit, digits, written, isDigit, rfl | rfl⟩ := exists_toList_integerText value
  · rw [written]
    intro same
    exact beq_eq_false_iff_ne.mp (beq_digit isDigit other.2) (List.cons.inj same).1.symm
  · rw [written]
    intro same
    exact other.1 (List.cons.inj same).1.symm

/-- A word is not found where another character comes first. -/
theorem isPrefixOf?_cons_of_beq {first c : Char} (other : (first == c) = false)
    (word rest : List Char) : (first :: word).isPrefixOf? (c :: rest) = none := by
  change (if first == c then word.isPrefixOf? rest else none) = none
  rw [other, if_neg Bool.false_ne_true]

/-- After its first character, the others of a word are looked for. -/
theorem isPrefixOf?_cons_self (c : Char) (word rest : List Char) :
    (c :: word).isPrefixOf? (c :: rest) = word.isPrefixOf? rest := by
  change (if c == c then word.isPrefixOf? rest else none) = _
  rw [beq_self_eq_true, if_pos rfl]

/-- A whole number is no word. -/
theorem readWord?_append (value : Int) (rest : List Char) :
    readWord? ((Decimal.integerText value).toList ++ rest) = none := by
  obtain ⟨sign, digit, others, written, isDigit, rfl | rfl⟩ := exists_toList_integerText value
  · rw [written]
    simp [readWord?, words, isPrefixOf?_cons_of_beq, beq_digit isDigit]
  · rw [written]
    simp [readWord?, words, isPrefixOf?_cons_of_beq, isPrefixOf?_cons_self, beq_digit isDigit]

end KotlinContract.Json
