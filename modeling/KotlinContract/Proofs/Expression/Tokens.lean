import KotlinContract.Contract.Attachment
import KotlinContract.Proofs.Text.Composed

/-!
# The tokens of parameters

A placeholder is a plain word and tells which parameter it stands for; the tokens of a function
are plain words if its name and those of its parameters are.
-/
namespace KotlinContract

namespace Text

/-- Two plain words, one after the other, are a plain word. -/
theorem Plain.append {left right : String} (first : Plain left) (second : Plain right) :
    Plain (left ++ right) := by
  have parentheses : ∀ c ∈ (left ++ right).toList, isBlank c = false ∧ c ∉ reserved := by
    intro c member
    rw [String.toList_append, List.mem_append] at member
    exact member.elim (first.2 c) (second.2 c)
  refine ⟨fun empty => first.1 ?_, parentheses⟩
  have nothing := congrArg String.toList empty
  rw [String.toList_append] at nothing
  exact String.toList_eq_nil_iff.mp (List.append_eq_nil_iff.mp nothing).1

/-- A digit is neither white space nor reserved. -/
theorem digit_unreserved {c : Char} (digit : c.isDigit = true) :
    isBlank c = false ∧ c ∉ reserved := by
  have digits : ∀ code < 58, 48 ≤ code →
      isBlank (Char.ofNat code) = false ∧ Char.ofNat code ∉ reserved := by decide
  simp only [Char.isDigit, Bool.and_eq_true, decide_eq_true_eq] at digit
  have low : 48 ≤ c.toNat := UInt32.le_iff_toNat_le.mp digit.1
  have high : c.toNat ≤ 57 := UInt32.le_iff_toNat_le.mp digit.2
  simpa using digits c.toNat (by omega) low

/-- The characters of a number are its digits. -/
theorem toList_toString (number : Nat) : (toString number).toList = Nat.toDigits 10 number := by
  rw [Nat.toString_eq_ofList_toDigits, String.toList_ofList]

/-- A number is a plain word. -/
theorem plain_toString (number : Nat) : Plain (toString number) := by
  constructor
  · intro empty
    have none : Nat.toDigits 10 number = [] := by rw [← toList_toString, empty, String.toList_empty]
    exact Nat.toDigits_ne_nil none
  · intro c member
    rw [toList_toString] at member
    exact digit_unreserved (Nat.isDigit_of_mem_toDigits (by decide) (by decide) member)

end Text

open Text (Plain)

/-- A placeholder is a plain word. -/
theorem plain_placeholder (index : Nat) : Plain (placeholder index) := by
  rw [placeholder]
  split
  · decide
  · exact Plain.append (by decide) (Text.plain_toString index)

/-- A placeholder tells the parameter that it stands for. -/
theorem placeholder_inj {left right : Nat} (same : placeholder left = placeholder right) :
    left = right := by
  have chars := congrArg String.toList same
  simp only [placeholder] at chars
  -- a reference to the receiver begins with another character than a numbered placeholder
  split at chars <;> split at chars
  · omega
  · simp at chars
  · simp at chars
  · simp only [String.toList_append, Text.toList_toString] at chars
    have digits := congrArg (fun digits => Nat.ofDigitChars 10 digits 0)
      (List.append_cancel_left chars)
    simpa only [Nat.ofDigitChars_ten_toDigits] using digits

/-- A plain word without the characters that tell placeholders from other words. -/
def Unmarked (word : String) : Prop := Plain word ∧ '$' ∉ word.toList ∧ '@' ∉ word.toList

instance (word : String) : Decidable (Unmarked word) :=
  inferInstanceAs (Decidable (Plain word ∧ '$' ∉ word.toList ∧ '@' ∉ word.toList))

/-- No text that begins with a placeholder is an unmarked word. -/
theorem Unmarked.ne_placeholder_append {word : String} (unmarked : Unmarked word) (index : Nat)
    (rest : String) : word ≠ placeholder index ++ rest := by
  rintro rfl
  obtain ⟨-, dollar, reference⟩ := unmarked
  simp only [placeholder, String.toList_append, List.mem_append, not_or] at dollar reference
  split at dollar
  · rename_i receiver
    rw [if_pos receiver] at reference
    exact reference.1 (by decide)
  · rw [String.toList_append, List.mem_append, not_or] at dollar
    exact dollar.1.1 (by decide)

/-- The tokens of a function are plain words if its name and those of its parameters are. -/
theorem Declaration.plain_token {function : Declaration} (named : Plain function.name)
    (parameters : ∀ parameter ∈ function.parameters, Plain parameter.name) (index : Nat) :
    Plain (function.token index) := by
  rw [token]
  split
  · exact Plain.append (by decide) named
  · split
    · rename_i parameter found
      exact parameters parameter (List.mem_of_getElem? found)
    · exact plain_placeholder index

end KotlinContract
