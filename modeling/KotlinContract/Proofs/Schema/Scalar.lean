import KotlinContract.Proofs.Schema.Grammar
import KotlinContract.Proofs.Schema.Numeral

/-!
# Grammars of scalars

Which JSON values are texts, words, constants and whole numbers, and which stand for truth values
and whole numbers where they are read generously. Each reading of a scalar is exact for its grammar.
-/
namespace KotlinContract.Schema

/-- The value is a text. -/
inductive IsText : Json → String → Prop where
  /-- Any text. -/
  | intro (text : String) : IsText (.text text) text

/-- The value is a whole number. -/
inductive IsInteger : Json → Int → Prop where
  /-- Any whole number. -/
  | intro (number : Int) : IsInteger (.integer number) number

/-- The value is a constant, of any kind of scalars. -/
inductive IsConstant : Json → Literal → Prop where
  /-- Any scalar. -/
  | intro (literal : Literal) : IsConstant literal.toJson literal

/-- The value is the word for one of several things. -/
inductive IsWord {α : Type} (things : List α) (spelled : α → String) : Json → α → Prop where
  /-- The word for any of them. -/
  | intro {thing : α} (among : thing ∈ things) : IsWord things spelled (.text (spelled thing)) thing

/-- The value is a truth value or stands for one. -/
inductive StandsForBoolean : Json → Bool → Prop where
  /-- A truth value stands for itself. -/
  | boolean (truth : Bool) : StandsForBoolean (.boolean truth) truth
  /-- One stands for true and zero for false. -/
  | integer (truth : Bool) : StandsForBoolean (.integer truth.toInt) truth
  /-- Floating-point numbers stand for what the whole numbers do that they are. -/
  | real {number : Float} {truth : Bool} (whole : wholeOfReal number = .exact truth.toInt) :
    StandsForBoolean (.real number) truth
  /-- Some words stand for true and some for false, in letters of either case. -/
  | text {text : String} {truth : Bool}
    (word : String.ofList (lowerChars text.toList) ∈ if truth then trueWords else falseWords) :
    StandsForBoolean (.text text) truth

/-- The value is a whole number or stands for one. -/
inductive StandsForInteger : Json → Int → Prop where
  /-- A whole number stands for itself. -/
  | integer (number : Int) : StandsForInteger (.integer number) number
  /-- True stands for one and false for zero. -/
  | boolean (truth : Bool) : StandsForInteger (.boolean truth) truth.toInt
  /-- Floating-point numbers stand for the whole numbers that they are, if these are small. -/
  | real {value : Float} {number : Int} (whole : wholeOfReal value = .exact number)
    (low : -bound64 < number) (high : number < bound64) : StandsForInteger (.real value) number
  /-- Numerals stand for their numbers. -/
  | text {text : String} {number : Int} (numeral : Numeral text.toList number) :
    StandsForInteger (.text text) number

/-- Texts are read exactly. -/
theorem exact_text : Exact text IsText where
  iff {value result} := by
    cases value with
    | text found =>
      rw [text, Checked.valid.injEq]
      exact ⟨fun same => same ▸ .intro found, fun ⟨_⟩ => rfl⟩
    | _ => exact ⟨nofun, nofun⟩

/-- Whole numbers are read exactly, where nothing stands for them. -/
theorem exact_exactInteger : Exact exactInteger IsInteger where
  iff {value result} := by
    cases value with
    | integer found =>
      rw [exactInteger, Checked.valid.injEq]
      exact ⟨fun same => same ▸ .intro found, fun ⟨_⟩ => rfl⟩
    | _ => exact ⟨nofun, nofun⟩

/-- Constants are read exactly. -/
theorem exact_constant : Exact constant IsConstant where
  iff {value result} := by
    constructor
    · intro read
      cases value with
      | null => cases read; exact .intro .null
      | boolean truth => cases read; exact .intro (.boolean truth)
      | integer number => cases read; exact .intro (.integer number)
      | real number => cases read; exact .intro (.real number)
      | text found => cases read; exact .intro (.verbatim found)
      | array _ => contradiction
      | object _ => contradiction
    · rintro ⟨_⟩
      rw [constant, Literal.ofJson?_toJson]

/-- Words that tell things apart are read exactly. -/
theorem exact_word {α : Type} {things : List α} {spelled : α → String}
    (apart : ∀ thing ∈ things, things.find? (spelled · = spelled thing) = some thing) :
    Exact (word fun text => things.find? (spelled · = text)) (IsWord things spelled) where
  iff {value result} := by
    cases value with
    | text found =>
      constructor
      · intro read
        rw [word] at read
        split at read
        · rename_i spells
          cases read
          have same : spelled result = found := by simpa using List.find?_some spells
          exact same ▸ .intro (List.mem_of_find?_eq_some spells)
        · contradiction
      · rintro ⟨among⟩
        rw [word, apart result among]
    | _ => exact ⟨nofun, nofun⟩

/-- A text stands for a truth value if it is one of the words for it. -/
theorem booleanOfText?_eq_some_iff {text : String} {truth : Bool} :
    booleanOfText? text = some truth ↔
      String.ofList (lowerChars text.toList) ∈ if truth then trueWords else falseWords := by
  have apart : ∀ word ∈ trueWords, word ∉ falseWords := by decide
  rw [booleanOfText?]
  generalize String.ofList (lowerChars text.toList) = lowered
  by_cases yes : lowered ∈ trueWords
  · cases truth <;> simp [yes, apart lowered yes]
  · cases truth <;> simp [yes]

/-- What stands for a truth value is read exactly. -/
theorem exact_boolean : Exact boolean StandsForBoolean where
  iff {value result} := by
    cases value with
    | boolean truth =>
      rw [boolean, Checked.valid.injEq]
      exact ⟨fun same => same ▸ .boolean truth, by rintro ⟨⟩; rfl⟩
    | integer number =>
      constructor
      · intro read
        simp only [boolean] at read
        split at read
        · rename_i zero
          cases read
          exact zero ▸ .integer false
        split at read
        · rename_i one
          cases read
          exact one ▸ .integer true
        split at read <;> contradiction
      · rintro ⟨_⟩
        cases result <;> rfl
    | real number =>
      constructor
      · intro read
        rw [boolean] at read
        split at read
        · cases read
          exact .real ‹_›
        · cases read
          exact .real ‹_›
        · contradiction
      · rintro (_ | _ | whole)
        rw [boolean, whole]
        cases result <;> rfl
    | text found =>
      constructor
      · intro read
        rw [boolean] at read
        split at read
        · rename_i truth stands
          cases read
          exact .text (booleanOfText?_eq_some_iff.mp stands)
        · contradiction
      · rintro (_ | _ | _ | stands)
        rw [boolean, booleanOfText?_eq_some_iff.mpr stands]
    | _ => exact ⟨nofun, nofun⟩

/-- What stands for a whole number is read exactly. -/
theorem exact_integer : Exact integer StandsForInteger where
  iff {value result} := by
    cases value with
    | boolean truth =>
      rw [integer, Checked.valid.injEq]
      constructor
      · rintro rfl
        cases truth
        · exact .boolean false
        · exact .boolean true
      · rintro ⟨_⟩
        cases truth <;> rfl
    | integer number =>
      rw [integer, Checked.valid.injEq]
      exact ⟨fun same => same ▸ .integer number, by rintro ⟨⟩; rfl⟩
    | real number =>
      constructor
      · intro read
        rw [integer] at read
        split at read
        · rename_i found whole
          split at read
          · rename_i safe
            cases read
            simp only [isSafeReal, Bool.and_eq_true, decide_eq_true_eq] at safe
            exact .real whole safe.1 safe.2
          · contradiction
        · contradiction
        · contradiction
      · rintro (_ | _ | ⟨whole, low, high⟩)
        simp [integer, whole, isSafeReal, low, high]
    | text found =>
      constructor
      · intro read
        rw [integer] at read
        split at read
        · rename_i stands
          cases read
          exact .text (integerOfText?_eq_some_iff.mp stands)
        · contradiction
      · rintro (_ | _ | _ | numeral)
        rw [integer, integerOfText?_eq_some_iff.mpr numeral]
    | _ => exact ⟨nofun, nofun⟩

end KotlinContract.Schema
