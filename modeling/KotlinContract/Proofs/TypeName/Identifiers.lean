import KotlinContract.Proofs.TypeName.Words
import KotlinContract.Text.Quoted

/-!
# Types of identifiers

Where the words of a type are identifiers, its text consists of their characters and of a few
others, its parentheses stand in pairs, and its commas stand between parentheses only. Its arrow
tells the shape of the type: it stands outside all parentheses exactly in the text of a function
type that is not nullable (`TypeName.whole_arrow_iff`).
-/
namespace KotlinContract

namespace Text

/-- Whether a character may stand in an identifier. -/
def inIdentifier (c : Char) : Bool := c.isAlphanum || c == '_'

/-- An identifier: a nonempty text of letters, digits and low lines. -/
def Identifier (word : String) : Prop := word ≠ "" ∧ Every (inIdentifier · = true) word

instance (word : String) : Decidable (Identifier word) :=
  inferInstanceAs (Decidable (word ≠ "" ∧ Every (inIdentifier · = true) word))

/-- A character of an identifier is not blank. -/
theorem isBlank_of_inIdentifier {c : Char} (inside : inIdentifier c = true) :
    isBlank c = false := by
  have visible : ∀ code < 128, inIdentifier (Char.ofNat code) = true →
      isBlank (Char.ofNat code) = false := by decide
  have low : c.toNat < 128 := by
    rcases Bool.or_eq_true_iff.mp inside with ascii | line
    · exact Nat.lt_of_le_of_lt (bounds_of_isAlphanum ascii).2 (by decide)
    · rw [beq_iff_eq.mp line]
      decide
  have here := visible c.toNat low
  rw [Char.ofNat_toNat] at here
  exact here inside

/-- A text of the characters of identifiers and of some others. -/
def Spelled (glyphs : List Char) (text : String) : Prop :=
  Every (fun c => inIdentifier c = true ∨ c ∈ glyphs) text

instance (glyphs : List Char) (text : String) : Decidable (Spelled glyphs text) :=
  inferInstanceAs (Decidable (Every (fun c => inIdentifier c = true ∨ c ∈ glyphs) text))

theorem Identifier.spelled {word : String} (identifier : Identifier word) (glyphs : List Char) :
    Spelled glyphs word :=
  fun c member => .inl (identifier.2 c member)

theorem Spelled.widen {glyphs more : List Char} {text : String} (spelled : Spelled glyphs text)
    (among : glyphs ⊆ more) : Spelled more text :=
  fun c member => (spelled c member).imp_right (among ·)

/-- No other character stands in such a text. -/
theorem Spelled.not_mem {glyphs : List Char} {text : String} (spelled : Spelled glyphs text)
    {c : Char} (other : inIdentifier c = false) (absent : c ∉ glyphs) : c ∉ text.toList := by
  intro member
  rcases spelled c member with inside | glyph
  · rw [other] at inside
    contradiction
  · exact absent glyph

/-- If it has no parentheses, it is whole with respect to every character that it cannot have. -/
theorem Spelled.whole {glyphs : List Char} {text : String} (spelled : Spelled glyphs text)
    (opening : '(' ∉ glyphs) (closing : ')' ∉ glyphs) {mark : Char}
    (other : inIdentifier mark = false) (absent : mark ∉ glyphs) : Whole mark text.toList := by
  refine .of_balanced (.of_free fun c member => ?_) (spelled.not_mem other absent)
  constructor
  · rintro rfl
    exact spelled.not_mem (by decide) opening member
  · rintro rfl
    exact spelled.not_mem (by decide) closing member

section Identifier

variable {word : String} (identifier : Identifier word)

include identifier

/-- No other character stands in an identifier. -/
theorem Identifier.not_mem {c : Char} (other : inIdentifier c = false) : c ∉ word.toList :=
  (identifier.spelled []).not_mem other List.not_mem_nil

/-- An identifier is whole with respect to every character that it cannot have. -/
theorem Identifier.whole {mark : Char} (other : inIdentifier mark = false) :
    Whole mark word.toList :=
  (identifier.spelled []).whole List.not_mem_nil List.not_mem_nil other List.not_mem_nil

/-- An identifier is balanced. -/
theorem Identifier.balanced : Balanced word.toList :=
  Whole.balanced (identifier.whole (show inIdentifier ',' = false by decide))

end Identifier

end Text

open Text (Identifier Spelled Every Balanced Whole inIdentifier)

/-- The characters of a dotted name are those of its words and points. -/
theorem ClassName.every_dotted {good : Char → Prop} (name : ClassName) (point : good '.')
    (words : ∀ word ∈ name.words, Every good word) : Every good name.dotted := by
  have joined {segments : List String} (each : ∀ segment ∈ segments, Every good segment) :
      Every good (Text.join "." segments) := Text.Every.join (by simpa [Every] using point) each
  have simple := joined fun word member => words word (List.mem_append_right _ member)
  by_cases absent : name.package = ""
  · rw [dotted, if_pos absent]
    exact simple
  · have package : Every good name.package := by
      rw [← Text.join_split '.' name.package]
      refine joined fun word member => words word ?_
      rw [ClassName.words, if_neg absent]
      exact List.mem_append_left _ member
    rw [dotted, if_neg absent]
    exact (package.append (by simpa [Every] using point)).append simple

namespace TypeName

/-- The characters of a type besides those of its words. -/
def glyphs : List Char := ['.', '?', ',', ' ', '-', '>', '(', ')']

/-- The receiver of a function type, with the point after it. -/
def receiverPart : Option TypeName → String
  | none => ""
  | some receiver =>
    (if receiver.isFunction then parenthesized receiver.render else receiver.render) ++ "."

/-- The text of a function type that is not nullable, up to its arrow. -/
def domain (parameters : List TypeName) (receiver : Option TypeName) : String :=
  receiverPart receiver ++ parenthesized (Text.join ", " (renderAll parameters))

theorem render_functionType (parameters : List TypeName) (result : TypeName)
    (receiver : Option TypeName) (nullable : Bool) :
    render (.functionType parameters result receiver nullable) =
      if nullable then
        parenthesized (domain parameters receiver ++ " -> " ++ result.render) ++ "?"
      else domain parameters receiver ++ " -> " ++ result.render := by
  cases receiver with
  | none => simp [render, domain, receiverPart]
  | some receiver => simp [render, domain, receiverPart, String.append_assoc]

/-- Every character of a type is one of an identifier or one of the others. -/
theorem spelled_render {type : TypeName} (identifiers : ∀ word ∈ type.words, Identifier word) :
    Spelled glyphs type.render := by
  have given : ∀ mark ∈ marks, Spelled glyphs mark := by decide
  exact composed_render (Text.composable_every (by decide) (by decide)) given type
    fun word member => (identifiers word member).spelled glyphs

/-- Parentheses stand in pairs in the text of a type. -/
theorem balanced_render {type : TypeName} (identifiers : ∀ word ∈ type.words, Identifier word) :
    Balanced type.render.toList := by
  have given : ∀ mark ∈ marks, Balanced mark.toList := by
    have free : ∀ mark ∈ marks, Every (fun c => c ≠ '(' ∧ c ≠ ')') mark := by decide
    exact fun mark member => .of_free (free mark member)
  exact composed_render Text.composable_balanced given type
    fun word member => (identifiers word member).balanced

/-- Parentheses stand in pairs in the texts of several types with commas between them. -/
theorem balanced_join_renderAll {types : List TypeName}
    (identifiers : ∀ word ∈ wordsAll types, Identifier word) :
    Balanced (Text.join ", " (renderAll types)).toList := by
  have given : ∀ mark ∈ marks, Balanced mark.toList := by
    have free : ∀ mark ∈ marks, Every (fun c => c ≠ '(' ∧ c ≠ ')') mark := by decide
    exact fun mark member => .of_free (free mark member)
  refine Text.composable_balanced.join (given ", " (by decide)) ?_
  exact composed_renderAll Text.composable_balanced given types
    fun word member => (identifiers word member).balanced

section Class

variable {name : ClassName} {nullable : Bool}
  (identifiers : ∀ word ∈ words (.classType name nullable), Identifier word)

include identifiers

/-- The text of a class has no other characters than points and a question mark besides those of
identifiers. -/
theorem spelled_render_classType :
    Spelled ['.', '?'] (render (.classType name nullable)) := by
  have dotted : Spelled ['.', '?'] name.dotted :=
    name.every_dotted (.inr (by decide)) fun word member =>
      (identifiers word member).spelled ['.', '?']
  rw [render]
  cases nullable with
  | false => exact dotted.append (by decide)
  | true => exact dotted.append (by decide)

/-- The text of a class is whole with respect to every character that it cannot have. -/
theorem whole_render_classType {mark : Char} (other : inIdentifier mark = false)
    (unmarked : mark ∉ ['.', '?']) : Whole mark (render (.classType name nullable)).toList :=
  (spelled_render_classType identifiers).whole (by decide) (by decide) other unmarked

end Class

section Function

variable {parameters : List TypeName} {result : TypeName} {receiver : Option TypeName}
  {nullable : Bool}
  (identifiers : ∀ word ∈ words (.functionType parameters result receiver nullable),
    Identifier word)

include identifiers

/-- The words of parameters are words of the function type. -/
theorem identifiers_parameters : ∀ word ∈ wordsAll parameters, Identifier word := by
  intro word member
  apply identifiers
  cases receiver with
  | none => exact List.mem_append_left _ member
  | some receiver => exact List.mem_append_left _ (List.mem_append_left _ member)

/-- The words of a result are words of the function type. -/
theorem identifiers_result : ∀ word ∈ result.words, Identifier word := by
  intro word member
  apply identifiers
  cases receiver with
  | none => exact List.mem_append_right _ member
  | some receiver => exact List.mem_append_left _ (List.mem_append_right _ member)

/-- The words of a receiver are words of the function type. -/
theorem identifiers_receiver : ∀ word ∈ receiver.elim [] words, Identifier word := by
  intro word member
  apply identifiers
  cases receiver with
  | none => contradiction
  | some receiver => exact List.mem_append_right _ member

/-- The text of a function type up to its arrow is whole with respect to every character that a
class cannot have. -/
theorem whole_domain {mark : Char} (other : inIdentifier mark = false)
    (unmarked : mark ∉ ['.', '?']) : Whole mark (domain parameters receiver).toList := by
  have inside := balanced_join_renderAll (identifiers_parameters identifiers)
  have front : Whole mark (receiverPart receiver).toList := by
    cases receiver with
    | none => exact .nil
    | some receiver =>
      have own : ∀ word ∈ receiver.words, Identifier word := identifiers_receiver identifiers
      have point : Whole mark ".".toList :=
        .of_balanced (.of_every (by decide)) fun member => unmarked (by simp_all)
      rw [receiverPart, String.toList_append]
      refine Text.Whole.append ?_ point
      cases receiver with
      | classType name nullable => exact whole_render_classType own other unmarked
      | functionType => exact .parenthesized (balanced_render own)
  rw [domain, String.toList_append]
  exact front.append (.parenthesized inside)

/-- Parentheses stand in pairs in the text of a function type without its question mark. -/
theorem balanced_signature :
    Balanced (domain parameters receiver ++ " -> " ++ result.render).toList := by
  have arrow : Balanced " -> ".toList := .of_every (by decide)
  have front : Whole ',' (domain parameters receiver).toList :=
    whole_domain identifiers (by decide) (by decide)
  rw [String.toList_append, String.toList_append]
  exact (front.balanced.append arrow).append (balanced_render (identifiers_result identifiers))

/-- A nullable function type stands in parentheses, so its text is whole with respect to every other
character than the question mark. -/
theorem whole_render_nullable {mark : Char} (other : mark ≠ '?') :
    Whole mark (render (.functionType parameters result receiver true)).toList := by
  have question : Whole mark "?".toList :=
    .of_balanced (.of_every (by decide)) fun member => other (by simpa using member)
  rw [render_functionType, if_pos rfl, String.toList_append]
  exact (Text.Whole.parenthesized (balanced_signature identifiers)).append question

end Function

/-- The commas in the text of a type stand between parentheses. -/
theorem whole_render : ∀ {type : TypeName}, (∀ word ∈ type.words, Identifier word) →
    Whole ',' type.render.toList
  | .classType name nullable, identifiers =>
    whole_render_classType identifiers (by decide) (by decide)
  | .functionType parameters result receiver true, identifiers =>
    whole_render_nullable identifiers (by decide)
  | .functionType parameters result receiver false, identifiers => by
    have arrow : Whole ',' " -> ".toList := .of_balanced (.of_every (by decide)) (by decide)
    have front : Whole ',' (domain parameters receiver).toList :=
      whole_domain identifiers (by decide) (by decide)
    rw [render_functionType, if_neg Bool.false_ne_true, String.toList_append, String.toList_append]
    exact (front.append arrow).append (whole_render (identifiers_result identifiers))

/-- The arrow stands outside all parentheses in the text of a function type that is not nullable,
and in no other. -/
theorem whole_arrow_iff {type : TypeName} (identifiers : ∀ word ∈ type.words, Identifier word) :
    Whole '>' type.render.toList ↔ (type.isFunction && !type.nullable) = false := by
  cases type with
  | classType name nullable =>
    exact iff_of_true (whole_render_classType identifiers (by decide) (by decide)) rfl
  | functionType parameters result receiver nullable =>
    cases nullable with
    | true => exact iff_of_true (whole_render_nullable identifiers (by decide)) rfl
    | false =>
      refine iff_of_false ?_ (by simp [isFunction, TypeName.nullable])
      have front : Whole '>' (domain parameters receiver).toList :=
        whole_domain identifiers (by decide) (by decide)
      have line : Whole '>' " -".toList := .of_balanced (.of_every (by decide)) (by decide)
      have outside := (front.append line).not_whole_append (by decide) (' ' :: result.render.toList)
      rw [render_functionType, if_neg Bool.false_ne_true, String.toList_append,
        String.toList_append]
      simpa using outside

end TypeName

end KotlinContract
