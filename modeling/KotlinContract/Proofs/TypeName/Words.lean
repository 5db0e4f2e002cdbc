import KotlinContract.Proofs.Text.Composed

/-!
# The words of types

The text of a type is composed of the segments of the class names in it, its words, and of a few
marks. A composable property that holds of the words and the marks therefore holds of the text
(`TypeName.composed_render`).
-/
namespace KotlinContract

open Text (Composable)

/-- The segments of a class name: those of the package, if there is one, and the simple names. -/
def ClassName.words (name : ClassName) : List String :=
  (if name.package = "" then [] else Text.split '.' name.package) ++ name.simpleNames

/-- The dotted name is composed of its words and points. -/
theorem ClassName.composed_dotted {holds : String → Prop} (composable : Composable holds)
    {name : ClassName} (point : holds ".") (words : ∀ word ∈ name.words, holds word) :
    holds name.dotted := by
  have simple : holds (Text.join "." name.simpleNames) :=
    composable.join point fun word member => words word (List.mem_append_right _ member)
  by_cases absent : name.package = ""
  · simpa [dotted, absent] using simple
  · have package : holds name.package := by
      rw [← Text.join_split '.' name.package]
      refine composable.join point fun word member => words word ?_
      rw [ClassName.words, if_neg absent]
      exact List.mem_append_left _ member
    rw [dotted, if_neg absent]
    exact composable.append (composable.append package point) simple

namespace TypeName

mutual

/-- The segments of the class names in a type. -/
def words : TypeName → List String
  | .classType name _ => name.words
  | .functionType parameters result none _ => wordsAll parameters ++ result.words
  | .functionType parameters result (some receiver) _ =>
    wordsAll parameters ++ result.words ++ receiver.words

/-- The segments of the class names in several types. -/
def wordsAll : List TypeName → List String
  | [] => []
  | type :: types => type.words ++ wordsAll types

end

/-- What the text of a type is composed of besides its words and parentheses. -/
def marks : List String := [".", "?", ", ", " -> "]

section Composed

variable {holds : String → Prop}

/-- The text of a function type without its receiver. -/
theorem composed_arrow (composable : Composable holds) (given : ∀ mark ∈ marks, holds mark)
    {parameters : List String} {result : String} (each : ∀ text ∈ parameters, holds text)
    (last : holds result) :
    holds (parenthesized (Text.join ", " parameters) ++ " -> " ++ result) :=
  composable.append
    (composable.append (composable.parenthesized (composable.join (given ", " (by decide)) each))
      (given " -> " (by decide))) last

/-- A text, in parentheses and with a question mark if it is nullable. -/
theorem composed_nullable (composable : Composable holds) (given : ∀ mark ∈ marks, holds mark)
    {text : String} (inside : holds text) (nullable : Bool) :
    holds (if nullable then parenthesized text ++ "?" else text) := by
  cases nullable with
  | false => exact inside
  | true => exact composable.append (composable.parenthesized inside) (given "?" (by decide))

mutual

/-- The text of a type is composed of its words and the marks. -/
theorem composed_render (composable : Composable holds) (given : ∀ mark ∈ marks, holds mark) :
    ∀ type : TypeName, (∀ word ∈ type.words, holds word) → holds type.render
  | .classType name nullable, words => by
    have dotted := ClassName.composed_dotted composable (given "." (by decide)) words
    rw [render]
    cases nullable with
    | false => exact composable.append dotted composable.empty
    | true => exact composable.append dotted (given "?" (by decide))
  | .functionType parameters result none nullable, words => by
    have each := composed_renderAll composable given parameters fun word member =>
      words word (List.mem_append_left _ member)
    have last := composed_render composable given result fun word member =>
      words word (List.mem_append_right _ member)
    rw [render]
    exact composed_nullable composable given (composed_arrow composable given each last) nullable
  | .functionType parameters result (some receiver) nullable, words => by
    have each := composed_renderAll composable given parameters fun word member =>
      words word (List.mem_append_left _ (List.mem_append_left _ member))
    have last := composed_render composable given result fun word member =>
      words word (List.mem_append_left _ (List.mem_append_right _ member))
    have front := composed_render composable given receiver fun word member =>
      words word (List.mem_append_right _ member)
    have whole : holds ((if receiver.isFunction then parenthesized receiver.render
        else receiver.render) ++ ".") := by
      split
      · exact composable.append (composable.parenthesized front) (given "." (by decide))
      · exact composable.append front (given "." (by decide))
    rw [render]
    exact composed_nullable composable given
      (composable.append whole (composed_arrow composable given each last)) nullable

/-- The texts of several types are composed of their words and the marks. -/
theorem composed_renderAll (composable : Composable holds)
    (given : ∀ mark ∈ marks, holds mark) :
    ∀ types : List TypeName, (∀ word ∈ wordsAll types, holds word) →
      ∀ text ∈ renderAll types, holds text
  | [], _ => by simp [renderAll]
  | type :: types, words => by
    intro text member
    rw [renderAll, List.mem_cons] at member
    rcases member with rfl | later
    · exact composed_render composable given type fun word found =>
        words word (List.mem_append_left _ found)
    · exact composed_renderAll composable given types
        (fun word found => words word (List.mem_append_right _ found)) text later

end

end Composed

end TypeName

end KotlinContract
