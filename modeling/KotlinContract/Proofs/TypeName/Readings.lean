import KotlinContract.Proofs.Text.Ended
import KotlinContract.Proofs.Text.Separated
import KotlinContract.Proofs.TypeName.Identifiers
import Mathlib.Data.List.Forall2

/-!
# Reading types off their texts

Where the words of types are identifiers, a type can be read off its text: what stands outside all
parentheses tells a class from a function type and a nullable function type from another, the arrow
ends what a function type takes, its parentheses tell the receiver from the parameters, and commas
tell these. Only the points of a dotted name do not tell where the package ends. So two types have
one text if and only if they are the same up to that (`TypeName.render_eq_iff`).
-/
namespace KotlinContract

open Text (Identifier Balanced Whole)

namespace ClassName

/-- The words of a class are not missing. -/
theorem words_ne_nil (name : ClassName) : name.words ≠ [] :=
  List.append_ne_nil_of_right_ne_nil _ name.simpleNames_ne_nil

/-- A dotted name is its words with points between them. -/
theorem dotted_eq_join (name : ClassName) : name.dotted = Text.join "." name.words := by
  by_cases absent : name.package = ""
  · rw [dotted, words, if_pos absent, if_pos absent, List.nil_append]
  · have package : Text.join "." (Text.split '.' name.package) = name.package :=
      Text.join_split '.' name.package
    have segments : Text.split '.' name.package ≠ [] := by
      simpa [Text.split] using Text.splitChars_ne_nil '.' name.package.toList
    rw [dotted, words, if_neg absent, if_neg absent,
      Text.join_append "." segments name.simpleNames_ne_nil, package]

/-- Where words are identifiers, a dotted name tells them. -/
theorem words_eq_of_dotted_eq {left right : ClassName}
    (identifiers : ∀ word ∈ left.words, Identifier word)
    (identifiers' : ∀ word ∈ right.words, Identifier word) (same : left.dotted = right.dotted) :
    left.words = right.words := by
  have split {name : ClassName} (identifiers : ∀ word ∈ name.words, Identifier word) :
      Text.split '.' name.dotted = name.words := by
    rw [dotted_eq_join, show "." = String.singleton '.' from rfl]
    exact Text.split_join name.words_ne_nil
      fun word member => (identifiers word member).not_mem (by decide)
  rw [← split identifiers, same, split identifiers']

end ClassName

namespace TypeName

/-- Two types are the same, but that dotted names may be divided into packages and simple names in
different places. -/
inductive SameWords : TypeName → TypeName → Prop where
  /-- A class has the same words. -/
  | classType {left right : ClassName} (nullable : Bool) (words : left.words = right.words) :
    SameWords (.classType left nullable) (.classType right nullable)
  /-- The parts of a function type are the same in this sense. -/
  | functionType {parameters others : List TypeName} {result value : TypeName}
      {receiver on : Option TypeName} (nullable : Bool)
      (all : List.Forall₂ SameWords parameters others) (given : SameWords result value)
      (called : Option.Rel SameWords receiver on) :
    SameWords (.functionType parameters result receiver nullable)
      (.functionType others value on nullable)

section Class

variable {name : ClassName} {nullable : Bool}
  (identifiers : ∀ word ∈ words (.classType name nullable), Identifier word)

include identifiers

/-- The text of a class has no parenthesis. -/
theorem opening_not_mem : '(' ∉ (render (.classType name nullable)).toList :=
  (spelled_render_classType identifiers).not_mem (by decide) (by decide)

/-- The text of a class has a question mark if the class is nullable. -/
theorem question_mem_iff : '?' ∈ (render (.classType name nullable)).toList ↔ nullable = true := by
  have unmarked : Text.Every (· ≠ '?') name.dotted :=
    name.every_dotted (by decide) fun word member c found same =>
      (identifiers word member).not_mem (c := '?') (by decide) (same ▸ found)
  have dotted : '?' ∉ name.dotted.toList := fun member => unmarked '?' member rfl
  rw [render, String.toList_append, List.mem_append]
  cases nullable <;> simp [dotted]

/-- There is a character in the text of a class, since there is one in its simple name. -/
theorem render_classType_ne_empty : render (.classType name nullable) ≠ "" := by
  rw [render, ClassName.dotted_eq_join]
  obtain ⟨first, others, segments⟩ := List.exists_cons_of_ne_nil name.words_ne_nil
  have stated : first ≠ "" := (identifiers first (by rw [words, segments]; simp)).1
  rw [segments]
  by_cases last : others = []
  · subst last
    simpa [Text.join] using fun empty => absurd empty stated
  · rw [Text.join_cons _ _ last]
    simp

end Class

/-- The text of a class tells its words and whether it is nullable. -/
theorem render_classType_inj {left right : ClassName} {nullable nullable' : Bool}
    (identifiers : ∀ word ∈ words (.classType left nullable), Identifier word)
    (identifiers' : ∀ word ∈ words (.classType right nullable'), Identifier word)
    (same : render (.classType left nullable) = render (.classType right nullable')) :
    left.words = right.words ∧ nullable = nullable' := by
  have marked : nullable = nullable' := by
    rw [Bool.eq_iff_iff, ← question_mem_iff identifiers, ← question_mem_iff identifiers', same]
  subst marked
  rw [render, render, String.append_left_inj] at same
  exact ⟨ClassName.words_eq_of_dotted_eq identifiers identifiers' same, rfl⟩

section Domain

variable {parameters others : List TypeName} {receiver on : Option TypeName}

/-- The texts of parameters as they stand between their parentheses. -/
def listed (parameters : List TypeName) : List Char :=
  (Text.join ", " (renderAll parameters)).toList

/-- Without a receiver, what a function type takes is its parameters in parentheses. -/
theorem toList_domain_none (parameters : List TypeName) :
    (domain parameters none).toList = '(' :: (listed parameters ++ [')']) := by
  simp [domain, receiverPart, parenthesized, listed]

/-- A class that is the receiver stands in front of them with a point. -/
theorem toList_domain_class (parameters : List TypeName) (name : ClassName) (nullable : Bool) :
    (domain parameters (some (.classType name nullable))).toList =
      ((render (.classType name nullable)).toList ++ ['.']) ++
        '(' :: (listed parameters ++ [')']) := by
  simp [domain, receiverPart, parenthesized, listed, isFunction]

/-- A function type that is the receiver does so in parentheses. -/
theorem toList_domain_function (parameters : List TypeName) (inputs : List TypeName)
    (result : TypeName) (receiver : Option TypeName) (nullable : Bool) :
    (domain parameters (some (.functionType inputs result receiver nullable))).toList =
      '(' :: ((render (.functionType inputs result receiver nullable)).toList ++
        ')' :: '.' :: '(' :: (listed parameters ++ [')'])) := by
  simp [domain, receiverPart, parenthesized, listed, isFunction]

/-- What a function type takes is told by its text. -/
theorem domain_inj (inside : Balanced (listed parameters)) (inside' : Balanced (listed others))
    (identifiers : ∀ word ∈ receiver.elim [] words, Identifier word)
    (identifiers' : ∀ word ∈ on.elim [] words, Identifier word)
    (same : domain parameters receiver = domain others on) :
    receiver.map render = on.map render ∧ listed parameters = listed others := by
  have chars := congrArg String.toList same
  -- the text of a class and the point after it end where the parameters begin
  have begins {text rest rest' : List Char} (free : '(' ∉ text) :
      (text ++ ['.']) ++ rest ≠ '(' :: rest' := by
    intro same
    cases text with
    | nil => simp at same
    | cons c others => exact free ((List.cons.inj same).1 ▸ List.mem_cons_self)
  match receiver, on with
  | none, none =>
    rw [toList_domain_none, toList_domain_none, List.cons.injEq] at chars
    exact ⟨rfl, (inside.close_inj inside' chars.2).1⟩
  | some (.classType name nullable), some (.classType name' nullable') =>
    rw [toList_domain_class, toList_domain_class] at chars
    obtain ⟨texts, rest⟩ := Text.ended_inj (by simpa using opening_not_mem identifiers)
      (by simpa using opening_not_mem identifiers') chars
    rw [List.append_cancel_right_eq, String.toList_inj] at texts
    exact ⟨congrArg some texts, List.append_cancel_right rest⟩
  | some (.functionType ..), some (.functionType ..) =>
    rw [toList_domain_function, toList_domain_function, List.cons.injEq] at chars
    obtain ⟨texts, rest⟩ :=
      (balanced_render identifiers).close_inj (balanced_render identifiers') chars.2
    simp only [List.cons.injEq, true_and] at rest
    exact ⟨congrArg some (String.toList_injective texts), List.append_cancel_right rest⟩
  | none, some (.classType ..) =>
    rw [toList_domain_none, toList_domain_class] at chars
    exact absurd chars.symm (begins (opening_not_mem identifiers'))
  | some (.classType ..), none =>
    rw [toList_domain_none, toList_domain_class] at chars
    exact absurd chars (begins (opening_not_mem identifiers))
  | some (.classType ..), some (.functionType ..) =>
    rw [toList_domain_class, toList_domain_function] at chars
    exact absurd chars (begins (opening_not_mem identifiers))
  | some (.functionType ..), some (.classType ..) =>
    rw [toList_domain_class, toList_domain_function] at chars
    exact absurd chars.symm (begins (opening_not_mem identifiers'))
  -- the parenthesis that closes the parameters ends the text, the one after a receiver does not
  | none, some (.functionType ..) =>
    rw [toList_domain_none, toList_domain_function, List.cons.injEq] at chars
    exact nomatch (inside.close_inj (balanced_render identifiers') chars.2).2
  | some (.functionType ..), none =>
    rw [toList_domain_none, toList_domain_function, List.cons.injEq] at chars
    exact nomatch ((balanced_render identifiers).close_inj inside' chars.2).2

end Domain

section Function

variable {parameters others : List TypeName} {result value : TypeName}
  {receiver on : Option TypeName} {nullable nullable' : Bool}

/-- The text of a function type has parentheses around its parameters. -/
theorem opening_mem_render :
    '(' ∈ (render (.functionType parameters result receiver nullable)).toList := by
  have opens : '(' ∈ (domain parameters receiver).toList := by simp [domain, parenthesized]
  rw [render_functionType]
  cases nullable <;> simp [parenthesized, opens]

variable
  (identifiers : ∀ word ∈ words (.functionType parameters result receiver nullable),
    Identifier word)
  (identifiers' : ∀ word ∈ words (.functionType others value on nullable'), Identifier word)

include identifiers identifiers'

/-- The arrow outside all parentheses ends what a function type takes. -/
theorem signature_inj
    (same : domain parameters receiver ++ " -> " ++ result.render =
      domain others on ++ " -> " ++ value.render) :
    domain parameters receiver = domain others on ∧ result.render = value.render := by
  have line : Whole '>' " -".toList := .of_balanced (.of_every (by decide)) (by decide)
  have front := (whole_domain identifiers (by decide) (by decide)).append line
  have front' := (whole_domain identifiers' (by decide) (by decide)).append line
  have chars := congrArg String.toList same
  have ended : ((domain parameters receiver).toList ++ " -".toList) ++
        '>' :: ' ' :: result.render.toList =
      ((domain others on).toList ++ " -".toList) ++ '>' :: ' ' :: value.render.toList := by
    simpa [String.toList_append] using chars
  obtain ⟨domains, results⟩ := front.ended_inj (by decide) front' ended
  exact ⟨String.toList_injective (List.append_cancel_right domains),
    String.toList_injective (List.cons.inj results).2⟩

/-- The text of a function type tells what it takes, the text of its result and whether it is
nullable. -/
theorem render_functionType_inj
    (same : render (.functionType parameters result receiver nullable) =
      render (.functionType others value on nullable')) :
    domain parameters receiver = domain others on ∧ result.render = value.render ∧
      nullable = nullable' := by
  have marked : nullable = nullable' := by
    have arrow := whole_arrow_iff identifiers
    rw [same, whole_arrow_iff identifiers'] at arrow
    change (!nullable') = false ↔ (!nullable) = false at arrow
    rw [Bool.not_eq_false', Bool.not_eq_false'] at arrow
    exact (Bool.eq_iff_iff.mpr arrow).symm
  subst marked
  rw [render_functionType, render_functionType] at same
  have signatures : domain parameters receiver ++ " -> " ++ result.render =
      domain others on ++ " -> " ++ value.render := by
    cases nullable with
    | false => exact same
    | true => simpa [parenthesized, String.append_left_inj, String.append_right_inj] using same
  obtain ⟨domains, results⟩ := signature_inj identifiers identifiers' signatures
  exact ⟨domains, results, rfl⟩

end Function

/-- There is a character in the text of a type. -/
theorem render_ne_empty {type : TypeName} (identifiers : ∀ word ∈ type.words, Identifier word) :
    type.render ≠ "" := by
  cases type with
  | classType name nullable => exact render_classType_ne_empty identifiers
  | functionType parameters result receiver nullable =>
    intro empty
    have opens : '(' ∈ (render (.functionType parameters result receiver nullable)).toList :=
      opening_mem_render
    simp [empty] at opens

/-- The text of a parameter ends where a comma stands outside all parentheses. -/
theorem whole_renderAll {types : List TypeName}
    (identifiers : ∀ word ∈ wordsAll types, Identifier word) :
    ∀ text ∈ (renderAll types).map String.toList, Whole ',' text ∧ text ≠ [] := by
  induction types with
  | nil => exact nofun
  | cons type rest hypothesis =>
    rw [wordsAll, List.forall_mem_append] at identifiers
    rw [renderAll, List.map_cons, List.forall_mem_cons]
    have stated : type.render.toList ≠ [] := fun empty =>
      render_ne_empty identifiers.1 (String.toList_eq_nil_iff.mp empty)
    exact ⟨⟨whole_render identifiers.1, stated⟩, hypothesis identifiers.2⟩

/-- The texts of parameters are told from what stands between their parentheses. -/
theorem renderAll_eq_of_listed_eq {lefts rights : List TypeName}
    (identifiers : ∀ word ∈ wordsAll lefts, Identifier word)
    (identifiers' : ∀ word ∈ wordsAll rights, Identifier word)
    (same : listed lefts = listed rights) :
    renderAll lefts = renderAll rights := by
  rw [listed, listed, Text.toList_join, Text.toList_join] at same
  have texts : (renderAll lefts).map String.toList = (renderAll rights).map String.toList :=
    @Text.joinChars_inj ',' (by decide) [' '] _ _ (whole_renderAll identifiers)
      (whole_renderAll identifiers') same
  exact List.map_injective_iff.mpr (fun _ _ => String.toList_injective) texts

mutual

/-- Where the words of two types are identifiers, the types have one text only if they are the same
up to the division of dotted names. -/
theorem sameWords_of_render_eq : ∀ {left right : TypeName},
    (∀ word ∈ left.words, Identifier word) → (∀ word ∈ right.words, Identifier word) →
    left.render = right.render → SameWords left right
  | .classType name nullable, .classType name' nullable', identifiers, identifiers', same => by
    obtain ⟨words, rfl⟩ := render_classType_inj identifiers identifiers' same
    exact .classType nullable words
  | .classType .., .functionType .., identifiers, _, same =>
    absurd (same ▸ opening_mem_render) (opening_not_mem identifiers)
  | .functionType .., .classType .., _, identifiers, same =>
    absurd (same ▸ opening_mem_render) (opening_not_mem identifiers)
  | .functionType parameters result receiver nullable,
      .functionType others value on nullable', identifiers, identifiers', same => by
    obtain ⟨domains, results, rfl⟩ := render_functionType_inj identifiers identifiers' same
    have inputs := identifiers_parameters identifiers
    have inputs' := identifiers_parameters identifiers'
    have called := identifiers_receiver identifiers
    have called' := identifiers_receiver identifiers'
    obtain ⟨receivers, lists⟩ := domain_inj (balanced_join_renderAll inputs)
      (balanced_join_renderAll inputs') called called' domains
    exact .functionType nullable
      (sameWords_of_renderAll_eq inputs inputs' (renderAll_eq_of_listed_eq inputs inputs' lists))
      (sameWords_of_render_eq (identifiers_result identifiers) (identifiers_result identifiers')
        results)
      (sameWords_of_map_render_eq called called' receivers)

/-- The same holds of several types. -/
theorem sameWords_of_renderAll_eq : ∀ {lefts rights : List TypeName},
    (∀ word ∈ wordsAll lefts, Identifier word) → (∀ word ∈ wordsAll rights, Identifier word) →
    renderAll lefts = renderAll rights → List.Forall₂ SameWords lefts rights
  | [], [], _, _, _ => .nil
  | left :: lefts, right :: rights, identifiers, identifiers', same => by
    rw [wordsAll, List.forall_mem_append] at identifiers identifiers'
    rw [renderAll, renderAll, List.cons.injEq] at same
    exact .cons (sameWords_of_render_eq identifiers.1 identifiers'.1 same.1)
      (sameWords_of_renderAll_eq identifiers.2 identifiers'.2 same.2)

/-- The same holds of types that may be absent. -/
theorem sameWords_of_map_render_eq : ∀ {left right : Option TypeName},
    (∀ word ∈ left.elim [] words, Identifier word) →
    (∀ word ∈ right.elim [] words, Identifier word) →
    left.map render = right.map render → Option.Rel SameWords left right
  | none, none, _, _, _ => .none
  | some _, some _, identifiers, identifiers', same =>
    .some (sameWords_of_render_eq identifiers identifiers' (Option.some.inj same))

end

mutual

/-- Types that are the same up to the division of dotted names have one text. -/
theorem render_eq_of_sameWords : ∀ {left right : TypeName}, SameWords left right →
    left.render = right.render
  | .classType left _, _, .classType nullable words => by
    rw [render, render, ClassName.dotted_eq_join, ClassName.dotted_eq_join, words]
  | .functionType parameters result receiver _, _, .functionType nullable all given called => by
    rw [render_functionType, render_functionType, domain, domain, renderAll_eq_of_sameWords all,
      render_eq_of_sameWords given, receiverPart_eq_of_sameWords called]

/-- The same holds of several types. -/
theorem renderAll_eq_of_sameWords : ∀ {lefts rights : List TypeName},
    List.Forall₂ SameWords lefts rights → renderAll lefts = renderAll rights
  | [], _, .nil => rfl
  | left :: lefts, _, .cons first rest => by
    rw [renderAll, renderAll, render_eq_of_sameWords first, renderAll_eq_of_sameWords rest]

/-- The same holds of a receiver. -/
theorem receiverPart_eq_of_sameWords : ∀ {left right : Option TypeName},
    Option.Rel SameWords left right → receiverPart left = receiverPart right
  | none, _, .none => rfl
  | some left, _, .some same => by
    have texts := render_eq_of_sameWords same
    cases same with
    | classType => rw [receiverPart, receiverPart, texts]; rfl
    | functionType => rw [receiverPart, receiverPart, texts]; rfl

end

/-- Rendering is unambiguous. Where the words of two types are identifiers, the types have one text
if and only if they are the same up to where dotted names are divided into packages and simple
names. -/
theorem render_eq_iff {left right : TypeName} (identifiers : ∀ word ∈ left.words, Identifier word)
    (identifiers' : ∀ word ∈ right.words, Identifier word) :
    left.render = right.render ↔ SameWords left right :=
  ⟨sameWords_of_render_eq identifiers identifiers', render_eq_of_sameWords⟩

/-- A nullable function on map entries that is the receiver of a function with two parameters, the
second of them a function with a receiver; the entries are named with this package. -/
def entryMapping (package outermost : String) (nested : List String) : TypeName :=
  .functionType
    [.string, .functionType [.int, .any] .unit (some (.withNullable true .string)) false]
    (.functionType [] .nothing none true)
    (some (.functionType [.classType ⟨package, outermost, nested⟩ true] .long none true)) false

/-- The nested class and a class of the same name in a package of the outer class's name are written
alike. -/
theorem render_eq_iff_entryMapping :
    (∀ word ∈ (entryMapping "kotlin.collections" "Map" ["Entry"]).words, Identifier word) ∧
      (∀ word ∈ (entryMapping "kotlin.collections.Map" "Entry" []).words, Identifier word) ∧
      SameWords (entryMapping "kotlin.collections" "Map" ["Entry"])
        (entryMapping "kotlin.collections.Map" "Entry" []) := by
  have identifiers : ∀ word ∈ (entryMapping "kotlin.collections" "Map" ["Entry"]).words,
      Identifier word := by decide
  have identifiers' : ∀ word ∈ (entryMapping "kotlin.collections.Map" "Entry" []).words,
      Identifier word := by decide
  exact ⟨identifiers, identifiers', (render_eq_iff identifiers identifiers').mp (by decide)⟩

end TypeName

end KotlinContract
