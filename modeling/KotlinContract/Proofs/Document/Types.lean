import KotlinContract.Document.Build
import KotlinContract.Proofs.TypeName.Guess

/-!
# Types from documents

A type that a document writes is built if each of its class names has a segment that begins with an
uppercase character (`TypeForm.exists_build_iff`), and what is built mirrors it: the same function
types around the classes that its names stand for (`TypeForm.build_eq_ok_iff`).
-/
namespace KotlinContract

namespace TypeForm

/-- The type that a form stands for. -/
inductive Mirrors : TypeForm → TypeName → Prop
  /-- A shorthand is nullable if it ends in a question mark; what stands before the question marks
  names the class. -/
  | shorthand {text : String} {name : ClassName}
      (divided : name.Divides (String.ofList (TypeName.dropQuestionMarks text.toList))) :
      Mirrors (.shorthand text) (.classType name (text.toList.getLast? = some '?'))
  /-- A class is the one that is named, nullable as it is written. -/
  | classForm {text : String} {name : ClassName} (nullable : Bool)
      (divided : name.Divides text) : Mirrors (.classForm text nullable) (.classType name nullable)
  /-- A function type has the parts that are written, and the unit type for a result that is left
  out. -/
  | functionForm {parameters : List TypeForm} {types : List TypeName}
      {returns receiver : Option TypeForm} {result on : Option TypeName} (nullable : Bool)
      (all : List.Forall₂ Mirrors parameters types) (given : Option.Rel Mirrors returns result)
      (called : Option.Rel Mirrors receiver on) :
      Mirrors (.functionForm parameters returns receiver nullable)
        (.function types result on nullable)

mutual

/-- A form stands for a type if the type is built. -/
theorem build_eq_ok_iff : ∀ {form : TypeForm} {type : TypeName},
    form.build = .ok type ↔ form.Mirrors type
  | .shorthand text, type => by
    rw [build, TypeName.ofShorthand, Chain.map_eq_ok_iff]
    constructor
    · rintro ⟨name, guessed, rfl⟩
      exact .shorthand (ClassName.bestGuess_eq_ok_iff.mp guessed)
    · intro mirrored
      cases mirrored with
      | shorthand divided => exact ⟨_, ClassName.bestGuess_eq_ok_iff.mpr divided, rfl⟩
  | .classForm text nullable, type => by
    rw [build, Chain.map_eq_ok_iff]
    constructor
    · rintro ⟨name, guessed, rfl⟩
      exact .classForm nullable (ClassName.bestGuess_eq_ok_iff.mp guessed)
    · intro mirrored
      cases mirrored with
      | classForm _ divided => exact ⟨_, ClassName.bestGuess_eq_ok_iff.mpr divided, rfl⟩
  | .functionForm parameters returns receiver nullable, type => by
    simp only [build, Chain.bind_eq_ok_iff, buildAll_eq_ok_iff, buildOption_eq_ok_iff]
    constructor
    · rintro ⟨types, all, result, given, on, called, same⟩
      cases same
      exact .functionForm nullable all given called
    · intro mirrored
      cases mirrored with
      | functionForm _ all given called => exact ⟨_, all, _, given, _, called, rfl⟩

/-- Forms stand for types if these are built. -/
theorem buildAll_eq_ok_iff : ∀ {forms : List TypeForm} {types : List TypeName},
    buildAll forms = .ok types ↔ List.Forall₂ Mirrors forms types
  | [], types => by
    rw [buildAll, List.forall₂_nil_left_iff, Except.ok.injEq, eq_comm]
  | form :: rest, types => by
    simp only [buildAll, Chain.bind_eq_ok_iff, build_eq_ok_iff, buildAll_eq_ok_iff,
      List.forall₂_cons_left_iff]
    constructor
    · rintro ⟨type, first, others, later, same⟩
      exact ⟨type, others, first, later, (Except.ok.inj same).symm⟩
    · rintro ⟨type, others, first, later, rfl⟩
      exact ⟨type, first, others, later, rfl⟩

/-- A form that may be absent stands for a type if this is built. -/
theorem buildOption_eq_ok_iff : ∀ {form : Option TypeForm} {type : Option TypeName},
    buildOption form = .ok type ↔ Option.Rel Mirrors form type
  | none, type => by cases type <;> simp [buildOption]
  | some form, type => by
    simp only [buildOption, Chain.bind_eq_ok_iff, build_eq_ok_iff]
    cases type <;> simp [pure, Except.pure]

end

/-- A type is built from a form that may be absent if it is there. -/
theorem isSome_of_buildOption {form : Option TypeForm} {type : Option TypeName}
    (built : buildOption form = .ok type) : type.isSome = form.isSome := by
  cases buildOption_eq_ok_iff.mp built <;> rfl

mutual

/-- The dotted names of classes in a form, without the question marks of shorthands. -/
def classTexts : TypeForm → List String
  | .shorthand text => [String.ofList (TypeName.dropQuestionMarks text.toList)]
  | .classForm text _ => [text]
  | .functionForm parameters returns receiver _ =>
    classTextsAll parameters ++ classTextsOption returns ++ classTextsOption receiver

/-- The dotted names of classes in several forms. -/
def classTextsAll : List TypeForm → List String
  | [] => []
  | form :: rest => form.classTexts ++ classTextsAll rest

/-- The dotted names of classes in a form that may be absent. -/
def classTextsOption : Option TypeForm → List String
  | none => []
  | some form => form.classTexts

end

mutual

/-- A type is built if a class is recognised in every class name. -/
theorem exists_build_iff : ∀ form : TypeForm,
    (∃ type, form.build = .ok type) ↔ ∀ text ∈ form.classTexts, ClassName.Recognised text
  | .shorthand text => by
    rw [build, TypeName.ofShorthand, Chain.exists_map_iff, ClassName.exists_bestGuess_iff,
      classTexts, List.forall_mem_singleton]
  | .classForm text nullable => by
    rw [build, Chain.exists_map_iff, ClassName.exists_bestGuess_iff, classTexts,
      List.forall_mem_singleton]
  | .functionForm parameters returns receiver nullable => by
    simp only [build, Chain.exists_bind_iff, classTexts, List.forall_mem_append]
    rw [← exists_buildAll_iff parameters, ← exists_buildOption_iff returns,
      ← exists_buildOption_iff receiver]
    constructor
    · rintro ⟨types, all, result, given, on, called, _⟩
      exact ⟨⟨⟨types, all⟩, result, given⟩, on, called⟩
    · rintro ⟨⟨⟨types, all⟩, result, given⟩, on, called⟩
      exact ⟨types, all, result, given, on, called, _, rfl⟩

/-- Types are built if a class is recognised in every class name of each. -/
theorem exists_buildAll_iff : ∀ forms : List TypeForm,
    (∃ types, buildAll forms = .ok types) ↔
      ∀ text ∈ classTextsAll forms, ClassName.Recognised text
  | [] => by simp [buildAll, classTextsAll]
  | form :: rest => by
    simp only [buildAll, Chain.exists_bind_iff, classTextsAll, List.forall_mem_append]
    rw [← exists_build_iff form, ← exists_buildAll_iff rest]
    constructor
    · rintro ⟨type, first, types, later, _⟩
      exact ⟨⟨type, first⟩, types, later⟩
    · rintro ⟨⟨type, first⟩, types, later⟩
      exact ⟨type, first, types, later, _, rfl⟩

/-- A type that may be absent is built if a class is recognised in every class name. -/
theorem exists_buildOption_iff : ∀ form : Option TypeForm,
    (∃ type, buildOption form = .ok type) ↔
      ∀ text ∈ classTextsOption form, ClassName.Recognised text
  | none => by simp [buildOption, classTextsOption]
  | some form => by
    simp only [buildOption, Chain.exists_bind_iff, classTextsOption]
    rw [← exists_build_iff form]
    exact ⟨fun ⟨type, built, _⟩ => ⟨type, built⟩, fun ⟨type, built⟩ => ⟨type, built, _, rfl⟩⟩

end

end TypeForm

end KotlinContract
