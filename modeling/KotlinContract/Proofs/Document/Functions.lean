import KotlinContract.Proofs.Document.Types
import KotlinContract.Proofs.Drafts

/-!
# Functions from documents

A function that a document writes is built if its parameters have names, all of them different, and
a class is recognised in every class name (`FunctionForm.exists_build_iff`). What is built mirrors
it: the same parts in the same order, modifiers arranged, and each statement of the body on a line
of its own (`FunctionForm.build_eq_ok_iff`).
-/
namespace KotlinContract

namespace Declaration.Draft

/-- Statements are added to the body one after the other, each with a line feed. -/
theorem foldl_addStatement (draft : Draft) (statements : List String) :
    statements.foldl addStatement draft =
      { draft with body := draft.body ++ statements.map (· ++ "\n") } := by
  induction statements generalizing draft with
  | nil => simp
  | cons statement rest hypothesis =>
    have added : draft.addStatement statement =
        { draft with body := draft.body ++ [statement ++ "\n"] } := by
      rw [addStatement, addCode, if_neg]
      intro empty
      simpa using congrArg String.toList empty
    rw [List.foldl_cons, hypothesis, added, List.map_cons, List.append_assoc]
    rfl

end Declaration.Draft

namespace ParameterForm

/-- A form stands for a parameter of the same name, with the type that it stands for and the same
modifiers. -/
structure Mirrors (form : ParameterForm) (parameter : Parameter) : Prop where
  /-- The name is the one that is written. -/
  name : parameter.name = form.name
  /-- The type is the one that the written type stands for. -/
  type : form.type.Mirrors parameter.type
  /-- The modifiers are those that are written, arranged. -/
  modifiers : parameter.modifiers = Modifier.arranged form.modifiers

/-- A form stands for a parameter if this is built. -/
theorem build_eq_ok_iff {form : ParameterForm} {parameter : Parameter} :
    form.build = .ok parameter ↔ form.Mirrors parameter := by
  rw [build, Chain.bind_eq_ok_iff]
  simp only [TypeForm.build_eq_ok_iff]
  constructor
  · rintro ⟨type, typed, created⟩
    rw [Parameter.create] at created
    split at created
    · contradiction
    · cases created
      exact ⟨rfl, typed, rfl⟩
  · rintro ⟨name, typed, modifiers⟩
    refine ⟨parameter.type, typed, ?_⟩
    obtain ⟨_, type, _, named⟩ := parameter
    obtain rfl := name
    obtain rfl := modifiers
    rw [Parameter.create, dif_neg named]

/-- A parameter is built if it has a name and a class is recognised in every class name of its
type. -/
theorem exists_build_iff {form : ParameterForm} :
    (∃ parameter, form.build = .ok parameter) ↔
      form.name ≠ "" ∧ ∀ text ∈ form.type.classTexts, ClassName.Recognised text := by
  rw [build, Chain.exists_bind_iff, ← TypeForm.exists_build_iff]
  have created (type : TypeName) :
      (∃ parameter, Parameter.create form.name type form.modifiers = .ok parameter) ↔
        form.name ≠ "" := by
    rw [Parameter.create]
    split
    · rename_i unnamed
      simp [unnamed]
    · rename_i named
      simp [named]
  simp only [created]
  exact ⟨fun ⟨type, built, named⟩ => ⟨named, type, built⟩,
    fun ⟨named, type, built⟩ => ⟨type, built, named⟩⟩

end ParameterForm

namespace FunctionForm

/-- A form stands for a function that has all of its parts. -/
structure Mirrors (form : FunctionForm) (function : Declaration) : Prop where
  /-- The name is the one that is written. -/
  name : function.name = form.name
  /-- The parameters are those that the written ones stand for, in order. -/
  parameters : List.Forall₂ ParameterForm.Mirrors form.parameters function.parameters
  /-- The modifiers are those that are written, arranged. -/
  modifiers : function.modifiers = Modifier.arranged form.modifiers
  /-- The receiver is of the type that is written, if one is. -/
  receiver : Option.Rel TypeForm.Mirrors form.receiver function.receiver
  /-- The result is of the type that is written, if one is. -/
  returns : Option.Rel TypeForm.Mirrors form.returns function.returns
  /-- The body has a line for each statement. -/
  body : function.body = form.body.map (· ++ "\n")

/-- The names of the parameters. -/
def parameterNames (form : FunctionForm) : List String := form.parameters.map ParameterForm.name

/-- The dotted names of classes in the types of a function. -/
def classTexts (form : FunctionForm) : List String :=
  TypeForm.classTextsOption form.receiver ++ TypeForm.classTextsOption form.returns ++
    form.parameters.flatMap (·.type.classTexts)

/-- Parameters have the names that are written. -/
theorem names_eq_of_mirrors {forms : List ParameterForm} {parameters : List Parameter}
    (mirrored : List.Forall₂ ParameterForm.Mirrors forms parameters) :
    parameters.map Parameter.name = forms.map ParameterForm.name :=
  (Chain.map_eq_map_of_forall₂ mirrored fun _ _ alike => alike.name.symm).symm

/-- What remains to be checked when all types and parameters are built is that the names differ. -/
theorem build_eq_ok_iff {form : FunctionForm} {function : Declaration} :
    form.build = .ok function ↔ form.parameterNames.Nodup ∧ form.Mirrors function := by
  rw [build]
  simp only [Chain.bind_eq_ok_iff, TypeForm.buildOption_eq_ok_iff, Chain.mapM_eq_ok_iff_forall₂,
    ParameterForm.build_eq_ok_iff, Declaration.Draft.foldl_addStatement,
    Declaration.Draft.build_eq_ok_iff]
  simp only [Declaration.Draft.addParameters, Declaration.Draft.setReturns,
    Declaration.Draft.setReceiver, Declaration.Draft.addModifiers, Declaration.toDraft,
    Declaration.Draft.mk.injEq, List.nil_append]
  constructor
  · rintro ⟨receiver, on, returns, result, parameters, all, distinct, name, rfl, modifiers, rfl,
      rfl, body⟩
    rw [names_eq_of_mirrors all] at distinct
    exact ⟨distinct, name, all, modifiers, on, result, body⟩
  · rintro ⟨distinct, name, all, modifiers, on, result, body⟩
    refine ⟨_, on, _, result, _, all, ?_, name, rfl, modifiers, rfl, rfl, body⟩
    rwa [names_eq_of_mirrors all]

/-- A function is built if its parameters have names, no two of them one name, and a class is
recognised in every class name. -/
theorem exists_build_iff {form : FunctionForm} :
    (∃ function, form.build = .ok function) ↔
      (∀ name ∈ form.parameterNames, name ≠ "") ∧ form.parameterNames.Nodup ∧
        ∀ text ∈ form.classTexts, ClassName.Recognised text := by
  have parameters : (∃ parameters, form.parameters.mapM ParameterForm.build = .ok parameters) ↔
      (∀ name ∈ form.parameterNames, name ≠ "") ∧
        ∀ text ∈ form.parameters.flatMap (·.type.classTexts), ClassName.Recognised text := by
    simp only [Chain.exists_mapM_iff, ParameterForm.exists_build_iff, parameterNames,
      List.forall_mem_map, List.forall_mem_flatMap]
    exact forall₂_and
  rw [classTexts, List.forall_mem_append, List.forall_mem_append,
    ← TypeForm.exists_buildOption_iff, ← TypeForm.exists_buildOption_iff]
  constructor
  · rintro ⟨function, built⟩
    obtain ⟨distinct, mirrored⟩ := build_eq_ok_iff.mp built
    obtain ⟨named, recognised⟩ := parameters.mp ⟨_, Chain.mapM_eq_ok_iff_forall₂.mpr
      (mirrored.parameters.imp fun _ _ => ParameterForm.build_eq_ok_iff.mpr)⟩
    exact ⟨named, distinct, ⟨⟨_, TypeForm.buildOption_eq_ok_iff.mpr mirrored.receiver⟩,
      _, TypeForm.buildOption_eq_ok_iff.mpr mirrored.returns⟩, recognised⟩
  · rintro ⟨named, distinct, ⟨⟨receiver, on⟩, returns, result⟩, recognised⟩
    obtain ⟨built, all⟩ := parameters.mpr ⟨named, recognised⟩
    refine ⟨⟨form.name, built, Modifier.arranged form.modifiers, receiver, returns,
      form.body.map (· ++ "\n")⟩, build_eq_ok_iff.mpr ⟨distinct, ?_⟩⟩
    exact
      { name := rfl
        parameters := (Chain.mapM_eq_ok_iff_forall₂.mp all).imp fun _ _ =>
          ParameterForm.build_eq_ok_iff.mp
        modifiers := rfl
        receiver := TypeForm.buildOption_eq_ok_iff.mp on
        returns := TypeForm.buildOption_eq_ok_iff.mp result
        body := rfl }

end FunctionForm

end KotlinContract
