import KotlinContract.Proofs.Text.Separated
import KotlinContract.Proofs.TypeName.Guess

/-!
# Names of compiled metadata as dotted names

Where the names of packages and classes follow the conventions, a name of compiled metadata and the
dotted name with a point for each slash stand for the same class
(`ClassName.Conventional.exists_ofMetadataName_and_bestGuess`).
-/
namespace KotlinContract.ClassName

variable {name : String}

/-- The segments in front of the last slash hold no point and do not begin with an uppercase
character, and the first of the simple names after it does. -/
def Conventional (name : String) : Prop :=
  ∃ (package : List String) (classes outermost : String) (nested : List String),
    Text.split '/' name = package ++ [classes] ∧
      (∀ segment ∈ package, '.' ∉ segment.toList ∧ startsUppercase segment = false) ∧
      Text.split '.' classes = outermost :: nested ∧ startsUppercase outermost = true

/-- A conventional name does not begin with a point. -/
theorem Conventional.head?_ne (conventional : Conventional name) :
    name.toList.head? ≠ some '.' := by
  obtain ⟨package, classes, outermost, nested, whole, lower, simple, upper⟩ := conventional
  intro point
  obtain ⟨rest, begins⟩ := List.head?_eq_some_iff.mp point
  obtain ⟨segment, others, found⟩ := Text.exists_splitChars_eq_cons '/' rest
  rw [Text.split, begins, Text.splitChars_cons_of_ne (by decide) found] at whole
  -- the point is in the first segment, so that is neither in a package nor capitalised
  cases package with
  | nil =>
    obtain ⟨rfl, -⟩ := List.cons.inj whole
    rw [Text.split, String.toList_ofList, Text.splitChars_cons_self] at simple
    obtain ⟨rfl, -⟩ := List.cons.inj simple
    contradiction
  | cons first rest =>
    obtain ⟨rfl, -⟩ := List.cons.inj whole
    exact (lower _ List.mem_cons_self).1 (by simp)

/-- A conventional name of compiled metadata stands for a class, and the dotted name with a point
for each slash stands for the same class. -/
theorem Conventional.exists_ofMetadataName_and_bestGuess (conventional : Conventional name) :
    ∃ found, ofMetadataName name = .ok found ∧
      bestGuess (Text.replace '/' '.' name) = .ok found := by
  have begins := conventional.head?_ne
  obtain ⟨package, classes, outermost, nested, whole, lower, simple, upper⟩ := conventional
  refine ⟨⟨Text.join "." package, outermost, nested⟩, ?_, ?_⟩
  · have last : Text.splitLast '/' name = (Text.join "/" package, classes) := by
      rw [Text.splitLast, whole, List.reverse_append, List.reverse_singleton,
        List.singleton_append]
      simp only [List.reverse_reverse]
      rfl
    have again : Text.join "." (Text.split '/' (Text.join "/" package)) =
        Text.join "." package := by
      cases package with
      | nil => rfl
      | cons first rest =>
        have absent : ∀ segment ∈ first :: rest, '/' ∉ segment.toList := fun segment member =>
          Text.not_mem_of_mem_split (whole ▸ List.mem_append_left _ member)
        rw [show "/" = String.singleton '/' from rfl,
          Text.split_join (List.cons_ne_nil first rest) absent]
    rw [ofMetadataName, if_neg begins, last]
    simp only [again, simple, ofSimpleNames]
  · have kept : package.flatMap (Text.split '.') = package := by
      have single : ∀ segment ∈ package, Text.split '.' segment = [segment] :=
        fun segment member => Text.split_of_not_mem (lower segment member).1
      rw [List.flatMap_congr single, List.flatMap_singleton']
    refine bestGuess_eq_ok_iff.mpr ⟨package, ?_, fun segment member => (lower segment member).2,
      upper, rfl⟩
    rw [Text.split_replace, whole, List.flatMap_append, kept, List.flatMap_singleton, simple,
      simpleNames]

end KotlinContract.ClassName
