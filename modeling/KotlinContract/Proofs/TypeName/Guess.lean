import KotlinContract.Proofs.Chain
import KotlinContract.TypeName.Guess
import Mathlib.Data.List.TakeWhile

/-!
# Dotted class names

A dotted name is divided where its first segment with a capital letter begins, and refused if there
is none. So the class that it stands for is the only one that divides it in this way
(`ClassName.bestGuess_eq_ok_iff`).
-/
namespace KotlinContract

namespace ClassName

/-- The class has the segments of a dotted name, those of its package first; its outermost simple
name is the first segment that begins with an uppercase character. -/
def Divides (name : ClassName) (text : String) : Prop :=
  ∃ package : List String,
    Text.split '.' text = package ++ name.simpleNames ∧
      (∀ segment ∈ package, startsUppercase segment = false) ∧
      startsUppercase name.outermost = true ∧ name.package = Text.join "." package

/-- Whether a segment of a dotted name begins with an uppercase character. -/
def Recognised (text : String) : Prop :=
  ∃ segment ∈ Text.split '.' text, startsUppercase segment = true

/-- Segments are divided in front of the first one that begins with an uppercase character. -/
theorem ofSegments?_eq_some_iff {segments : List String} {name : ClassName} :
    ofSegments? segments = some name ↔
      ∃ package : List String,
        segments = package ++ name.simpleNames ∧
          (∀ segment ∈ package, startsUppercase segment = false) ∧
          startsUppercase name.outermost = true ∧ name.package = Text.join "." package := by
  rw [ofSegments?]
  constructor
  · intro divided
    split at divided
    · contradiction
    · rename_i outermost nested found
      cases divided
      refine ⟨segments.takeWhile (!startsUppercase ·), ?_, fun segment member => ?_, ?_, rfl⟩
      · rw [simpleNames, ← found, List.takeWhile_append_dropWhile]
      · simpa using List.all_eq_true.mp List.all_takeWhile segment member
      · have stopped := List.head_dropWhile_not (!startsUppercase ·) (by rw [found]; simp)
        simpa [found] using stopped
  · obtain ⟨_, outermost, nested⟩ := name
    rintro ⟨package, rfl, lower, upper, rfl⟩
    have passed : ∀ segment ∈ package, (!startsUppercase segment) = true := by simpa using lower
    rw [List.dropWhile_append_of_pos passed, List.takeWhile_append_of_pos passed]
    simp only [simpleNames, List.dropWhile_cons, List.takeWhile_cons, upper, Bool.not_true,
      Bool.false_eq_true, ↓reduceIte, List.append_nil]

/-- A dotted name stands for the class that divides it. -/
theorem bestGuess_eq_ok_iff {text : String} {name : ClassName} :
    bestGuess text = .ok name ↔ name.Divides text := by
  rw [Divides, ← ofSegments?_eq_some_iff, bestGuess]
  cases ofSegments? (Text.split '.' text) <;> simp

/-- A dotted name stands for a class if one of its segments begins with an uppercase character. -/
theorem exists_bestGuess_iff {text : String} :
    (∃ name, bestGuess text = .ok name) ↔ Recognised text := by
  constructor
  · rintro ⟨name, guessed⟩
    obtain ⟨package, whole, -, upper, -⟩ := bestGuess_eq_ok_iff.mp guessed
    refine ⟨name.outermost, ?_, upper⟩
    rw [whole, simpleNames]
    exact List.mem_append_right _ List.mem_cons_self
  · rintro ⟨segment, member, upper⟩
    have remains : (Text.split '.' text).dropWhile (!startsUppercase ·) ≠ [] := by
      intro empty
      have lower := List.dropWhile_eq_nil_iff.mp empty segment member
      simp [upper] at lower
    obtain ⟨outermost, nested, found⟩ := List.exists_cons_of_ne_nil remains
    exact ⟨_, by rw [bestGuess, ofSegments?, found]⟩

end ClassName

end KotlinContract
