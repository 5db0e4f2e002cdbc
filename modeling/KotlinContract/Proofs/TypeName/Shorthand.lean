import KotlinContract.Document.Build
import KotlinContract.Proofs.Text.Separated
import KotlinContract.Proofs.TypeName.Guess
import Mathlib.Data.List.DropRight

/-!
# Class names written and read

A class is written as its dotted name, with a question mark if it is nullable, and a shorthand is
read as a class in the same form. Reading undoes writing where capital letters tell the simple names
from the package; writing undoes reading but for question marks that are repeated, unless the text
begins with a point (`TypeName.shorthand_undoes_render`).
-/
namespace KotlinContract

namespace Text

/-- Segments are joined to the empty text if there is none but an empty one. -/
theorem join_eq_empty_iff {separator : String} (stated : separator ≠ "") {segments : List String} :
    join separator segments = "" ↔ segments = [] ∨ segments = [""] := by
  cases segments with
  | nil => simp [join]
  | cons segment others =>
    by_cases last : others = []
    · subst last
      simp [join]
    · rw [join_cons _ _ last]
      simp [last, stated]

/-- A text whose first segment is empty and not the only one begins with the separator. -/
theorem head?_of_split {separator : Char} {text : String} {others : List String}
    (divided : split separator text = "" :: others) (more : others ≠ []) :
    text.toList.head? = some separator := by
  rw [← join_split separator text, divided, join_cons _ _ more]
  simp

/-- Joined segments do not end in a character that neither the separator nor the last segment ends
in. -/
theorem getLast?_join_ne {separator : String} {c : Char}
    (between : ∃ d, separator.toList.getLast? = some d ∧ d ≠ c) {segments : List String}
    (last : ∀ segment, segments.getLast? = some segment → segment.toList.getLast? ≠ some c) :
    (join separator segments).toList.getLast? ≠ some c := by
  induction segments with
  | nil => simp [join]
  | cons segment others hypothesis =>
    by_cases single : others = []
    · subst single
      exact last segment rfl
    · have rest := hypothesis fun later found =>
        last later (by rw [List.getLast?_cons, found, Option.getD_some])
      obtain ⟨d, ends, other⟩ := between
      rw [join_cons _ _ single, String.toList_append, String.toList_append, List.getLast?_append,
        List.getLast?_append, ends]
      cases found : (join separator others).toList.getLast? with
      | none => simpa using other
      | some e => simpa [found] using rest

end Text

namespace ClassName

/-- The segments of the package are the first segments of the dotted name, unless they are joined to
the empty text. -/
theorem dotted_eq_join_append {name : ClassName} {segments : List String}
    (package : name.package = Text.join "." segments) (stated : segments ≠ [""]) :
    name.dotted = Text.join "." (segments ++ name.simpleNames) := by
  have absent : name.package = "" ↔ segments = [] := by
    rw [package, Text.join_eq_empty_iff (by decide)]
    simp [stated]
  by_cases outside : segments = []
  · rw [dotted, if_pos (absent.mpr outside), outside, List.nil_append]
  · rw [dotted, if_neg (absent.not.mpr outside),
      Text.join_append "." outside name.simpleNames_ne_nil, package]

/-- A class whose simple names can be told from its package in its dotted name. -/
structure Capitalised (name : ClassName) : Prop where
  /-- The package is made of segments, none of which is empty, begins with an uppercase character or
  holds a point; there may be none. -/
  package : ∃ segments : List String, name.package = Text.join "." segments ∧
    ∀ segment ∈ segments,
      segment ≠ "" ∧ '.' ∉ segment.toList ∧ startsUppercase segment = false
  /-- No simple name holds a point. -/
  simple : ∀ simple ∈ name.simpleNames, '.' ∉ simple.toList
  /-- The outermost simple name begins with an uppercase character. -/
  outermost : startsUppercase name.outermost = true
  /-- The innermost simple name does not end in a question mark. -/
  innermost : ∀ innermost, name.simpleNames.getLast? = some innermost →
    innermost.toList.getLast? ≠ some '?'

variable {name : ClassName}

/-- The dotted name of such a class is put together from the segments of the package and the simple
names. -/
theorem Capitalised.exists_dotted_eq (capitalised : name.Capitalised) :
    ∃ segments : List String, name.package = Text.join "." segments ∧
      (∀ segment ∈ segments, '.' ∉ segment.toList ∧ startsUppercase segment = false) ∧
      name.dotted = Text.join "." (segments ++ name.simpleNames) := by
  obtain ⟨segments, package, lower⟩ := capitalised.package
  have stated : segments ≠ [""] := by
    rintro rfl
    exact (lower "" List.mem_cons_self).1 rfl
  exact ⟨segments, package, fun segment member => (lower segment member).2,
    dotted_eq_join_append package stated⟩

/-- It is divided where it was put together. -/
theorem Capitalised.bestGuess_dotted (capitalised : name.Capitalised) :
    bestGuess name.dotted = .ok name := by
  obtain ⟨segments, package, lower, dotted⟩ := capitalised.exists_dotted_eq
  have unpointed : ∀ segment ∈ segments ++ name.simpleNames, '.' ∉ segment.toList :=
    List.forall_mem_append.mpr ⟨fun segment member => (lower segment member).1, capitalised.simple⟩
  have joined : segments ++ name.simpleNames ≠ [] :=
    List.append_ne_nil_of_right_ne_nil _ name.simpleNames_ne_nil
  refine bestGuess_eq_ok_iff.mpr ⟨segments, ?_, fun segment member => (lower segment member).2,
    capitalised.outermost, package⟩
  rw [dotted, show "." = String.singleton '.' from rfl, Text.split_join joined unpointed]

/-- It does not end in a question mark. -/
theorem Capitalised.getLast?_dotted_ne (capitalised : name.Capitalised) :
    name.dotted.toList.getLast? ≠ some '?' := by
  obtain ⟨segments, -, -, dotted⟩ := capitalised.exists_dotted_eq
  rw [dotted]
  refine Text.getLast?_join_ne ⟨'.', rfl, by decide⟩ fun innermost found => ?_
  rw [List.getLast?_append_of_ne_nil _ name.simpleNames_ne_nil] at found
  exact capitalised.innermost innermost found

/-- A dotted name that does not begin with a point is the one of the class that it stands for. -/
theorem dotted_of_bestGuess {text : String} (begins : text.toList.head? ≠ some '.')
    (guessed : bestGuess text = .ok name) : name.dotted = text := by
  obtain ⟨segments, divided, -, -, package⟩ := bestGuess_eq_ok_iff.mp guessed
  have stated : segments ≠ [""] := by
    rintro rfl
    exact begins (Text.head?_of_split divided (List.cons_ne_nil _ _))
  rw [dotted_eq_join_append package stated, ← divided]
  exact Text.join_split '.' text

end ClassName

namespace TypeName

/-- A text is a stem with some question marks after it, and the stem does not end in one. -/
structure Marked (text stem : String) (count : Nat) : Prop where
  /-- The question marks stand after the stem. -/
  whole : text.toList = stem.toList ++ List.replicate count '?'
  /-- There are no more of them. -/
  unmarked : stem.toList.getLast? ≠ some '?'

variable {text stem : String} {count : Nat}

/-- Every text has a stem. -/
theorem exists_marked (text : String) : ∃ stem count, Marked text stem count := by
  have marks : ∀ c ∈ text.toList.rtakeWhile (· == '?'), c = '?' := fun c member => by
    simpa using List.mem_rtakeWhile_imp member
  refine ⟨String.ofList (text.toList.rdropWhile (· == '?')),
    (text.toList.rtakeWhile (· == '?')).length, ?_, ?_⟩
  · rw [String.toList_ofList, ← List.eq_replicate_of_mem marks, List.rdropWhile_append_rtakeWhile]
  · rw [String.toList_ofList]
    intro last
    obtain ⟨nonempty, ends⟩ := List.mem_getLast?_eq_getLast last
    exact List.rdropWhile_last_not _ _ nonempty (beq_iff_eq.mpr ends.symm)

/-- What stands in front of the question marks is the stem. -/
theorem Marked.dropQuestionMarks (marked : Marked text stem count) :
    dropQuestionMarks text.toList = stem.toList := by
  have dropped (count : Nat) :
      (stem.toList ++ List.replicate count '?').rdropWhile (· == '?') = stem.toList := by
    induction count with
    | zero =>
      rw [List.replicate_zero, List.append_nil, List.rdropWhile_eq_self_iff]
      intro nonempty ends
      rw [beq_iff_eq] at ends
      exact marked.unmarked (by rw [List.getLast?_eq_getLast_of_ne_nil nonempty, ends])
    | succ count hypothesis =>
      rw [List.replicate_succ', ← List.append_assoc, List.rdropWhile_concat_pos _ _ _ rfl,
        hypothesis]
  rw [marked.whole]
  exact dropped count

/-- There is a question mark at the end if there is one at all after the stem. -/
theorem Marked.getLast?_eq_iff (marked : Marked text stem count) :
    text.toList.getLast? = some '?' ↔ count ≠ 0 := by
  rw [marked.whole]
  cases count with
  | zero => simpa using marked.unmarked
  | succ count => simp [List.replicate_succ']

/-- A shorthand stands for the class that its stem stands for. -/
theorem Marked.ofShorthand_eq (marked : Marked text stem count) :
    ofShorthand text = (ClassName.bestGuess stem).map (.classType · (count ≠ 0)) := by
  simp only [ofShorthand, marked.dropQuestionMarks, String.ofList_toList, marked.getLast?_eq_iff]

/-- A text that does not begin with a point has a stem that does not. -/
theorem Marked.head?_ne (marked : Marked text stem count) (begins : text.toList.head? ≠ some '.') :
    stem.toList.head? ≠ some '.' := by
  rw [marked.whole] at begins
  intro point
  exact begins (by rw [List.head?_append, point, Option.some_or])

/-- The text of a class is its dotted name with one question mark at most. -/
theorem marked_render {name : ClassName} (nullable : Bool) (capitalised : name.Capitalised) :
    Marked (render (.classType name nullable)) name.dotted nullable.toNat := by
  refine ⟨?_, ?_⟩
  · rw [render, String.toList_append]
    cases nullable <;> rfl
  · exact capitalised.getLast?_dotted_ne

/-- Reading undoes writing and writing undoes reading. The text of a class whose simple names can be
told from its package is read as the class. A text that does not begin with a point is read if a
segment of its stem begins with an uppercase character, and the type that it is read as is written
as the stem, with one question mark if there is any in the text. -/
theorem shorthand_undoes_render :
    (∀ (name : ClassName) (nullable : Bool), name.Capitalised →
      TypeForm.build (.shorthand (render (.classType name nullable))) =
        .ok (.classType name nullable)) ∧
    ∀ text : String, text.toList.head? ≠ some '.' →
      ∃ stem count, Marked text stem count ∧
        ((∃ type, TypeForm.build (.shorthand text) = .ok type) ↔ ClassName.Recognised stem) ∧
        ∀ type, TypeForm.build (.shorthand text) = .ok type →
          type.render = if count = 0 then stem else stem ++ "?" := by
  constructor
  · intro name nullable capitalised
    rw [TypeForm.build, (marked_render nullable capitalised).ofShorthand_eq,
      capitalised.bestGuess_dotted]
    cases nullable <;> rfl
  · intro text begins
    obtain ⟨stem, count, marked⟩ := exists_marked text
    refine ⟨stem, count, marked, ?_, fun type built => ?_⟩
    · rw [TypeForm.build, marked.ofShorthand_eq, Chain.exists_map_iff,
        ClassName.exists_bestGuess_iff]
    · rw [TypeForm.build, marked.ofShorthand_eq, Chain.map_eq_ok_iff] at built
      obtain ⟨name, guessed, rfl⟩ := built
      rw [render, ClassName.dotted_of_bestGuess (marked.head?_ne begins) guessed]
      by_cases unmarked : count = 0 <;> simp [unmarked]

/-- A nested class in a package of two segments is read back; repeated question marks are written as
one. -/
theorem shorthand_undoes_render_mapEntry :
    ClassName.Capitalised ⟨"java.util", "Map", ["Entry"]⟩ ∧
      TypeForm.build (.shorthand "java.util.Map.Entry?") =
        .ok (.classType ⟨"java.util", "Map", ["Entry"]⟩ true) ∧
      "java.util.Map.Entry??".toList.head? ≠ some '.' ∧
      ∃ stem count type, Marked "java.util.Map.Entry??" stem count ∧
        TypeForm.build (.shorthand "java.util.Map.Entry??") = .ok type ∧
        type.render = if count = 0 then stem else stem ++ "?" := by
  have capitalised : ClassName.Capitalised ⟨"java.util", "Map", ["Entry"]⟩ :=
    ⟨⟨["java", "util"], by decide⟩, by decide, by decide, by
      rintro _ ⟨⟩
      decide⟩
  have written : render (.classType ⟨"java.util", "Map", ["Entry"]⟩ true) =
      "java.util.Map.Entry?" := by
    decide
  have read := shorthand_undoes_render.1 _ true capitalised
  rw [written] at read
  have begins : "java.util.Map.Entry??".toList.head? ≠ some '.' := by decide
  obtain ⟨stem, count, marked, -, collapsed⟩ := shorthand_undoes_render.2 _ begins
  have built : TypeForm.build (.shorthand "java.util.Map.Entry??") =
      .ok (.classType ⟨"java.util", "Map", ["Entry"]⟩ true) := rfl
  exact ⟨capitalised, read, begins, stem, count, _, marked, built, collapsed _ built⟩

end TypeName

end KotlinContract
