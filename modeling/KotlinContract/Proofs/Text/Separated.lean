import KotlinContract.Text.Separated

/-!
# Splitting what was joined

Segments are joined part by part (`join_append`). Segments that do not hold the separator, joined
and split again, are what they were (`split_join`). A text in which one separator is replaced by
another is split at both (`split_replace`).
-/
namespace KotlinContract.Text

variable {separator : Char}

/-- A separator at the beginning ends an empty segment. -/
theorem splitChars_cons_self (rest : List Char) :
    splitChars separator (separator :: rest) = [] :: splitChars separator rest := by
  rw [splitChars, if_pos rfl]

/-- Any other character at the beginning belongs to the first segment. -/
theorem splitChars_cons_of_ne {c : Char} {rest segment : List Char} {others : List (List Char)}
    (differ : c ≠ separator) (found : splitChars separator rest = segment :: others) :
    splitChars separator (c :: rest) = (c :: segment) :: others := by
  rw [splitChars, if_neg differ, found]

/-- There is a first segment. -/
theorem exists_splitChars_eq_cons (separator : Char) (text : List Char) :
    ∃ segment others, splitChars separator text = segment :: others :=
  List.exists_cons_of_ne_nil (splitChars_ne_nil separator text)

/-- The segment in front of the first separator is the first one. -/
theorem splitChars_append {segment : List Char} (absent : separator ∉ segment) (rest : List Char) :
    splitChars separator (segment ++ separator :: rest) =
      segment :: splitChars separator rest := by
  induction segment with
  | nil => exact splitChars_cons_self rest
  | cons c segment hypothesis =>
    rw [List.mem_cons, not_or] at absent
    exact splitChars_cons_of_ne (Ne.symm absent.1) (hypothesis absent.2)

/-- A text without a separator is one segment. -/
theorem splitChars_of_not_mem {text : List Char} (absent : separator ∉ text) :
    splitChars separator text = [text] := by
  induction text with
  | nil => rfl
  | cons c text hypothesis =>
    rw [List.mem_cons, not_or] at absent
    exact splitChars_cons_of_ne (Ne.symm absent.1) (hypothesis absent.2)

/-- No segment holds the separator. -/
theorem not_mem_of_mem_splitChars {text segment : List Char}
    (member : segment ∈ splitChars separator text) : separator ∉ segment := by
  induction text generalizing segment with
  | nil =>
    rw [splitChars, List.mem_singleton] at member
    rw [member]
    exact List.not_mem_nil
  | cons c rest hypothesis =>
    obtain ⟨first, others, found⟩ := exists_splitChars_eq_cons separator rest
    rw [found] at hypothesis
    by_cases same : c = separator
    · subst same
      rw [splitChars_cons_self, found, List.mem_cons] at member
      rcases member with rfl | member
      · exact List.not_mem_nil
      · exact hypothesis member
    · rw [splitChars_cons_of_ne same found, List.mem_cons] at member
      rcases member with rfl | member
      · rw [List.mem_cons, not_or]
        exact ⟨Ne.symm same, hypothesis List.mem_cons_self⟩
      · exact hypothesis (List.mem_cons_of_mem _ member)

/-- Segments without a separator, joined and split again, are what they were. -/
theorem splitChars_joinChars {segments : List (List Char)} (nonempty : segments ≠ [])
    (absent : ∀ segment ∈ segments, separator ∉ segment) :
    splitChars separator (joinChars [separator] segments) = segments := by
  induction segments with
  | nil => exact absurd rfl nonempty
  | cons segment others hypothesis =>
    obtain ⟨here, later⟩ := List.forall_mem_cons.mp absent
    cases others with
    | nil => exact splitChars_of_not_mem here
    | cons second rest =>
      have remain : second :: rest ≠ [] := List.cons_ne_nil second rest
      rw [joinChars_cons _ _ remain, List.append_assoc, List.singleton_append,
        splitChars_append here, hypothesis remain later]

/-- A text without a separator is one segment. -/
theorem split_of_not_mem {text : String} (absent : separator ∉ text.toList) :
    split separator text = [text] := by
  rw [split, splitChars_of_not_mem absent, List.map_singleton, String.ofList_toList]

/-- No segment of a text holds the separator. -/
theorem not_mem_of_mem_split {text segment : String} (member : segment ∈ split separator text) :
    separator ∉ segment.toList := by
  obtain ⟨chars, among, rfl⟩ := List.mem_map.mp member
  rw [String.toList_ofList]
  exact not_mem_of_mem_splitChars among

/-- Segments without a separator, joined and split again, are what they were. -/
theorem split_join {segments : List String} (nonempty : segments ≠ [])
    (absent : ∀ segment ∈ segments, separator ∉ segment.toList) :
    split separator (join (String.singleton separator) segments) = segments := by
  rw [split, toList_join, String.toList_singleton, splitChars_joinChars, List.map_map]
  · simp
  · simpa using nonempty
  · simpa using absent

/-- A segment in front of others is joined to them. -/
theorem join_cons (separator segment : String) {others : List String} (nonempty : others ≠ []) :
    join separator (segment :: others) = segment ++ separator ++ join separator others := by
  cases others with
  | nil => exact absurd rfl nonempty
  | cons => rfl

/-- Segments are joined to those after them. -/
theorem join_append (separator : String) {first second : List String} (nonempty : first ≠ [])
    (nonempty' : second ≠ []) :
    join separator (first ++ second) =
      join separator first ++ separator ++ join separator second := by
  induction first with
  | nil => exact absurd rfl nonempty
  | cons segment rest hypothesis =>
    by_cases last : rest = []
    · subst last
      exact join_cons separator segment nonempty'
    · rw [List.cons_append, join_cons _ _ (List.append_ne_nil_of_left_ne_nil last second),
        join_cons _ _ last, hypothesis last]
      simp only [String.append_assoc]

/-- The text with one separator in place of another. -/
def replace (old new : Char) (text : String) : String :=
  String.ofList (text.toList.map fun c => if c = old then new else c)

/-- Where a new separator stands in place of an old one, a text is split at the old one and then
each segment at the new one. -/
theorem splitChars_map_replace (old new : Char) (text : List Char) :
    splitChars new (text.map fun c => if c = old then new else c) =
      (splitChars old text).flatMap (splitChars new) := by
  induction text with
  | nil => rfl
  | cons c rest hypothesis =>
    obtain ⟨segment, others, found⟩ := exists_splitChars_eq_cons old rest
    obtain ⟨first, later, divided⟩ := exists_splitChars_eq_cons new segment
    rw [found, List.flatMap_cons, divided, List.cons_append] at hypothesis
    rw [List.map_cons]
    by_cases same : c = old
    · subst same
      rw [if_pos rfl, splitChars_cons_self, splitChars_cons_self, hypothesis, found,
        List.flatMap_cons, List.flatMap_cons, divided]
      rfl
    · rw [if_neg same, splitChars_cons_of_ne same found, List.flatMap_cons]
      by_cases other : c = new
      · subst other
        rw [splitChars_cons_self, splitChars_cons_self, hypothesis, divided]
        rfl
      · rw [splitChars_cons_of_ne other hypothesis, splitChars_cons_of_ne other divided]
        rfl

/-- A text in which a separator is replaced has the segments of the segments of the text. -/
theorem split_replace (old new : Char) (text : String) :
    split new (replace old new text) = (split old text).flatMap (split new) := by
  rw [split, replace, String.toList_ofList, splitChars_map_replace, split, List.map_flatMap,
    List.flatMap_map]
  simp [split]

end KotlinContract.Text
