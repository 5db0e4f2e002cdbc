/-!
# Separated texts

Texts made of segments with a separator between them, such as dotted names. `split` and `join`
undo one another where no segment holds the separator; `join_split` is the half that holds
always.
-/
namespace KotlinContract.Text

/-- The segments between the occurrences of a character; there is always at least one. -/
def splitChars (separator : Char) : List Char → List (List Char)
  | [] => [[]]
  | c :: rest =>
    if c = separator then [] :: splitChars separator rest
    else
      match splitChars separator rest with
      | [] => [[c]]
      | segment :: others => (c :: segment) :: others

/-- A text has at least one segment. -/
theorem splitChars_ne_nil (separator : Char) (text : List Char) :
    splitChars separator text ≠ [] := by
  cases text with
  | nil => simp [splitChars]
  | cons c rest =>
    simp only [splitChars]
    split
    · simp
    · split <;> simp

/-- The segments of a text between the occurrences of a character. -/
def split (separator : Char) (text : String) : List String :=
  (splitChars separator text.toList).map String.ofList

/-- Segments with a text between each two of them. -/
def join (separator : String) : List String → String
  | [] => ""
  | [segment] => segment
  | segment :: others => segment ++ separator ++ join separator others

/-- Segments with characters between each two of them. -/
def joinChars (separator : List Char) : List (List Char) → List Char
  | [] => []
  | [segment] => segment
  | segment :: others => segment ++ separator ++ joinChars separator others

/-- Joining with a separator in front of a nonempty rest. -/
theorem joinChars_cons (separator segment : List Char) {others : List (List Char)}
    (nonempty : others ≠ []) :
    joinChars separator (segment :: others) =
      segment ++ separator ++ joinChars separator others := by
  cases others with
  | nil => exact absurd rfl nonempty
  | cons => rfl

/-- The segments of a text, joined again, are the text. -/
theorem joinChars_splitChars (separator : Char) (text : List Char) :
    joinChars [separator] (splitChars separator text) = text := by
  induction text with
  | nil => rfl
  | cons c rest hypothesis =>
    simp only [splitChars]
    split
    · next same =>
      subst same
      rw [joinChars_cons _ _ (splitChars_ne_nil c rest), hypothesis]
      rfl
    · split
      · next none => exact absurd none (splitChars_ne_nil separator rest)
      · next segment others found =>
        rw [found] at hypothesis
        cases others <;> simp_all [joinChars]

/-- Joining texts joins their characters. -/
theorem toList_join (separator : String) (segments : List String) :
    (join separator segments).toList =
      joinChars separator.toList (segments.map String.toList) := by
  fun_induction join separator segments with
  | case1 => rfl
  | case2 => rfl
  | case3 segment others nonempty hypothesis =>
    cases others with
    | nil => exact absurd rfl nonempty
    | cons => simp_all [joinChars]

/-- The segments of a text, joined again, are the text. -/
theorem join_split (separator : Char) (text : String) :
    join (String.singleton separator) (split separator text) = text := by
  apply String.toList_injective
  rw [toList_join, split, List.map_map]
  simp [Function.comp_def, joinChars_splitChars]

/-- The text before and after the last occurrence of a character; before it stands nothing
where the character does not occur. -/
def splitLast (separator : Char) (text : String) : String × String :=
  match (split separator text).reverse with
  | [] => ("", text)
  | last :: earlier => (join (String.singleton separator) earlier.reverse, last)

end KotlinContract.Text
