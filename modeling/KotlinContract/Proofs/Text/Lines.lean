import KotlinContract.Proofs.Text.Composed
import KotlinContract.Text.Line

/-!
# Lines of a text

A division of a text into lines is ruled if every line but the last has its separator and no
separator is divided; the lines of a text are its only ruled division (`lines_flatten`). Where the
last line of a text has its separator, the lines of what is written after it follow (`lines_append`),
except for a line feed after a carriage return, which goes to the last line.
-/
namespace KotlinContract.Text

/-- What ends a line: a character for it, or a carriage return and a line feed. -/
inductive Separator : List Char → Prop where
  /-- One character. -/
  | single {c : Char} (ends : isLineEnd c = true) : Separator [c]
  /-- A carriage return and the line feed after it. -/
  | both : Separator ['\r', '\n']

/-- A division of a text into its lines. -/
inductive Ruled : List (List Char) → Prop where
  /-- The empty text has no line. -/
  | nil : Ruled []
  /-- The last line may lack its separator; then there is something in it. -/
  | last {body : List Char} (nonempty : body ≠ []) (inside : ∀ c ∈ body, isLineEnd c = false) :
      Ruled [body]
  /-- Any other line has its separator, and a line feed after a carriage return belongs to it. -/
  | line {body separator : List Char} {others : List (List Char)}
      (inside : ∀ c ∈ body, isLineEnd c = false) (ends : Separator separator)
      (apart : separator = ['\r'] → ∀ next ∈ others.head?, next.head? ≠ some '\n')
      (later : Ruled others) : Ruled ((body ++ separator) :: others)

/-- A separator is not empty. -/
theorem Separator.ne_nil {separator : List Char} (ends : Separator separator) :
    separator ≠ [] := by
  cases ends <;> simp

/-- No line is empty. -/
theorem Ruled.ne_nil {division : List (List Char)} (ruled : Ruled division) :
    ∀ line ∈ division, line ≠ [] := by
  induction ruled with
  | nil => simp
  | last nonempty _ => simpa using nonempty
  | line _ ends _ _ hypothesis =>
    rw [List.forall_mem_cons]
    exact ⟨List.append_ne_nil_of_right_ne_nil _ ends.ne_nil, hypothesis⟩

/-- A ruled division begins with the character with which its first line begins. -/
theorem Ruled.head?_flatten_eq_some_iff {division : List (List Char)} (ruled : Ruled division)
    {c : Char} :
    division.flatten.head? = some c ↔ ∃ line ∈ division.head?, line.head? = some c := by
  cases division with
  | nil => simp
  | cons line others =>
    obtain ⟨d, rest, rfl⟩ := List.exists_cons_of_ne_nil (ruled.ne_nil line List.mem_cons_self)
    simp

section Equations

variable {c : Char} {rest : List Char}

theorem lines_cons_of_inside (inside : isLineEnd c = false) :
    lines (c :: rest) = extendFirst c (lines rest) := by
  have other : c ≠ '\r' := by
    rintro rfl
    exact absurd inside (by decide)
  rw [lines, if_neg (by simp [inside])]
  exact fun _ carriage _ => other carriage

theorem lines_cons_of_end (ends : isLineEnd c = true)
    (apart : c = '\r' → rest.head? ≠ some '\n') : lines (c :: rest) = [c] :: lines rest := by
  rw [lines, if_pos ends]
  intro later carriage feed
  exact apart carriage (by rw [feed, List.head?_cons])

end Equations

/-- A separator that is not divided is a line of its own. -/
theorem lines_separator_append {separator rest : List Char} (ends : Separator separator)
    (apart : separator = ['\r'] → rest.head? ≠ some '\n') :
    lines (separator ++ rest) = separator :: lines rest := by
  cases ends with
  | single ends => exact lines_cons_of_end ends fun carriage => apart (by rw [carriage])
  | both => simp [lines]

/-- Characters that end no line stand in front of the first line of what follows. -/
theorem lines_inside_append {body : List Char} (inside : ∀ c ∈ body, isLineEnd c = false)
    (rest : List Char) : lines (body ++ rest) = body.foldr extendFirst (lines rest) := by
  induction body with
  | nil => rfl
  | cons c others hypothesis =>
    obtain ⟨here, later⟩ := List.forall_mem_cons.mp inside
    rw [List.cons_append, lines_cons_of_inside here, hypothesis later, List.foldr_cons]

theorem foldr_extendFirst_cons (body line : List Char) (others : List (List Char)) :
    body.foldr extendFirst (line :: others) = (body ++ line) :: others := by
  induction body with
  | nil => rfl
  | cons c rest hypothesis => rw [List.foldr_cons, hypothesis, extendFirst, List.cons_append]

theorem foldr_extendFirst_nil {body : List Char} (nonempty : body ≠ []) :
    body.foldr extendFirst [] = [body] := by
  have split : body = body.dropLast ++ [body.getLast nonempty] :=
    (List.dropLast_concat_getLast nonempty).symm
  rw [split, List.foldr_append]
  exact foldr_extendFirst_cons _ _ _

/-- The lines of a text are its only ruled division. -/
theorem lines_flatten {division : List (List Char)} (ruled : Ruled division) :
    lines division.flatten = division := by
  induction ruled with
  | nil => rfl
  | @last body nonempty inside =>
    have whole := lines_inside_append inside []
    rw [List.append_nil, lines, foldr_extendFirst_nil nonempty] at whole
    simpa using whole
  | @line body separator others inside ends apart later hypothesis =>
    have undivided : separator = ['\r'] → others.flatten.head? ≠ some '\n' := by
      intro carriage begins
      obtain ⟨next, first, feed⟩ := later.head?_flatten_eq_some_iff.mp begins
      exact apart carriage next first feed
    rw [List.flatten_cons, List.append_assoc, lines_inside_append inside,
      lines_separator_append ends undivided, foldr_extendFirst_cons, hypothesis]

/-- The lines of a text are a ruled division. -/
theorem ruled_lines (text : List Char) : Ruled (lines text) := by
  fun_induction lines text with
  | case1 => exact .nil
  | case2 rest hypothesis =>
    have empty : ∀ c ∈ ([] : List Char), isLineEnd c = false := by simp
    exact .line empty .both (fun carriage => absurd carriage (by decide)) hypothesis
  | case3 c rest undivided ends hypothesis =>
    have empty : ∀ c ∈ ([] : List Char), isLineEnd c = false := by simp
    refine .line empty (.single ends) ?_ hypothesis
    intro carriage next first begins
    -- a line feed at the beginning of the next line would belong to the carriage return
    have begun := hypothesis.head?_flatten_eq_some_iff.mpr ⟨next, first, begins⟩
    rw [flatten_lines] at begun
    obtain ⟨others, rfl⟩ := List.head?_eq_some_iff.mp begun
    exact undivided others (List.cons.inj carriage).1 rfl
  | case4 c rest _ inside hypothesis =>
    have here : isLineEnd c = false := by simpa using inside
    generalize lines rest = division at hypothesis
    cases hypothesis with
    | nil => exact .last (List.cons_ne_nil c []) (by simpa using here)
    | last _ inside =>
      exact .last (List.cons_ne_nil c _) (List.forall_mem_cons.mpr ⟨here, inside⟩)
    | line inside ends apart later =>
      exact .line (List.forall_mem_cons.mpr ⟨here, inside⟩) ends apart later

/-- No line of the text lacks its separator: there is none, or the last character ends a line. -/
def Terminated (text : List Char) : Prop := ∀ c ∈ text.getLast?, isLineEnd c = true

/-- What is left of a terminated text behind its beginning is terminated. -/
theorem Terminated.of_append {first second : List Char} (ended : Terminated (first ++ second)) :
    Terminated second := by
  intro c found
  have last : second.getLast? = some c := found
  exact ended c (by rw [List.getLast?_append, last, Option.some_or, Option.mem_some])

/-- A text that ends with a line feed is terminated. -/
theorem terminated_of_getLast? {text : List Char} (ended : text.getLast? = some '\n') :
    Terminated text := by
  intro c found
  obtain rfl := Option.some.inj (ended.symm.trans found)
  decide

/-- Divisions of two texts, one after the other, divide the whole text if the first is terminated
and no separator is divided between them. -/
theorem Ruled.append {first second : List (List Char)} (ruled : Ruled first) (later : Ruled second)
    (ended : Terminated first.flatten)
    (apart : first.flatten.getLast? = some '\r' → second.flatten.head? ≠ some '\n') :
    Ruled (first ++ second) := by
  induction ruled with
  | nil => exact later
  | @last body nonempty inside =>
    have final : body.getLast nonempty ∈ [body].flatten.getLast? := by
      rw [List.flatten_singleton, List.getLast?_eq_some_getLast nonempty, Option.mem_some]
    have ends := ended _ final
    rw [inside _ (List.getLast_mem nonempty)] at ends
    contradiction
  | @line body separator others inside ends undivided _ hypothesis =>
    rw [List.flatten_cons] at ended apart
    refine .line inside ends ?_ (hypothesis ended.of_append fun carriage => apart ?_)
    · intro carriage
      cases others with
      | nil =>
        intro next first feed
        refine apart ?_ (later.head?_flatten_eq_some_iff.mpr ⟨next, first, feed⟩)
        simp [carriage]
      | cons next rest => exact undivided carriage
    · rw [List.getLast?_append, carriage, Option.some_or]

/-- A line feed after a carriage return goes to the line that ends with it. -/
theorem Ruled.concat_feed {division front : List (List Char)} {last : List Char}
    (ruled : Ruled division) (split : division = front ++ [last])
    (ended : last.getLast? = some '\r') : Ruled (front ++ [last ++ ['\n']]) := by
  have nonempty : last ≠ [] := by
    rintro rfl
    simp at ended
  induction ruled generalizing front with
  | nil => simp at split
  | @last body _ inside =>
    -- such a line does not end with a carriage return
    obtain ⟨-, rfl⟩ : front = [] ∧ last = body := by
      simpa using List.append_eq_singleton_iff.mp split.symm
    exact absurd (inside '\r' (List.mem_of_getLast? ended)) (by decide)
  | line inside ends undivided _ hypothesis =>
    cases front with
    | nil =>
      obtain ⟨rfl, rfl⟩ := List.cons.inj split
      cases ends with
      | single _ =>
        obtain rfl : _ = '\r' := by simpa using ended
        rw [List.nil_append, List.append_assoc]
        exact .line inside .both (fun carriage => absurd carriage (by decide)) .nil
      | both => simp at ended
    | cons line rest =>
      obtain ⟨rfl, rfl⟩ := List.cons.inj split
      refine .line inside ends (fun carriage next first => ?_) (hypothesis rfl)
      cases rest with
      | nil =>
        obtain rfl : last ++ ['\n'] = next := Option.some.inj first
        obtain ⟨c, rest, rfl⟩ := List.exists_cons_of_ne_nil nonempty
        exact undivided carriage (c :: rest) rfl
      | cons other remaining => exact undivided carriage next first

/-- The lines of two texts are those of one and then of the other, if the first is terminated and no
separator is divided between them. -/
theorem lines_append {text rest : List Char} (ended : Terminated text)
    (apart : text.getLast? = some '\r' → rest.head? ≠ some '\n') :
    lines (text ++ rest) = lines text ++ lines rest := by
  have ruled : Ruled (lines text ++ lines rest) :=
    (ruled_lines text).append (ruled_lines rest) (by rwa [flatten_lines])
      (by rwa [flatten_lines, flatten_lines])
  have whole := lines_flatten ruled
  rwa [List.flatten_append, flatten_lines, flatten_lines] at whole

/-- A line feed behind a text that ends with a carriage return goes to the last line. -/
theorem exists_lines_append_feed {text : List Char} (ended : text.getLast? = some '\r') :
    ∃ front last, lines text = front ++ [last] ∧
      lines (text ++ ['\n']) = front ++ [last ++ ['\n']] := by
  have ruled := ruled_lines text
  have whole := flatten_lines text
  obtain ⟨front, last, split⟩ : ∃ front last, lines text = front ++ [last] := by
    refine ⟨_, _, (List.dropLast_concat_getLast fun empty => ?_).symm⟩
    rw [empty] at whole
    simp [← whole] at ended
  rw [split, List.flatten_append, List.flatten_singleton] at whole
  have begun : last ≠ [] := ruled.ne_nil last (by simp [split])
  have final : last.getLast? = some '\r' := by
    rw [← whole, List.getLast?_append, List.getLast?_eq_some_getLast begun, Option.some_or] at ended
    rw [List.getLast?_eq_some_getLast begun, ended]
  have grown := lines_flatten (ruled.concat_feed split final)
  rw [List.flatten_append, List.flatten_singleton, ← List.append_assoc, whole] at grown
  exact ⟨front, last, split, grown⟩

/-- No line ends in the text. -/
def OneLine (text : String) : Prop := Every (isLineEnd · = false) text

instance (text : String) : Decidable (OneLine text) :=
  inferInstanceAs (Decidable (Every (isLineEnd · = false) text))

/-- What ends a line is white space. -/
theorem isBlank_of_isLineEnd {c : Char} (ends : isLineEnd c = true) : isBlank c = true := by
  simp only [isLineEnd, Bool.or_eq_true, Bool.and_eq_true, decide_eq_true_eq, beq_iff_eq] at ends
  rcases ends with (((⟨low, high⟩ | ⟨low, high⟩) | rfl) | rfl) | rfl
  · have begins : '\t' ≤ c := Char.le_trans (by decide) low
    simp [isBlank, isSpace, begins, high]
  · have remains : c ≤ '\x1f' := Char.le_trans high (by decide)
    simp [isBlank, low, remains]
  · decide
  · decide
  · decide

theorem isLineEnd_eq_false {c : Char} (visible : isBlank c = false) : isLineEnd c = false := by
  refine Bool.eq_false_iff.mpr fun ends => ?_
  rw [isBlank_of_isLineEnd ends] at visible
  contradiction

/-- A plain word stands on one line. -/
theorem Plain.oneLine {word : String} (plain : Plain word) : OneLine word :=
  fun c member => isLineEnd_eq_false (plain.2 c member).1

end KotlinContract.Text
