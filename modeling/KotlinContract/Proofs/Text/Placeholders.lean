import KotlinContract.Proofs.Text.Template

/-!
# Reading placeholders

A text is read from the left: the reference to a receiver stands for the receiver, a dollar sign
with all digits after it for the parameter of that number, and any other character for itself.
Reading the text of a legible template with placeholders gives the template back
(`Template.read_spell`), so replacing the placeholders in that text gives the text with any other
tokens.
-/
namespace KotlinContract.Template

/-- The digits that a text begins with. -/
def digits (text : List Char) : List Char := text.takeWhile Char.isDigit

/-- The pieces of a text, after `skip` more characters of the placeholder that was read last. -/
def readFrom : (skip : Nat) → List Char → List Piece
  | _, [] => []
  | skip + 1, _ :: rest => readFrom skip rest
  | 0, c :: rest =>
    if reference <+: c :: rest then .parameter 0 :: readFrom (reference.length - 1) rest
    else if c = '$' ∧ digits rest ≠ [] then
      .parameter (Nat.ofDigitChars 10 (digits rest) 0) :: readFrom (digits rest).length rest
    else .literal c :: readFrom 0 rest

/-- The pieces of a text. -/
def read (text : List Char) : List Piece := readFrom 0 text

/-- The numbers of the placeholders in a text, in the order in which they occur there. -/
def placeholders (text : String) : List Nat := parameters (read text.toList)

/-- A text with a token in place of each placeholder. -/
def substitute (token : Nat → String) (text : String) : String :=
  String.ofList (spell token (read text.toList))

theorem readFrom_length_append (skipped rest : List Char) :
    readFrom skipped.length (skipped ++ rest) = read rest := by
  induction skipped with
  | nil => rfl
  | cons c others hypothesis => exact hypothesis

/-- A character at which nothing begins that can be taken for a placeholder stands for itself. -/
theorem read_cons {c : Char} {rest : List Char} (closed : ¬ Opens (c :: rest)) :
    read (c :: rest) = .literal c :: read rest := by
  rw [Opens, not_or] at closed
  obtain ⟨unreferred, unnumbered⟩ := closed
  have plain : ¬ (c = '$' ∧ digits rest ≠ []) := by
    rintro ⟨rfl, some⟩
    refine unnumbered ⟨rfl, ?_⟩
    cases rest with
    | nil => exact absurd rfl some
    | cons d others =>
      cases digit : d.isDigit with
      | true => exact digit
      | false => exact absurd (List.takeWhile_cons_of_neg (by simp [digit])) some
  rw [read, readFrom, if_neg unreferred, if_neg plain]
  rfl

/-- A placeholder is read as the parameter that it stands for, if no digit follows it. -/
theorem read_placeholder_append (index : Nat) {rest : List Char} (apart : Apart rest) :
    read ((placeholder index).toList ++ rest) = .parameter index :: read rest := by
  by_cases receiver : index = 0
  · have spelled : reference = 't' :: ['h', 'i', 's', '@'] := by decide
    have skipped : reference.length - 1 = ['h', 'i', 's', '@'].length := by rw [spelled]; rfl
    have begins : reference <+: 't' :: (['h', 'i', 's', '@'] ++ rest) := ⟨rest, by rw [spelled]; rfl⟩
    rw [receiver, ← reference, spelled, List.cons_append, read, readFrom, if_pos begins, skipped,
      readFrom_length_append]
  · have whole : digits (Nat.toDigits 10 index ++ rest) = Nat.toDigits 10 index := by
      have stops : digits rest = [] := by
        cases rest with
        | nil => rfl
        | cons c others => exact List.takeWhile_cons_of_neg (by simp [(apart c rfl).1])
      rw [digits, List.takeWhile_append_of_pos fun _ => isDigit_of_mem_toDigits, ← digits, stops,
        List.append_nil]
    have unreferred : ¬ reference <+: '$' :: (Nat.toDigits 10 index ++ rest) := by
      rintro ⟨later, same⟩
      exact absurd (List.cons.inj same).1 (by decide)
    rw [toList_placeholder receiver, List.cons_append, read, readFrom, if_neg unreferred, whole,
      if_pos ⟨rfl, Nat.toDigits_ne_nil⟩, Nat.ofDigitChars_ten_toDigits, readFrom_length_append]

/-- A legible template is read off its text with placeholders. -/
theorem read_spell {template : List Piece} (legible : Legible template) :
    read (spell placeholder template) = template := by
  induction template with
  | nil => rfl
  | cons piece rest hypothesis =>
    cases piece with
    | literal c =>
      obtain ⟨closed, later⟩ := legible
      rw [spell_literal, read_cons closed, hypothesis later]
    | parameter index =>
      obtain ⟨apart, later⟩ := legible
      rw [spell_parameter, read_placeholder_append index apart, hypothesis later]

/-- A text without dollar signs and without the sign of references holds nothing that can be taken
for a placeholder. -/
theorem unmistakable_of_not_mem {text : String} (dollar : '$' ∉ text.toList)
    (sign : '@' ∉ text.toList) : Unmistakable text := by
  rw [Unmistakable, ofText]
  generalize text.toList = chars at dollar sign
  induction chars with
  | nil => trivial
  | cons c others hypothesis =>
    refine ⟨?_, hypothesis (fun member => dollar (List.mem_cons_of_mem c member))
      fun member => sign (List.mem_cons_of_mem c member)⟩
    rw [spell_map_literal]
    rintro (begins | ⟨first, -⟩)
    · exact sign (begins.subset (by decide))
    · rw [List.head?_cons, Option.some.injEq] at first
      exact dollar (by rw [first]; exact List.mem_cons_self)

end KotlinContract.Template
