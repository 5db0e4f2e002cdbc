import KotlinContract.Proofs.Text.Ended
import KotlinContract.Proofs.Text.Lines
import Mathlib.Data.List.Forall2

/-!
# Indentation line by line

Indentation keeps a division ruled, so the lines of an indented text are the indented lines: each has
its separator and is blank if it was (`forall₂_indented`). What is in front of them can be taken away
again, so nothing about the text is lost (`outdent_indent`). Indentation goes piece by piece through
texts, one after the other, if all but the last are terminated (`indent_append`); a line feed after a
carriage return is a blank line where it is not part of the line before, and stays as it is.
-/
namespace KotlinContract.Text

section Lead

variable {lead : List Char} (inside : ∀ c ∈ lead, isLineEnd c = false)

include inside

/-- Indentation keeps a division ruled. -/
theorem Ruled.map_indentLine {division : List (List Char)} (ruled : Ruled division) :
    Ruled (division.map (indentLine lead)) := by
  have begins (next : List Char) (first : next.head? ≠ some '\n') :
      (indentLine lead next).head? ≠ some '\n' := by
    rw [indentLine]
    split
    · exact first
    · cases lead with
      | nil => exact first
      | cons c others =>
        intro feed
        rw [List.cons_append, List.head?_cons, Option.some.injEq] at feed
        exact absurd (inside c List.mem_cons_self) (by rw [feed]; decide)
  have led (body : List Char) (own : ∀ c ∈ body, isLineEnd c = false) :
      ∀ c ∈ lead ++ body, isLineEnd c = false := by
    intro c member
    exact (List.mem_append.mp member).elim (inside c) (own c)
  induction ruled with
  | nil => exact .nil
  | @last body nonempty own =>
    rw [List.map_singleton, indentLine]
    split
    · exact .last nonempty own
    · exact .last (List.append_ne_nil_of_right_ne_nil lead nonempty) (led body own)
  | @line body separator others own ends apart later hypothesis =>
    have undivided : separator = ['\r'] →
        ∀ next ∈ (others.map (indentLine lead)).head?, next.head? ≠ some '\n' := by
      intro carriage next first
      rw [List.head?_map, Option.mem_def, Option.map_eq_some_iff] at first
      obtain ⟨old, found, rfl⟩ := first
      exact begins old (apart carriage old found)
    rw [List.map_cons, indentLine]
    split
    · exact .line own ends undivided hypothesis
    · rw [← List.append_assoc]
      exact .line (led body own) ends undivided hypothesis

/-- The lines of an indented text are the indented lines. -/
theorem lines_flatMap_indentLine (text : List Char) :
    lines ((lines text).flatMap (indentLine lead)) = (lines text).map (indentLine lead) :=
  lines_flatten ((ruled_lines text).map_indentLine inside)

end Lead

/-- The separator of a line, which begins where the line ends; a last line may have none. -/
def separatorOf (line : List Char) : List Char := line.dropWhile fun c => !isLineEnd c

/-- How a line is shown in an indented text. -/
structure Indented (lead line shown : List Char) : Prop where
  /-- It has the same separator. -/
  separator : separatorOf shown = separatorOf line
  /-- A blank line is left as it is. -/
  blank : isBlankLine line = true → shown = line
  /-- Any other line stands behind what is put in front of it, and is not blank. -/
  visible : isBlankLine line = false → shown = lead ++ line ∧ isBlankLine shown = false

/-- An indented line is shown as it should be. -/
theorem indented_indentLine {lead : List Char} (inside : ∀ c ∈ lead, isLineEnd c = false)
    (line : List Char) : Indented lead line (indentLine lead line) := by
  cases visible : isBlankLine line with
  | true =>
    rw [indentLine_of_blank visible]
    exact ⟨rfl, fun _ => rfl, fun shown => absurd (shown.symm.trans visible) (by decide)⟩
  | false =>
    have passed : separatorOf (lead ++ line) = separatorOf line :=
      List.dropWhile_append_of_pos fun c member => by rw [inside c member, Bool.not_false]
    rw [indentLine_of_visible visible]
    refine ⟨passed, fun blank => absurd (blank.symm.trans visible) (by decide), fun _ => ⟨rfl, ?_⟩⟩
    rw [isBlankLine_append, visible, Bool.and_false]

/-- The lines of an indented text are those of the text, each shown as it should be. -/
theorem forall₂_indented {lead : List Char} (inside : ∀ c ∈ lead, isLineEnd c = false)
    (text : List Char) :
    List.Forall₂ (Indented lead) (lines text)
      (lines ((lines text).flatMap (indentLine lead))) := by
  rw [lines_flatMap_indentLine inside, List.forall₂_map_right_iff, List.forall₂_same]
  exact fun line _ => indented_indentLine inside line

/-- One line without the characters in front of it, unless it is blank. -/
def outdentLine (lead line : List Char) : List Char :=
  if isBlankLine line then line else line.drop lead.length

/-- Take as many characters as `lead` has from the front of every line that is not blank. -/
def outdent (lead text : String) : String :=
  String.ofList ((lines text.toList).flatMap (outdentLine lead.toList))

/-- What is put in front of a line can be taken away again. -/
theorem outdentLine_indentLine (lead line : List Char) :
    outdentLine lead (indentLine lead line) = line := by
  cases visible : isBlankLine line with
  | true => rw [indentLine_of_blank visible, outdentLine, if_pos visible]
  | false => simp [indentLine_of_visible visible, outdentLine, visible]

/-- Indentation can be taken away again. -/
theorem outdent_indent {lead : String} (inside : OneLine lead) (text : String) :
    outdent lead (indent lead text) = text := by
  apply String.toList_injective
  rw [outdent, indent, String.toList_ofList, String.toList_ofList, lines_flatMap_indentLine inside,
    List.flatMap_map]
  simp only [outdentLine_indentLine, List.flatMap_id', flatten_lines]

/-- An indented text tells the text. -/
theorem indent_injective {lead : String} (inside : OneLine lead) :
    Function.Injective (indent lead) :=
  Function.LeftInverse.injective (outdent_indent inside)

/-- The text of a block of code tells the code. -/
theorem indentBlock_injective : Function.Injective indentBlock := indent_injective (by decide)

/-- A line feed at the end of a line makes no difference to what is in front. -/
theorem indentLine_append_feed (lead line : List Char) :
    indentLine lead (line ++ ['\n']) = indentLine lead line ++ ['\n'] := by
  have feed : isBlankLine ['\n'] = true := by decide
  rw [indentLine, indentLine, isBlankLine_append, feed, Bool.and_true]
  split
  · rfl
  · rw [List.append_assoc]

/-- Two texts, one after the other, are indented one after the other, if the first is terminated. -/
theorem indent_append {lead text : String} (ended : Terminated text.toList) (rest : String) :
    indent lead (text ++ rest) = indent lead text ++ indent lead rest := by
  apply String.toList_injective
  simp only [indent, String.toList_append, String.toList_ofList]
  by_cases divided : text.toList.getLast? = some '\r' ∧ rest.toList.head? = some '\n'
  · -- the line feed goes to the last line of the first text, and is a blank line of the second
    obtain ⟨carriage, feed⟩ := divided
    obtain ⟨others, found⟩ := List.head?_eq_some_iff.mp feed
    obtain ⟨front, last, own, grown⟩ := exists_lines_append_feed carriage
    have first : Terminated (text.toList ++ ['\n']) := terminated_of_getLast? (by simp)
    have whole : lines (text.toList ++ '\n' :: others) =
        front ++ (last ++ ['\n']) :: lines others := by
      have split : lines (text.toList ++ ['\n'] ++ others) =
          lines (text.toList ++ ['\n']) ++ lines others := lines_append first (by simp)
      rw [grown] at split
      simpa using split
    have second : lines ('\n' :: others) = ['\n'] :: lines others :=
      lines_cons_of_end (by decide) fun carriage => absurd carriage (by decide)
    have stays : indentLine lead.toList ['\n'] = ['\n'] := indentLine_of_blank (by decide) _
    rw [found, whole, own, second]
    simp [indentLine_append_feed, stays]
  · rw [lines_append ended fun carriage feed => divided ⟨carriage, feed⟩, List.flatMap_append]

/-- Indentation loses nothing. An indented text has as many lines as the text, each with the separator
that it had; a blank line is left as it is, and any other line has two spaces in front of it. Without
these spaces it is the text again. And a text that is empty, or ends with any of the characters that
end a line, is indented by itself, whatever follows it. -/
theorem indentBlock_lossless (text : String) :
    List.Forall₂ (Indented [' ', ' ']) (lines text.toList) (lines (indentBlock text).toList) ∧
      outdent "  " (indentBlock text) = text ∧
      (Terminated text.toList →
        ∀ rest, indentBlock (text ++ rest) = indentBlock text ++ indentBlock rest) := by
  have inside : OneLine "  " := by decide
  refine ⟨?_, outdent_indent inside text, indent_append⟩
  have chars : (indentBlock text).toList = (lines text.toList).flatMap (indentLine "  ".toList) :=
    String.toList_ofList
  rw [chars]
  exact forall₂_indented inside text.toList

/-- A text with three kinds of separators and a blank line, which ends with a carriage return and is
followed by a line feed. -/
theorem indentBlock_lossless_carriage :
    let text := "a\r\n \t\u2028b\r"
    Terminated text.toList ∧ indentBlock text = "  a\r\n \t\u2028  b\r" ∧
      outdent "  " (indentBlock text) = text ∧
      indentBlock (text ++ "\nc") = indentBlock text ++ "\n  c" := by
  intro text
  have last : "a\r\n \t\u2028b\r".toList.getLast? = some '\r' := by decide
  have ended : Terminated text.toList := by
    intro c final
    obtain rfl := Option.some.inj (last.symm.trans final)
    decide
  obtain ⟨-, restored, apart⟩ := indentBlock_lossless text
  exact ⟨ended, by decide, restored, apart ended "\nc"⟩

/-- Texts that end with a line feed are indented one after the other, and so is what follows. -/
theorem indent_join_append {lead : String} {texts : List String}
    (ended : ∀ text ∈ texts, text.toList.getLast? = some '\n') (rest : String) :
    indent lead (join "" texts ++ rest) =
      join "" (texts.map (indent lead)) ++ indent lead rest := by
  induction texts with
  | nil => rw [join, List.map_nil, join, String.empty_append, String.empty_append]
  | cons text others hypothesis =>
    obtain ⟨here, later⟩ := List.forall_mem_cons.mp ended
    rw [List.map_cons, join_empty_cons, join_empty_cons, String.append_assoc,
      indent_append (terminated_of_getLast? here), hypothesis later, String.append_assoc]

section Line

variable {lead body : String} (inside : OneLine body)
  (visible : isBlankLine body.toList = false)

include inside visible

/-- A line that is not blank is indented as a whole. -/
theorem indent_of_inside : indent lead body = lead ++ body := by
  have nonempty : body.toList ≠ [] := by
    intro empty
    rw [empty] at visible
    contradiction
  have single : lines body.toList = [body.toList] := by
    have whole := lines_flatten (.last nonempty inside)
    rwa [List.flatten_singleton] at whole
  rw [indent, single, List.flatMap_singleton, indentLine_of_visible visible]
  simp

/-- A line that is not blank is indented with its line feed. -/
theorem indent_newline_of_inside : indent lead (body ++ "\n") = lead ++ body ++ "\n" := by
  have single : lines (body.toList ++ ['\n']) = [body.toList ++ ['\n']] := by
    have ends : Separator ['\n'] := .single (by decide)
    have whole := lines_flatten (.line inside ends (fun carriage => absurd carriage (by decide)) .nil)
    rwa [List.flatten_singleton] at whole
  have shown : isBlankLine (body.toList ++ ['\n']) = false := by
    rw [isBlankLine_append, visible, Bool.false_and]
  have chars : (body ++ "\n").toList = body.toList ++ ['\n'] := String.toList_append
  rw [indent, chars, single, List.flatMap_singleton, indentLine_of_visible shown]
  apply String.toList_injective
  simp

end Line

/-- Lines that are not blank, each with a line feed, are the lines of the text after indentation as
before. -/
theorem lines_indent_join {lead : String} (led : OneLine lead) {rows : List String}
    (inside : ∀ row ∈ rows, OneLine row)
    (visible : ∀ row ∈ rows, isBlankLine row.toList = false) :
    lines (indent lead (join "" (rows.map (· ++ "\n")))).toList =
      rows.map fun row => (lead ++ row ++ "\n").toList := by
  have ruled : Ruled (rows.map fun row => row.toList ++ ['\n']) := by
    clear visible
    induction rows with
    | nil => exact .nil
    | cons row others hypothesis =>
      obtain ⟨here, later⟩ := List.forall_mem_cons.mp inside
      exact .line here (.single (by decide)) (fun carriage => absurd carriage (by decide))
        (hypothesis later)
  have chars : (join "" (rows.map (· ++ "\n"))).toList =
      (rows.map fun row => row.toList ++ ['\n']).flatten := by
    rw [toList_join_empty, ← List.flatMap_def, List.flatMap_map]
    simp [String.toList_append]
  rw [indent, String.toList_ofList, lines_flatMap_indentLine led, chars, lines_flatten ruled,
    List.map_map]
  refine List.map_congr_left fun row member => ?_
  have shown : isBlankLine (row.toList ++ ['\n']) = false := by
    rw [isBlankLine_append, visible row member, Bool.false_and]
  rw [Function.comp_apply, indentLine_of_visible shown]
  simp

end KotlinContract.Text
