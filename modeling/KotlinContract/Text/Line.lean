import KotlinContract.Text.CharacterClass

/-!
# Lines and indentation

A text falls into lines, each with the separator that ends it. Eleven separators are known, one
of them two characters long. Indentation puts the same characters in front of every line that
is not blank and leaves every other character alone; `flatten_lines` says that nothing is lost
on the way.

A text read from a file has its line ends unified: a carriage return, with or without a line feed
after it, becomes a line feed.
-/
namespace KotlinContract.Text

/-- Whether a character ends a line. -/
def isLineEnd (c : Char) : Bool :=
  ('\n' ≤ c && c ≤ '\r') || ('\x1c' ≤ c && c ≤ '\x1e') || c == '\x85' ||
    c == '\u2028' || c == '\u2029'

/-- Put a character in front of the first line. -/
def extendFirst (c : Char) : List (List Char) → List (List Char)
  | [] => [[c]]
  | line :: others => (c :: line) :: others

/-- The lines of a text, each with its separator. A carriage return and the line feed after it
are one separator. -/
def lines : List Char → List (List Char)
  | [] => []
  | '\r' :: '\n' :: rest => ['\r', '\n'] :: lines rest
  | c :: rest => if isLineEnd c then [c] :: lines rest else extendFirst c (lines rest)

/-- Putting a character in front of the first line puts it in front of the text. -/
theorem flatten_extendFirst (c : Char) (split : List (List Char)) :
    (extendFirst c split).flatten = c :: split.flatten := by
  cases split <;> simp [extendFirst]

/-- The lines of a text, put together again, are the text. -/
@[simp] theorem flatten_lines (text : List Char) : (lines text).flatten = text := by
  fun_induction lines text with
  | case1 => rfl
  | case2 rest hypothesis => simp [hypothesis]
  | case3 c rest _ _ hypothesis => simp [hypothesis]
  | case4 c rest _ _ hypothesis => simp [flatten_extendFirst, hypothesis]

/-- Whether a line holds white space only. -/
def isBlankLine (line : List Char) : Bool := line.all isBlank

/-- Characters one after the other are a blank line if both parts are. -/
@[simp] theorem isBlankLine_append (left right : List Char) :
    isBlankLine (left ++ right) = (isBlankLine left && isBlankLine right) :=
  List.all_append

/-- One line with characters in front of it, unless it is blank. -/
def indentLine (lead line : List Char) : List Char :=
  if isBlankLine line then line else lead ++ line

/-- A blank line is left as it is. -/
theorem indentLine_of_blank {line : List Char} (blank : isBlankLine line = true)
    (lead : List Char) : indentLine lead line = line :=
  if_pos blank

/-- Any other line has the characters in front of it. -/
theorem indentLine_of_visible {line : List Char} (visible : isBlankLine line = false)
    (lead : List Char) : indentLine lead line = lead ++ line :=
  if_neg (Bool.eq_false_iff.mp visible)

/-- Put the characters of `lead` in front of every line that is not blank. -/
def indent (lead text : String) : String :=
  String.ofList ((lines text.toList).flatMap (indentLine lead.toList))

/-- One step of indentation in generated source. -/
def indentStep : String := "  "

/-- A text indented by one step. -/
def indentBlock (text : String) : String := indent indentStep text

/-- The characters with every line end turned into a line feed. -/
def unifyLineEnds : List Char → List Char
  | [] => []
  | '\r' :: '\n' :: rest => '\n' :: unifyLineEnds rest
  | '\r' :: rest => '\n' :: unifyLineEnds rest
  | c :: rest => c :: unifyLineEnds rest

/-- A text without carriage returns stays as it is. -/
theorem unifyLineEnds_of_not_mem {text : List Char} (free : '\r' ∉ text) :
    unifyLineEnds text = text := by
  fun_induction unifyLineEnds text with
  | case1 => rfl
  | case2 => simp at free
  | case3 => simp at free
  | case4 c rest _ _ hypothesis =>
    rw [hypothesis fun member => free (List.mem_cons_of_mem _ member)]

/-- No carriage return is left. -/
theorem not_mem_unifyLineEnds (text : List Char) : '\r' ∉ unifyLineEnds text := by
  fun_induction unifyLineEnds text with
  | case1 => simp
  | case2 rest hypothesis => simp [hypothesis]
  | case3 rest _ hypothesis => simp [hypothesis]
  | case4 c rest _ other hypothesis =>
    simp only [List.mem_cons, not_or]
    exact ⟨fun same => other same.symm, hypothesis⟩

end KotlinContract.Text
