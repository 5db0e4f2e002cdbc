import KotlinContract.Proofs.Text.Composed
import Mathlib.Data.List.TakeWhile

/-!
# Reading texts as formulas

A text is read by the precedence of its operators: cut at the disjunctions outside parentheses,
each piece at the conjunctions outside parentheses, and what is then a pair of parentheses around
something is read the same way. Every other piece is an atom or, with an operator that begins with
an exclamation mark, the negation of one.
-/
namespace KotlinContract

open Text (Plain)

/-- What a truth assignment gives a truth value to. -/
inductive Atom where
  /-- A token as it stands: a constant or a name. -/
  | token (name : String)
  /-- A comparison of two tokens. -/
  | equal (left right : String)
  /-- A test of a token for a type. -/
  | ofType (subject type : String)
  deriving DecidableEq

/-- A propositional formula over atoms. -/
inductive Formula where
  /-- An atom. -/
  | atom (fact : Atom)
  /-- The opposite of a formula. -/
  | negation (formula : Formula)
  /-- All of the parts. -/
  | conjunction (parts : List Formula)
  /-- Any of the parts. -/
  | disjunction (parts : List Formula)

namespace Formula

variable (assignment : Atom → Bool)

mutual

/-- The truth value of a formula. -/
def holds : Formula → Bool
  | .atom fact => assignment fact
  | .negation formula => !formula.holds
  | .conjunction parts => holdsAll parts
  | .disjunction parts => holdsAny parts

/-- Whether all formulas hold. -/
def holdsAll : List Formula → Bool
  | [] => true
  | formula :: rest => formula.holds && holdsAll rest

/-- Whether any of the formulas holds. -/
def holdsAny : List Formula → Bool
  | [] => false
  | formula :: rest => formula.holds || holdsAny rest

end

/-- The atom, or the negation of one, that a piece of text without operators stands for. The first
space ends the subject. -/
def readLiteral (piece : List Char) : Formula :=
  let subject := String.ofList (piece.takeWhile (· != ' '))
  match piece.dropWhile (· != ' ') with
  | ' ' :: '=' :: '=' :: ' ' :: value => .atom (.equal subject (String.ofList value))
  | ' ' :: '!' :: '=' :: ' ' :: value => .negation (.atom (.equal subject (String.ofList value)))
  | ' ' :: 'i' :: 's' :: ' ' :: type => .atom (.ofType subject (String.ofList type))
  | ' ' :: '!' :: 'i' :: 's' :: ' ' :: type =>
    .negation (.atom (.ofType subject (String.ofList type)))
  | _ => .atom (.token (String.ofList piece))

/-- The formula that a text stands for. A conjunction binds its parts more tightly than a
disjunction. -/
def read (text : List Char) : Formula :=
  .disjunction ((Text.cut '|' text).attach.map fun alternative =>
    .conjunction ((Text.cut '&' alternative.1).attach.map fun piece =>
      match _found : Text.enclosed? piece.1 with
      | some inner => read inner
      | none => readLiteral piece.1))
termination_by text.length
decreasing_by
  have pieceLength := Text.length_le_of_mem_cutFrom piece.2
  have alternativeLength := Text.length_le_of_mem_cutFrom alternative.2
  have innerLength := Text.length_lt_of_enclosed? _found
  omega

/-- The formula that a piece between operators stands for. -/
def readPiece (piece : List Char) : Formula :=
  match Text.enclosed? piece with
  | some inner => read inner
  | none => readLiteral piece

/-- Reading cuts at the disjunctions, then at the conjunctions, then reads the pieces. -/
theorem read_eq (text : List Char) :
    read text = .disjunction ((Text.cut '|' text).map fun alternative =>
      .conjunction ((Text.cut '&' alternative).map readPiece)) := by
  have pieces (alternative : List Char) :
      ((Text.cut '&' alternative).attach.map fun piece =>
        match _found : Text.enclosed? piece.1 with
        | some inner => read inner
        | none => readLiteral piece.1) = (Text.cut '&' alternative).map readPiece := by
    rw [← List.attach_map_val (f := readPiece)]
    apply List.map_congr_left
    intro piece _
    rw [readPiece]
    split <;> simp [*]
  rw [read]
  simp only [pieces]
  exact congrArg disjunction (List.attach_map_val (f := fun alternative =>
    conjunction ((Text.cut '&' alternative).map readPiece)))

/-- All formulas of a list hold if each does. -/
theorem holdsAll_map {α : Type} (items : List α) (formula : α → Formula) :
    holdsAll assignment (items.map formula) =
      items.all fun item => (formula item).holds assignment := by
  induction items with
  | nil => rfl
  | cons item rest hypothesis => rw [List.map_cons, holdsAll, hypothesis, List.all_cons]

/-- Any formula of a list holds if one does. -/
theorem holdsAny_map {α : Type} (items : List α) (formula : α → Formula) :
    holdsAny assignment (items.map formula) =
      items.any fun item => (formula item).holds assignment := by
  induction items with
  | nil => rfl
  | cons item rest hypothesis => rw [List.map_cons, holdsAny, hypothesis, List.any_cons]

/-- A text holds if for one of its alternatives every piece does. -/
theorem holds_read (text : List Char) :
    (read text).holds assignment = (Text.cut '|' text).any fun alternative =>
      (Text.cut '&' alternative).all fun piece => (readPiece piece).holds assignment := by
  rw [read_eq, holds, holdsAny_map]
  simp only [holds, holdsAll_map]

/-- No character of a plain word is a space. -/
theorem bne_space {word : String} (plain : Plain word) : ∀ c ∈ word.toList, (c != ' ') = true := by
  intro c member
  have apart : c ≠ ' ' := fun same => plain.space_not_mem (same ▸ member)
  simpa using apart

/-- The first space after a plain word ends it. -/
theorem takeWhile_subject {subject : String} (plain : Plain subject) (rest : List Char) :
    (subject.toList ++ ' ' :: rest).takeWhile (· != ' ') = subject.toList ∧
      (subject.toList ++ ' ' :: rest).dropWhile (· != ' ') = ' ' :: rest := by
  rw [List.takeWhile_append_of_pos (bne_space plain),
    List.dropWhile_append_of_pos (bne_space plain)]
  simp

/-- A plain word is a token. -/
theorem readLiteral_token {name : String} (plain : Plain name) :
    readLiteral name.toList = .atom (.token name) := by
  have rest : name.toList.dropWhile (· != ' ') = [] :=
    List.dropWhile_eq_nil_iff.mpr (bne_space plain)
  simp [readLiteral, rest]

end Formula

end KotlinContract
