import KotlinContract.Proofs.Schema.Checked
import Mathlib.Data.List.Forall2

/-!
# Grammars of documents

What a JSON value has to be for a form to be read from it, said without the reading. A grammar
relates JSON values to the values that they stand for; here it is said for keys that have to be
there and keys that may be left out, for values that may be null and for lists, given the grammar of
what is inside. A reading is exact if it reads what the grammar says and nothing else (`Exact`).
-/
namespace KotlinContract.Schema

variable {α : Type}

/-- What is found under a key that has to be there. -/
inductive Required (grammar : Json → α → Prop) : Option Json → α → Prop where
  /-- The value that is there is in the grammar. -/
  | given {value : Json} {result : α} (inside : grammar value result) :
    Required grammar (some value) result

/-- What is found under a key that may be left out. -/
inductive Optional (grammar : Json → α → Prop) (default : α) : Option Json → α → Prop where
  /-- Nothing is there. -/
  | absent : Optional grammar default none default
  /-- The value that is there is in the grammar. -/
  | given {value : Json} {result : α} (inside : grammar value result) :
    Optional grammar default (some value) result

/-- A value that may be null. -/
inductive Nullable (grammar : Json → α → Prop) : Json → Option α → Prop where
  /-- It is null. -/
  | null : Nullable grammar .null none
  /-- It is another value, in the grammar. -/
  | given {value : Json} {result : α} (stated : value ≠ .null) (inside : grammar value result) :
    Nullable grammar value (some result)

/-- A list of values in the grammar. -/
inductive ListOf (grammar : Json → α → Prop) : Json → List α → Prop where
  /-- Each item stands for the result in its place. -/
  | intro {values : List Json} {results : List α} (each : List.Forall₂ grammar values results) :
    ListOf grammar (.array values) results

/-- A reading reads what a grammar says and nothing else. -/
structure Exact (read : Json → Checked α) (grammar : Json → α → Prop) : Prop where
  /-- What is read is what is said. -/
  iff {value : Json} {result : α} : read value = .valid result ↔ grammar value result

section Exact

variable {read : Json → Checked α} {grammar : Json → α → Prop} (exact : Exact read grammar)
  {key : String} {members : List (String × Json)}

include exact

/-- A key that has to be there is read exactly if what is there is. -/
theorem Exact.required_iff {result : α} :
    required read key members = .valid result ↔
      Required grammar (Json.member? members key) result := by
  rw [required_eq_valid_iff]
  constructor
  · rintro ⟨value, found, inside⟩
    rw [found]
    exact .given (exact.iff.mp inside)
  · cases found : Json.member? members key with
    | none => rintro ⟨⟩
    | some value =>
      rintro ⟨inside⟩
      exact ⟨value, rfl, exact.iff.mpr inside⟩

/-- A key that may be left out is read exactly if what is there is. -/
theorem Exact.optional_iff {default result : α} :
    optional read default key members = .valid result ↔
      Optional grammar default (Json.member? members key) result := by
  rw [optional_eq_valid_iff]
  cases Json.member? members key with
  | none =>
    constructor
    · rintro (⟨-, rfl⟩ | ⟨_, found, -⟩)
      · exact .absent
      · contradiction
    · rintro ⟨⟩
      exact .inl ⟨rfl, rfl⟩
  | some value =>
    constructor
    · rintro (⟨missing, -⟩ | ⟨_, found, inside⟩)
      · contradiction
      · cases found
        exact .given (exact.iff.mp inside)
    · rintro (_ | inside)
      exact .inr ⟨value, rfl, exact.iff.mpr inside⟩

/-- A value that may be null is read exactly if it is when it is not null. -/
theorem Exact.nullable : Exact (nullable read) (Nullable grammar) where
  iff {value result} := by
    rw [nullable_eq_valid_iff]
    constructor
    · rintro (⟨rfl, rfl⟩ | ⟨stated, _, inside, rfl⟩)
      · exact .null
      · exact .given stated (exact.iff.mp inside)
    · rintro (_ | ⟨stated, inside⟩)
      · exact .inl ⟨rfl, rfl⟩
      · exact .inr ⟨stated, _, exact.iff.mpr inside, rfl⟩

/-- Items are read exactly if each is. -/
theorem Exact.items_iff {position : Nat} {values : List Json} {results : List α} :
    items read position values = .valid results ↔ List.Forall₂ grammar values results := by
  induction values generalizing position results with
  | nil => rw [items, List.forall₂_nil_left_iff, Checked.valid.injEq, eq_comm]
  | cons value rest hypothesis =>
    simp only [items, Checked.cons_eq_valid_iff, Checked.under_eq_valid_iff, hypothesis,
      List.forall₂_cons_left_iff]
    constructor
    · rintro ⟨first, others, here, later, rfl⟩
      exact ⟨first, others, exact.iff.mp here, later, rfl⟩
    · rintro ⟨first, others, here, later, rfl⟩
      exact ⟨first, others, exact.iff.mpr here, later, rfl⟩

/-- A list is read exactly if each item is. -/
theorem Exact.list : Exact (list read) (ListOf grammar) where
  iff {value results} := by
    cases value with
    | array values =>
      rw [Schema.list, exact.items_iff]
      exact ⟨.intro, fun ⟨each⟩ => each⟩
    | _ => exact ⟨nofun, nofun⟩

end Exact

end KotlinContract.Schema
