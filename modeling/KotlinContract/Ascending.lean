/-!
# Ascending lists without repetition

A finite set is listed in ascending order by inserting its members one by one. `mem_ofList` says
that the list has the same members as the one it is made of.
-/
namespace KotlinContract.Ascending

variable {α : Type} [DecidableEq α] [LT α] [DecidableLT α]

/-- Insert a value into an ascending list, unless it is there. -/
def insert (value : α) : List α → List α
  | [] => [value]
  | head :: tail =>
    if value < head then value :: head :: tail
    else if value = head then head :: tail
    else head :: insert value tail

/-- The distinct values of a list in ascending order. -/
def ofList (values : List α) : List α := values.foldr insert []

/-- Inserting adds the value and nothing else. -/
theorem mem_insert {member value : α} {values : List α} :
    member ∈ insert value values ↔ member = value ∨ member ∈ values := by
  induction values with
  | nil => simp [insert]
  | cons head tail hypothesis =>
    simp only [insert]
    split
    · simp
    · split
      · next same => subst same; simp
      · simp [hypothesis, or_left_comm]

/-- The ascending list has the same members. -/
theorem mem_ofList {member : α} {values : List α} : member ∈ ofList values ↔ member ∈ values := by
  induction values with
  | nil => simp [ofList]
  | cons head tail hypothesis =>
    have step : ofList (head :: tail) = insert head (ofList tail) := rfl
    rw [step, mem_insert, hypothesis, List.mem_cons]

end KotlinContract.Ascending
