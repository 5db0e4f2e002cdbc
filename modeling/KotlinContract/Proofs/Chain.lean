import Mathlib.Data.List.Forall2

/-!
# Chains of checks

What the success of a chain of computations, each of which may refuse, says about its links, and
when two computations come to the same.
-/
namespace KotlinContract.Chain

variable {ε α β γ : Type}

/-- Two computations, one after the other, succeed if the first does and then the second. -/
theorem bind_eq_ok_iff {first : Except ε α} {second : α → Except ε β} {result : β} :
    (first >>= second) = .ok result ↔ ∃ value, first = .ok value ∧ second value = .ok result := by
  cases first <;> simp [bind, Except.bind]

/-- Two computations, one after the other, are refused if the first is or then the second. -/
theorem bind_eq_error_iff {first : Except ε α} {second : α → Except ε β} {error : ε} :
    (first >>= second) = .error error ↔
      first = .error error ∨ ∃ value, first = .ok value ∧ second value = .error error := by
  cases first <;> simp [bind, Except.bind]

/-- A computation and a function of its value succeed with the function of the value. -/
theorem map_eq_ok_iff {computed : Except ε α} {change : α → β} {result : β} :
    computed.map change = .ok result ↔ ∃ value, computed = .ok value ∧ change value = result := by
  cases computed <;> simp [Except.map]

/-- Two computations, one after the other, succeed at all if the first does and then the second. -/
theorem exists_bind_iff {first : Except ε α} {second : α → Except ε β} :
    (∃ result, (first >>= second) = .ok result) ↔
      ∃ value, first = .ok value ∧ ∃ result, second value = .ok result := by
  simp only [bind_eq_ok_iff]
  exact ⟨fun ⟨result, value, found, last⟩ => ⟨value, found, result, last⟩,
    fun ⟨value, found, result, last⟩ => ⟨result, value, found, last⟩⟩

/-- A computation and a function of its value succeed at all if the computation does. -/
theorem exists_map_iff {computed : Except ε α} {change : α → β} :
    (∃ result, computed.map change = .ok result) ↔ ∃ value, computed = .ok value := by
  simp only [map_eq_ok_iff]
  exact ⟨fun ⟨_, value, found, _⟩ => ⟨value, found⟩, fun ⟨value, found⟩ => ⟨_, value, found, rfl⟩⟩

/-- Where items and results go together one by one, what is read from all items is what is read from
all results if it is for each item and its result. -/
theorem map_eq_map_of_forall₂ {together : α → β → Prop} {left : α → γ} {right : β → γ}
    {items : List α} {results : List β} (all : List.Forall₂ together items results)
    (each : ∀ item result, together item result → left item = right result) :
    items.map left = results.map right := by
  rw [← List.forall₂_eq_eq_eq]
  exact List.rel_map each all

/-- A computation on each of several items succeeds with the results that it has on each. -/
theorem mapM_eq_ok_iff_forall₂ {step : α → Except ε β} {items : List α} {results : List β} :
    items.mapM step = .ok results ↔ List.Forall₂ (step · = .ok ·) items results := by
  induction items generalizing results with
  | nil => cases results <;> simp [pure, Except.pure]
  | cons item rest hypothesis =>
    rw [List.mapM_cons, bind_eq_ok_iff, List.forall₂_cons_left_iff]
    simp only [bind_eq_ok_iff, hypothesis]
    constructor
    · rintro ⟨result, first, others, later, same⟩
      exact ⟨result, others, first, later, (Except.ok.inj same).symm⟩
    · rintro ⟨result, others, first, later, rfl⟩
      exact ⟨result, first, others, later, rfl⟩

/-- What holds of every result that a computation can have on one of several items holds of all
results that it has on them. -/
theorem forall_mem_of_mapM_eq_ok {step : α → Except ε β} {good : β → Prop} {items : List α}
    {results : List β} (computed : items.mapM step = .ok results)
    (each : ∀ item ∈ items, ∀ result, step item = .ok result → good result) :
    ∀ result ∈ results, good result := by
  rw [mapM_eq_ok_iff_forall₂] at computed
  induction computed with
  | nil => simp
  | cons first _ hypothesis =>
    rw [List.forall_mem_cons] at each ⊢
    exact ⟨each.1 _ first, hypothesis each.2⟩

/-- A computation succeeds on each of several items if it does on every one of them. -/
theorem exists_mapM_iff {step : α → Except ε β} {items : List α} :
    (∃ results, items.mapM step = .ok results) ↔
      ∀ item ∈ items, ∃ result, step item = .ok result := by
  induction items with
  | nil => simp [pure, Except.pure]
  | cons item rest hypothesis =>
    simp only [mapM_eq_ok_iff_forall₂, List.forall₂_cons_left_iff, List.forall_mem_cons] at *
    rw [← hypothesis]
    exact ⟨fun ⟨_, result, others, first, later, _⟩ => ⟨⟨result, first⟩, others, later⟩,
      fun ⟨⟨result, first⟩, others, later⟩ => ⟨_, result, others, first, later, rfl⟩⟩

/-- Where a computation succeeds on each item as another one does on what the item is changed to, so
they do on all items. -/
theorem mapM_eq_ok_iff_map {step : α → Except ε β} {change : α → γ} {other : γ → Except ε β}
    {items : List α}
    (same : ∀ item ∈ items, ∀ result, step item = .ok result ↔ other (change item) = .ok result)
    {results : List β} :
    items.mapM step = .ok results ↔ (items.map change).mapM other = .ok results := by
  rw [mapM_eq_ok_iff_forall₂, mapM_eq_ok_iff_forall₂, List.forall₂_map_left_iff]
  constructor <;> intro all
  · exact ((List.forall₂_and_left _ _).mpr ⟨same, all⟩).imp fun _ _ both => (both.1 _).mp both.2
  · exact ((List.forall₂_and_left _ _).mpr ⟨same, all⟩).imp fun _ _ both => (both.1 _).mpr both.2

/-- A computation on an item that is there is a function of what it has on the item. -/
theorem optionMapM_some (step : α → Except ε β) (item : α) :
    (some item).mapM step = (step item).map some := by
  change some <$> step item = _
  cases step item <;> rfl

/-- A computation on an item that may be absent succeeds with what it has on the item. -/
theorem optionMapM_eq_ok_iff_rel {step : α → Except ε β} {item : Option α} {result : Option β} :
    item.mapM step = .ok result ↔ Option.Rel (step · = .ok ·) item result := by
  cases item with
  | none => cases result <;> simp [pure, Except.pure]
  | some item =>
    rw [optionMapM_some, map_eq_ok_iff]
    cases result <;> simp

/-- Where success on an item tells the item, success on each of several items tells these. -/
theorem mapM_eq_ok_iff {step : α → Except ε β} {back : β → α}
    (each : ∀ {item result}, step item = .ok result ↔ item = back result) {items : List α}
    {results : List β} : items.mapM step = .ok results ↔ items = results.map back := by
  rw [mapM_eq_ok_iff_forall₂]
  simp only [each]
  rw [← List.forall₂_map_right_iff, List.forall₂_eq_eq_eq]

/-- Where success on an item tells the item, success on an item that may be absent tells it. -/
theorem optionMapM_eq_ok_iff {step : α → Except ε β} {back : β → α}
    (each : ∀ {item result}, step item = .ok result ↔ item = back result) {item : Option α}
    {result : Option β} : item.mapM step = .ok result ↔ item = result.map back := by
  rw [optionMapM_eq_ok_iff_rel]
  cases item <;> cases result <;> simp [each]

/-- Both are refused, for whatever reason, or both succeed with one result. -/
def Alike : Except ε α → Except ε α → Prop
  | .ok left, .ok right => left = right
  | .error _, .error _ => True
  | _, _ => False

/-- Two computations come to the same if they succeed with the same results. -/
theorem alike_iff {left right : Except ε α} :
    Alike left right ↔ ∀ result, left = .ok result ↔ right = .ok result := by
  cases left with
  | error => cases right <;> simp [Alike]
  | ok value =>
    cases right with
    | error => simp [Alike]
    | ok other =>
      simp only [Alike, Except.ok.injEq]
      exact ⟨fun same result => by rw [same], fun each => ((each other).mpr rfl)⟩

end KotlinContract.Chain
