import KotlinContract.Proofs.Json.Numbers
import KotlinContract.Proofs.Json.Texts

/-!
# Written values are read back

A value without floating-point numbers whose objects have different keys is read back from its text
in any layout (`Restorable.readChars_render`). What is written for a part of a value is read up to
its end, whatever follows, if that does not go on with a number (`ReadsBack`); lists and objects are
read back because their parts are.
-/
namespace KotlinContract.Json

/-- A value that can be read back: there are no floating-point numbers in it, its whole numbers do
not have too many digits, and the keys of each object are different. -/
inductive Restorable : Json → Prop where
  /-- The null value. -/
  | null : Restorable .null
  /-- A truth value. -/
  | boolean (value : Bool) : Restorable (.boolean value)
  /-- A whole number with no more digits than are allowed. -/
  | integer {value : Int} (short : (Decimal.digitsOf value.natAbs).length ≤ mostDigits) :
    Restorable (.integer value)
  /-- A text. -/
  | text (value : String) : Restorable (.text value)
  /-- A list of values that can be read back. -/
  | array {items : List Json} (each : ∀ item ∈ items, Restorable item) : Restorable (.array items)
  /-- An object with different keys and values that can be read back. -/
  | object {members : List (String × Json)} (different : (members.map Prod.fst).Nodup)
    (each : ∀ member ∈ members, Restorable member.2) : Restorable (.object members)

attribute [simp] Restorable.null Restorable.boolean Restorable.text

@[simp] theorem restorable_integer_iff {value : Int} :
    Restorable (.integer value) ↔ (Decimal.digitsOf value.natAbs).length ≤ mostDigits :=
  ⟨fun | .integer short => short, .integer⟩

@[simp] theorem restorable_array_iff {items : List Json} :
    Restorable (.array items) ↔ ∀ item ∈ items, Restorable item :=
  ⟨fun | .array each => each, .array⟩

@[simp] theorem restorable_object_iff {members : List (String × Json)} :
    Restorable (.object members) ↔
      (members.map Prod.fst).Nodup ∧ ∀ member ∈ members, Restorable member.2 :=
  ⟨fun | .object different each => ⟨different, each⟩,
    fun ⟨different, each⟩ => .object different each⟩

variable {layout : Layout} {depth : Nat} {gap chars rest : List Char}

/-- Only characters that may stand between the parts of a value. -/
def Idle (gap : List Char) : Prop := ∀ c ∈ gap, isGap c = true

/-- A line break with the spaces after it is idle. -/
theorem idle_newline (layout : Layout) (depth : Nat) : Idle (layout.newline depth) := by
  intro c member
  rw [Layout.newline] at member
  split at member
  · cases member
  · rcases List.mem_cons.mp member with rfl | space
    · rfl
    · rw [List.eq_of_mem_replicate space]
      rfl

/-- A separator is a comma with something idle after it. -/
theorem exists_separator_eq (layout : Layout) (depth : Nat) :
    ∃ gap, layout.separator depth = ',' :: gap ∧ Idle gap := by
  rw [Layout.separator]
  split
  · exact ⟨[' '], rfl, by simp [Idle, isGap]⟩
  · exact ⟨_, rfl, idle_newline layout depth⟩

/-- Nothing is skipped in front of a character that does not belong to a gap. -/
theorem skipGap_cons {c : Char} (visible : isGap c = false) (rest : List Char) :
    skipGap (c :: rest) = c :: rest :=
  List.dropWhile_cons_of_neg (by simp [visible])

/-- The gap is skipped up to the first character that does not belong to it. -/
theorem skipGap_append_cons {c : Char} (idle : Idle gap) (visible : isGap c = false)
    (rest : List Char) : skipGap (gap ++ c :: rest) = c :: rest := by
  rw [skipGap, List.dropWhile_append_of_pos idle, ← skipGap, skipGap_cons visible]

/-- What comes between values or after them does not go on with a number. -/
theorem stops_cons {c : Char} (between : c ∈ [',', ']', '\x7d']) (rest : List Char) :
    Stops (c :: rest) := by
  rintro _ ⟨⟩
  simp only [List.mem_cons, List.not_mem_nil, or_false] at between
  obtain rfl | rfl | rfl := between <;> decide

/-- A gap does not go on with a number. -/
theorem stops_append_cons {c : Char} (idle : Idle gap) (between : c ∈ [',', ']', '\x7d'])
    (rest : List Char) : Stops (gap ++ c :: rest) := by
  cases gap with
  | nil => exact stops_cons between rest
  | cons space others =>
    rintro _ ⟨⟩
    have gap : isGap space = true := idle space List.mem_cons_self
    simp only [isGap, Bool.or_eq_true, beq_iff_eq] at gap
    obtain ((rfl | rfl) | rfl) | rfl := gap <;> decide

/-- A value begins here, and neither a gap nor the end of a list or object. -/
def Begins (chars : List Char) : Prop :=
  ∃ c others, chars = c :: others ∧ isGap c = false ∧ c ≠ ']' ∧ c ≠ '\x7d' ∧ c ≠ '\ufeff'

/-- A value still begins here if more follows. -/
theorem Begins.append (begins : Begins chars) (rest : List Char) : Begins (chars ++ rest) := by
  obtain ⟨c, others, rfl, visible⟩ := begins
  exact ⟨c, others ++ rest, rfl, visible⟩

/-- A value begins with a character. -/
theorem Begins.length_pos (begins : Begins chars) : 0 < chars.length := by
  obtain ⟨c, others, rfl, -⟩ := begins
  exact Nat.succ_pos _

/-- A gap is skipped up to where a value begins. -/
theorem Begins.skipGap_append (begins : Begins chars) (idle : Idle gap) (rest : List Char) :
    skipGap (gap ++ (chars ++ rest)) = chars ++ rest := by
  obtain ⟨c, others, rfl, visible, -⟩ := begins
  exact skipGap_append_cons idle visible (others ++ rest)

/-- A whole number begins with a sign or a digit. -/
theorem begins_integerText (value : Int) : Begins (Decimal.integerText value).toList := by
  obtain ⟨sign, digit, others, written, isDigit, rfl | rfl⟩ := exists_toList_integerText value
  · have other {c : Char} (unlike : c.isDigit = false) : digit ≠ c :=
      Ne.symm (beq_eq_false_iff_ne.mp (beq_digit isDigit unlike))
    have visible : isGap digit = false := by
      simp only [isGap, Bool.or_eq_false_iff, beq_eq_false_iff_ne]
      exact ⟨⟨⟨other rfl, other rfl⟩, other rfl⟩, other rfl⟩
    exact ⟨digit, others, written, visible, other rfl, other rfl, other rfl⟩
  · exact ⟨'-', digit :: others, written, by decide⟩

/-- What is written for a value that can be read back begins with the value. -/
theorem Restorable.begins_written {value : Json} (restorable : Restorable value) :
    Begins (written layout depth value) := by
  cases restorable with
  | null => exact ⟨'n', _, rfl, by decide⟩
  | boolean value => cases value <;> exact ⟨_, _, rfl, by decide⟩
  | integer short => exact begins_integerText _
  | text value => exact ⟨'\x22', _, rfl, by decide⟩
  | @array items => cases items <;> exact ⟨'[', _, rfl, by decide⟩
  | @object members => cases members <;> exact ⟨'\x7b', _, rfl, by decide⟩

/-- A value is read from what is written for it, and what follows is left, if that does not go on
with a number. -/
def ReadsBack (layout : Layout) (depth : Nat) (value : Json) : Prop :=
  ∀ steps rest, Stops rest → (written layout depth value).length ≤ steps →
    readValue steps (written layout depth value ++ rest) = .ok (value, rest)

/-- The items of a list are read back up to its end. -/
theorem readItems_append {item : Json} {items : List Json} {steps : Nat} (idle : Idle gap)
    (each : ∀ value ∈ item :: items,
      ReadsBack layout depth value ∧ Begins (written layout depth value))
    (enough :
      (written layout depth item).length + (writtenItems layout depth items).length < steps) :
    readItems steps
        (written layout depth item ++ (writtenItems layout depth items ++ (gap ++ ']' :: rest))) =
      .ok (item :: items, rest) := by
  obtain ⟨steps, rfl⟩ := Nat.exists_eq_succ_of_ne_zero (Nat.ne_of_gt (Nat.zero_lt_of_lt enough))
  have first := (each item List.mem_cons_self).1 steps
  induction items generalizing item steps with
  | nil =>
    rw [readItems, writtenItems, List.nil_append,
      first _ (stops_append_cons idle (by decide) rest) (by omega)]
    simp only [bind, Except.bind, skipGap_append_cons idle (c := ']') rfl]
    rfl
  | cons next others hypothesis =>
    obtain ⟨space, separated, idle'⟩ := exists_separator_eq layout depth
    have second := each next (by simp)
    have positive := second.2.length_pos
    rw [writtenItems, separated] at enough ⊢
    simp only [List.length_append, List.length_cons, List.cons_append, List.append_assoc] at enough
    simp only [List.cons_append, List.append_assoc]
    obtain ⟨steps, rfl⟩ : ∃ fewer, steps = fewer + 1 := ⟨steps - 1, by omega⟩
    have remaining := hypothesis
      (fun value member => each value (List.mem_cons_of_mem _ member)) steps (by omega)
      (second.1 steps)
    rw [readItems, first _ (stops_cons (by decide) _) (by omega)]
    simp only [bind, Except.bind, skipGap_cons (c := ',') rfl, second.2.skipGap_append idle',
      remaining]
    rfl

/-- What is written for a text is read back behind its opening quote. -/
theorem writtenText_append (text : String) (rest : List Char) :
    writtenText text ++ rest = '\x22' :: (text.toList.flatMap escapedChar ++ '\x22' :: rest) := by
  simp [writtenText]

/-- A member is read back with its key, and then it depends on what follows whether another one is
read. -/
theorem readMembers_cons {key : String} {value : Json} {steps : Nat}
    (begins : Begins (written layout depth value))
    (read : readValue steps (written layout depth value ++ rest) = .ok (value, rest)) :
    readMembers (steps + 1)
        (writtenText key ++ (':' :: ' ' :: (written layout depth value ++ rest))) =
      match skipGap rest with
      | '\x7d' :: rest => .ok ([(key, value)], rest)
      | ',' :: rest => do
        let (members, rest) ← readMembers steps (skipGap rest)
        return ((key, value) :: members, rest)
      | rest => flawAt .comma rest := by
  have idle : Idle [' '] := by simp [Idle, isGap]
  have space : skipGap (' ' :: (written layout depth value ++ rest)) =
      written layout depth value ++ rest := begins.skipGap_append idle rest
  rw [writtenText_append, readMembers, readText_flatMap_append]
  simp only [bind, Except.bind, skipGap_cons (c := ':') rfl, space, read, String.ofList_toList]
  rfl

/-- The members of an object are read back up to its end. -/
theorem readMembers_append {key : String} {value : Json} {members : List (String × Json)}
    {steps : Nat} (idle : Idle gap)
    (each : ∀ other ∈ value :: members.map Prod.snd,
      ReadsBack layout depth other ∧ Begins (written layout depth other))
    (enough :
      (written layout depth value).length + (writtenMembers layout depth members).length < steps) :
    readMembers steps
        (writtenText key ++ (':' :: ' ' :: (written layout depth value ++
          (writtenMembers layout depth members ++ (gap ++ '\x7d' :: rest))))) =
      .ok ((key, value) :: members, rest) := by
  obtain ⟨steps, rfl⟩ := Nat.exists_eq_succ_of_ne_zero (Nat.ne_of_gt (Nat.zero_lt_of_lt enough))
  have first := each value List.mem_cons_self
  induction members generalizing key value steps with
  | nil =>
    rw [writtenMembers, List.nil_append,
      readMembers_cons first.2
        (first.1 steps _ (stops_append_cons idle (by decide) rest) (by omega))]
    simp only [skipGap_append_cons idle (c := '\x7d') rfl]
  | cons next others hypothesis =>
    obtain ⟨name, other⟩ := next
    obtain ⟨space, separated, idle'⟩ := exists_separator_eq layout depth
    have second := each other (by simp)
    have positive := second.2.length_pos
    rw [writtenMembers, separated] at enough ⊢
    have colon : ": ".toList = [':', ' '] := rfl
    simp only [colon, List.length_append, List.length_cons, List.cons_append, List.append_assoc,
      List.nil_append] at enough ⊢
    obtain ⟨steps, rfl⟩ : ∃ fewer, steps = fewer + 1 := ⟨steps - 1, by omega⟩
    have remaining := @hypothesis name other
      (fun value member => each value (List.mem_cons_of_mem _ member)) steps (by omega) second
    have named : Begins (writtenText name) := ⟨'\x22', _, rfl, by decide⟩
    rw [readMembers_cons first.2 (first.1 (steps + 1) _ (stops_cons (by decide) _) (by omega))]
    simp only [skipGap_cons (c := ',') rfl, named.skipGap_append idle', remaining]
    rfl

/-- A member with a new key is put behind the others. -/
theorem insertMember_of_not_mem {key : String} {members : List (String × Json)}
    (fresh : key ∉ members.map Prod.fst) (value : Json) :
    insertMember key value members = members ++ [(key, value)] := by
  induction members with
  | nil => rfl
  | cons first rest hypothesis =>
    rw [List.map_cons, List.mem_cons, not_or] at fresh
    rw [insertMember, if_neg (Ne.symm fresh.1), hypothesis fresh.2]
    rfl

/-- Members with different keys are put one behind the other. -/
theorem foldl_insertMember {found members : List (String × Json)}
    (different : ((found ++ members).map Prod.fst).Nodup) :
    members.foldl (fun found member => insertMember member.1 member.2 found) found =
      found ++ members := by
  induction members generalizing found with
  | nil => simp
  | cons member rest hypothesis =>
    have fresh : member.1 ∉ found.map Prod.fst := by
      rw [List.map_append, List.nodup_append] at different
      exact fun known => different.2.2 member.1 known member.1 (by simp) rfl
    rw [List.foldl_cons, insertMember_of_not_mem fresh, hypothesis (by simpa using different),
      List.append_assoc]
    rfl

/-- Members with different keys are kept as they are. -/
theorem ofMembers_of_nodup {members : List (String × Json)}
    (different : (members.map Prod.fst).Nodup) : ofMembers members = .object members :=
  congrArg Json.object (foldl_insertMember different)

/-- A value that begins with one of its characters is read in at least one step. -/
theorem readsBack_of_begins {value : Json} (begins : Begins (written layout depth value))
    (read : ∀ steps rest, Stops rest → (written layout depth value).length ≤ steps + 1 →
      readValue (steps + 1) (written layout depth value ++ rest) = .ok (value, rest)) :
    ReadsBack layout depth value := by
  intro steps rest stops enough
  have positive := begins.length_pos
  obtain ⟨steps, rfl⟩ : ∃ fewer, steps = fewer + 1 := ⟨steps - 1, by omega⟩
  exact read steps rest stops enough

/-- A list is read back if its items are. -/
theorem readsBack_array {items : List Json}
    (each : ∀ item ∈ items,
      ReadsBack layout (depth + 1) item ∧ Begins (written layout (depth + 1) item)) :
    ReadsBack layout depth (.array items) := by
  cases items with
  | nil => exact readsBack_of_begins ⟨'[', _, rfl, by decide⟩ fun steps rest _ _ => rfl
  | cons item items =>
    refine readsBack_of_begins ⟨'[', _, rfl, by decide⟩ fun steps rest _ enough => ?_
    have begins := (each item List.mem_cons_self).2
    rw [written] at enough ⊢
    simp only [List.length_append, List.length_cons, List.cons_append, List.append_assoc,
      List.nil_append] at enough ⊢
    have read : readItems steps _ = .ok (item :: items, rest) :=
      readItems_append (idle_newline layout depth) each (by omega)
    obtain ⟨c, others, same, -, unclosed, -⟩ := begins.append
      (writtenItems layout (depth + 1) items ++ (layout.newline depth ++ ']' :: rest))
    rw [readValue, begins.skipGap_append (idle_newline layout (depth + 1))]
    rw [same] at read ⊢
    split
    next closed => exact absurd (List.cons.inj closed).1 unclosed
    next =>
      simp only [read, bind, Except.bind]
      rfl

/-- An object is read back if its keys are different and the values under them are read back. -/
theorem readsBack_object {members : List (String × Json)}
    (different : (members.map Prod.fst).Nodup)
    (each : ∀ value ∈ members.map Prod.snd,
      ReadsBack layout (depth + 1) value ∧ Begins (written layout (depth + 1) value)) :
    ReadsBack layout depth (.object members) := by
  cases members with
  | nil => exact readsBack_of_begins ⟨'\x7b', _, rfl, by decide⟩ fun steps rest _ _ => rfl
  | cons member members =>
    obtain ⟨key, value⟩ := member
    refine readsBack_of_begins ⟨'\x7b', _, rfl, by decide⟩ fun steps rest _ enough => ?_
    have named : Begins (writtenText key) := ⟨'\x22', _, rfl, by decide⟩
    have colon : ": ".toList = [':', ' '] := rfl
    rw [written] at enough ⊢
    simp only [colon, List.length_append, List.length_cons, List.cons_append, List.append_assoc,
      List.nil_append] at enough ⊢
    have read : readMembers steps _ = .ok ((key, value) :: members, rest) :=
      readMembers_append (idle_newline layout depth) each (by omega)
    rw [readValue, named.skipGap_append (idle_newline layout (depth + 1))]
    rw [writtenText_append] at read ⊢
    split
    next closed => cases closed
    next =>
      simp only [read, bind, Except.bind, ofMembers_of_nodup different]
      rfl

/-- A value that can be read back is read back. -/
theorem Restorable.readsBack {value : Json} (restorable : Restorable value) :
    ReadsBack layout depth value := by
  induction restorable generalizing depth with
  | null => exact readsBack_of_begins Restorable.null.begins_written fun _ _ _ _ => rfl
  | boolean value =>
    refine readsBack_of_begins (Restorable.boolean value).begins_written fun _ _ _ _ => ?_
    cases value <;> rfl
  | integer short =>
    refine readsBack_of_begins (begins_integerText _) fun steps rest stops _ => ?_
    rw [written]
    unfold readValue
    split
    next same => exact absurd same (integerText_append_ne rfl)
    next same => exact absurd same (integerText_append_ne rfl)
    next same => exact absurd same (integerText_append_ne rfl)
    next => simp only [readWord?_append, readNumber_append short stops]
  | text value =>
    refine readsBack_of_begins (Restorable.text value).begins_written fun steps rest _ _ => ?_
    rw [written, writtenText_append, readValue, readText_flatMap_append]
    simp only [bind, Except.bind, String.ofList_toList]
    rfl
  | array each hypothesis =>
    exact readsBack_array fun item member =>
      ⟨hypothesis item member, (each item member).begins_written⟩
  | object different each hypothesis =>
    refine readsBack_object different fun value member => ?_
    obtain ⟨entry, listed, rfl⟩ := List.mem_map.mp member
    exact ⟨hypothesis entry listed, (each entry listed).begins_written⟩

/-- A value that can be read back is read from its text in any layout. -/
theorem Restorable.readChars_render {value : Json} (restorable : Restorable value)
    (layout : Layout) : readChars (value.render layout).toList = .ok value := by
  have begins : Begins (written layout 0 value) := restorable.begins_written
  have readsBack : ReadsBack layout 0 value := restorable.readsBack
  obtain ⟨c, others, same, visible, -, -, unmarked⟩ := begins
  have read := readsBack (2 * (written layout 0 value).length + 1) [] nofun (by omega)
  rw [render, String.toList_ofList, readChars]
  rw [List.append_nil, same] at read
  rw [same, if_neg (by simpa using unmarked), skipGap_cons visible, read]
  rfl

end KotlinContract.Json
