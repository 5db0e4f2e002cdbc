import KotlinContract.Proofs.Text.Separated
import KotlinContract.Schema.Scalar
import Mathlib.Data.List.DropRight
import Mathlib.Data.List.TakeDrop

/-!
# Texts of whole numbers

Which texts stand for whole numbers, and for which ones, said without the reading: a `Numeral` has
white space around a sign, groups of digits with low lines between them, and a point and zeros. A
text is read as a whole number exactly if it is a numeral of that number
(`integerOfText?_eq_some_iff`). To be taken apart again it has to be seen where each of its parts
ends, which is what the lemmas about trimming, groups of digits and fractions of zeros say, in both
directions.
-/
namespace KotlinContract

namespace Text

variable {test : Char → Bool}

/-- A text is what is left of it with characters around it for which the test holds. -/
theorem exists_trimWhere (test : Char → Bool) (text : List Char) :
    ∃ before after : List Char, text = before ++ trimWhere test text ++ after ∧
      ∀ c ∈ before ++ after, test c = true := by
  refine ⟨text.takeWhile test, (text.dropWhile test).rtakeWhile test, ?_, ?_⟩
  · have rest := List.rdropWhile_append_rtakeWhile (p := test) (l := text.dropWhile test)
    have whole := List.takeWhile_append_dropWhile (p := test) (l := text)
    rw [List.append_assoc]
    exact whole.symm.trans (congrArg _ rest.symm)
  · intro c member
    rcases List.mem_append.mp member with first | last
    · exact List.mem_takeWhile_imp first
    · exact List.mem_rtakeWhile_imp last

/-- Characters for which the test holds are taken from around others. -/
theorem trimWhere_append {before core after : List Char} (nonempty : core ≠ [])
    (inner : ∀ c ∈ core, test c = false) (outer : ∀ c ∈ before ++ after, test c = true) :
    trimWhere test (before ++ core ++ after) = core := by
  have dropped {front text : List Char} (rest : List Char) (nonempty : text ≠ [])
      (inner : ∀ c ∈ text, test c = false) (passed : ∀ c ∈ front, test c = true) :
      (front ++ (text ++ rest)).dropWhile test = text ++ rest := by
    obtain ⟨c, others, rfl⟩ := List.exists_cons_of_ne_nil nonempty
    have stops := inner c List.mem_cons_self
    rw [List.dropWhile_append_of_pos passed, List.cons_append,
      List.dropWhile_cons_of_neg (by simp [stops])]
  rw [List.forall_mem_append] at outer
  have backwards := dropped [] (List.reverse_ne_nil_iff.mpr nonempty)
    (by simpa using inner) (show ∀ c ∈ after.reverse, test c = true by simpa using outer.2)
  rw [List.append_nil] at backwards
  rw [trimWhere, List.append_assoc, dropped after nonempty inner outer.1, List.reverse_append,
    backwards, List.reverse_reverse]

/-- Digits are not white space. -/
theorem isSpace_of_isDigit {c : Char} (digit : c.isDigit = true) : isSpace c = false := by
  obtain ⟨low, high⟩ := Char.isDigit_iff_toNat.mp digit
  change 48 ≤ c.toNat at low
  change c.toNat ≤ 57 at high
  have all : ∀ code < 58, 48 ≤ code → isSpace (Char.ofNat code) = false := by decide
  rw [← Char.ofNat_toNat c]
  exact all c.toNat (by omega) low

end Text

namespace Schema

/-- Groups of digits. -/
def DigitGroups (groups : List (List Char)) : Prop :=
  ∀ group ∈ groups, group ≠ [] ∧ ∀ c ∈ group, c.isDigit = true

/-- Groups hold digits. -/
theorem DigitGroups.isDigit {groups : List (List Char)} (grouped : DigitGroups groups) {c : Char}
    (member : c ∈ groups.flatten) : c.isDigit = true := by
  obtain ⟨group, among, inside⟩ := List.mem_flatten.mp member
  exact (grouped group among).2 c inside

/-- Joined groups hold digits and low lines. -/
theorem DigitGroups.mem_joinChars {groups : List (List Char)} (grouped : DigitGroups groups)
    {c : Char} (member : c ∈ Text.joinChars ['_'] groups) : c.isDigit = true ∨ c = '_' := by
  induction groups with
  | nil => contradiction
  | cons group others hypothesis =>
    obtain ⟨here, there⟩ := List.forall_mem_cons.mp grouped
    by_cases last : others = []
    · subst last
      exact .inl (here.2 c member)
    · rw [Text.joinChars_cons _ _ last] at member
      simp only [List.mem_append, List.mem_singleton] at member
      obtain (inside | line) | later := member
      · exact .inl (here.2 c inside)
      · exact .inr line
      · exact hypothesis there later

/-- Joined groups begin with a digit. -/
theorem DigitGroups.exists_joinChars_eq_cons {groups : List (List Char)} (nonempty : groups ≠ [])
    (grouped : DigitGroups groups) :
    ∃ digit rest, Text.joinChars ['_'] groups = digit :: rest ∧ digit.isDigit = true := by
  obtain ⟨group, others, rfl⟩ := List.exists_cons_of_ne_nil nonempty
  obtain ⟨here, there⟩ := List.forall_mem_cons.mp grouped
  obtain ⟨digit, later, rfl⟩ := List.exists_cons_of_ne_nil here.1
  by_cases last : others = []
  · subst last
    exact ⟨digit, later, rfl, here.2 digit List.mem_cons_self⟩
  · rw [Text.joinChars_cons _ _ last]
    exact ⟨digit, _, rfl, here.2 digit List.mem_cons_self⟩

/-- A digit in front of another character than a low line belongs to the first group. -/
theorem digitGroups?_cons_cons {digit next : Char} {rest : List Char}
    (isDigit : digit.isDigit = true) (other : next ≠ '_') :
    digitGroups? (digit :: next :: rest) = (digitGroups? (next :: rest)).map (digit :: ·) := by
  rw [digitGroups?, if_pos isDigit]
  case x_1 => exact List.cons_ne_nil next rest
  case x_2 => exact fun _ same => other (List.cons.inj same).1

/-- A group of digits is read. -/
theorem digitGroups?_group {group : List Char} (nonempty : group ≠ [])
    (digits : ∀ c ∈ group, c.isDigit = true) : digitGroups? group = some group := by
  induction group with
  | nil => contradiction
  | cons digit rest hypothesis =>
    rw [List.forall_mem_cons] at digits
    cases rest with
    | nil => rw [digitGroups?, if_pos digits.1]
    | cons next others =>
      have other : next ≠ '_' := by
        rintro rfl
        exact absurd (digits.2 '_' List.mem_cons_self) (by decide)
      rw [digitGroups?_cons_cons digits.1 other, hypothesis (List.cons_ne_nil _ _) digits.2,
        Option.map_some]

/-- A group of digits with a low line after it is read with the rest. -/
theorem digitGroups?_group_append {group : List Char} (nonempty : group ≠ [])
    (digits : ∀ c ∈ group, c.isDigit = true) (rest : List Char) :
    digitGroups? (group ++ '_' :: rest) = (digitGroups? rest).map (group ++ ·) := by
  induction group with
  | nil => contradiction
  | cons digit later hypothesis =>
    rw [List.forall_mem_cons] at digits
    cases later with
    | nil =>
      rw [List.singleton_append, digitGroups?, if_pos digits.1]
      rfl
    | cons next others =>
      have other : next ≠ '_' := by
        rintro rfl
        exact absurd (digits.2 '_' List.mem_cons_self) (by decide)
      rw [List.cons_append, List.cons_append, digitGroups?_cons_cons digits.1 other,
        ← List.cons_append, hypothesis (List.cons_ne_nil _ _) digits.2, Option.map_map]
      rfl

/-- Digits are read if they are groups with low lines between them. -/
theorem digitGroups?_eq_some_iff {chars digits : List Char} :
    digitGroups? chars = some digits ↔
      ∃ groups, groups ≠ [] ∧ DigitGroups groups ∧ chars = Text.joinChars ['_'] groups ∧
        digits = groups.flatten := by
  constructor
  · intro read
    fun_induction digitGroups? chars generalizing digits with
    | case1 => contradiction
    | case2 digit isDigit =>
      cases read
      exact ⟨[[digit]], by simp, by simpa [DigitGroups] using isDigit, rfl, rfl⟩
    | case3 => contradiction
    | case4 digit rest isDigit hypothesis =>
      obtain ⟨later, found, rfl⟩ := Option.map_eq_some_iff.mp read
      obtain ⟨groups, nonempty, grouped, rfl, rfl⟩ := hypothesis found
      refine ⟨[digit] :: groups, by simp, ?_, ?_, rfl⟩
      · exact List.forall_mem_cons.mpr ⟨by simpa using isDigit, grouped⟩
      · rw [Text.joinChars_cons _ _ nonempty]
        rfl
    | case5 => contradiction
    | case6 digit rest more apart isDigit hypothesis =>
      obtain ⟨later, found, rfl⟩ := Option.map_eq_some_iff.mp read
      obtain ⟨groups, nonempty, grouped, rfl, rfl⟩ := hypothesis found
      obtain ⟨group, others, rfl⟩ := List.exists_cons_of_ne_nil nonempty
      obtain ⟨here, there⟩ := List.forall_mem_cons.mp grouped
      refine ⟨(digit :: group) :: others, by simp, ?_, ?_, rfl⟩
      · exact List.forall_mem_cons.mpr
          ⟨⟨by simp, List.forall_mem_cons.mpr ⟨isDigit, here.2⟩⟩, there⟩
      · cases others <;> rfl
    | case7 => contradiction
  · rintro ⟨groups, nonempty, grouped, rfl, rfl⟩
    induction groups with
    | nil => contradiction
    | cons group others hypothesis =>
      obtain ⟨here, there⟩ := List.forall_mem_cons.mp grouped
      by_cases last : others = []
      · subst last
        simpa [Text.joinChars] using digitGroups?_group here.1 here.2
      · rw [Text.joinChars_cons _ _ last, List.append_assoc, List.singleton_append,
          digitGroups?_group_append here.1 here.2, hypothesis last there, Option.map_some,
          List.flatten_cons]

/-- A point and zeros, or nothing. -/
inductive ZeroFraction : List Char → Prop where
  /-- Nothing. -/
  | none : ZeroFraction []
  /-- A point and a zero at least. -/
  | zeros (count : Nat) : ZeroFraction ('.' :: List.replicate (count + 1) '0')

/-- What is dropped is a point and zeros. -/
theorem exists_dropZeroFraction (chars : List Char) :
    ∃ fraction, ZeroFraction fraction ∧ chars = dropZeroFraction chars ++ fraction := by
  have whole := List.takeWhile_append_dropWhile (p := (· ≠ '.')) (l := chars)
  rw [dropZeroFraction, List.span_eq_takeWhile_dropWhile]
  dsimp only
  split
  · rename_i zeros point
    split
    · rename_i all
      rw [point] at whole
      simp only [Bool.and_eq_true, Bool.not_eq_true', List.isEmpty_eq_false_iff, List.all_eq_true,
        beq_iff_eq] at all
      obtain ⟨count, length⟩ := Nat.exists_eq_succ_of_ne_zero (mt List.length_eq_zero_iff.mp all.1)
      refine ⟨'.' :: zeros, ?_, whole.symm⟩
      rw [List.eq_replicate_of_mem all.2, length]
      exact .zeros count
    · exact ⟨[], .none, by simp⟩
  · exact ⟨[], .none, by simp⟩

/-- A point and zeros are dropped. -/
theorem dropZeroFraction_append {whole fraction : List Char} (free : '.' ∉ whole)
    (zeros : ZeroFraction fraction) : dropZeroFraction (whole ++ fraction) = whole := by
  have passed : ∀ c ∈ whole, decide (c ≠ '.') = true := fun c member =>
    decide_eq_true fun same => free (same ▸ member)
  rw [dropZeroFraction, List.span_eq_takeWhile_dropWhile, List.takeWhile_append_of_pos passed,
    List.dropWhile_append_of_pos passed]
  cases zeros <;> simp [List.replicate_succ]

/-- A sign, which says whether a number is negative. -/
inductive Sign : List Char → Bool → Prop where
  /-- There need not be one. -/
  | none : Sign [] false
  /-- The sign of other numbers. -/
  | plus : Sign ['+'] false
  /-- The sign of negative numbers. -/
  | minus : Sign ['-'] true

/-- The number that digits behind a sign stand for. -/
def signedValue (negative : Bool) (groups : List (List Char)) : Int :=
  if negative then -(Nat.ofDigitChars 10 groups.flatten 0) else Nat.ofDigitChars 10 groups.flatten 0

/-- A text stands for a whole number: with white space around it, it has a sign, groups of digits
with low lines between them, and a point and zeros, of which only the digits need be there. -/
inductive Numeral : List Char → Int → Prop where
  /-- The value is that of the digits and the sign. -/
  | intro {before sign fraction after : List Char} {groups : List (List Char)} {negative : Bool}
    (blank : ∀ c ∈ before ++ after, Text.isSpace c = true) (signed : Sign sign negative)
    (nonempty : groups ≠ []) (digits : DigitGroups groups) (zeros : ZeroFraction fraction) :
    Numeral (before ++ (sign ++ (Text.joinChars ['_'] groups ++ fraction)) ++ after)
      (signedValue negative groups)

/-- Digits are read as the number that they stand for. -/
theorem foldl_digits {digits : List Char} (all : ∀ c ∈ digits, c.isDigit = true) (start : Nat) :
    digits.foldl (fun total digit => total * 10 + ((digit.toNat : Int) - 0x30)) (start : Int) =
      (Nat.ofDigitChars 10 digits start : Int) := by
  induction digits generalizing start with
  | nil => rfl
  | cons digit rest hypothesis =>
    obtain ⟨here, later⟩ := List.forall_mem_cons.mp all
    have step : (start : Int) * 10 + ((digit.toNat : Int) - 0x30) =
        ((10 * start + (digit.toNat - '0'.toNat) : Nat) : Int) := by
      have low : 48 ≤ digit.toNat := (Char.isDigit_iff_toNat.mp here).1
      have zero : '0'.toNat = 48 := rfl
      omega
    rw [List.foldl_cons, step, hypothesis later, Nat.ofDigitChars_cons]

/-- The number that stands behind a sign. -/
def behindSign? (negative : Bool) (unsigned : List Char) : Option Int :=
  (digitGroups? (dropZeroFraction unsigned)).map fun digits =>
    let size : Int := digits.foldl (fun total digit => total * 10 + (digit.toNat - 0x30)) 0
    if negative then -size else size

/-- What stands behind the sign is read if it is groups of digits, and a point and zeros. -/
theorem behindSign?_eq_some_iff {unsigned : List Char} {negative : Bool} {value : Int} :
    behindSign? negative unsigned = some value ↔
      ∃ groups fraction, groups ≠ [] ∧ DigitGroups groups ∧ ZeroFraction fraction ∧
        unsigned = Text.joinChars ['_'] groups ++ fraction ∧
        signedValue negative groups = value := by
  have valued {groups : List (List Char)} (grouped : DigitGroups groups) :
      (let size : Int :=
        groups.flatten.foldl (fun total digit => total * 10 + (digit.toNat - 0x30)) 0
      if negative then -size else size) = signedValue negative groups := by
    have size := foldl_digits (fun _ member => grouped.isDigit member) 0
    rw [Int.ofNat_zero] at size
    rw [signedValue, ← size]
  rw [behindSign?]
  constructor
  · intro read
    obtain ⟨digits, found, rfl⟩ := Option.map_eq_some_iff.mp read
    obtain ⟨groups, nonempty, grouped, whole, rfl⟩ := digitGroups?_eq_some_iff.mp found
    obtain ⟨fraction, zeros, parts⟩ := exists_dropZeroFraction unsigned
    rw [whole] at parts
    exact ⟨groups, fraction, nonempty, grouped, zeros, parts, (valued grouped).symm⟩
  · rintro ⟨groups, fraction, nonempty, grouped, zeros, rfl, rfl⟩
    have free : '.' ∉ Text.joinChars ['_'] groups := fun member =>
      absurd (grouped.mem_joinChars member) (by decide)
    rw [dropZeroFraction_append free zeros,
      digitGroups?_eq_some_iff.mpr ⟨groups, nonempty, grouped, rfl, rfl⟩, Option.map_some,
      valued grouped]

/-- Whatever a text is, it has a sign, or else does not begin with one. -/
theorem exists_sign (text : List Char) :
    ∃ sign negative unsigned, Sign sign negative ∧ text = sign ++ unsigned ∧
      (sign = [] → ∀ c ∈ unsigned.head?, c ≠ '-' ∧ c ≠ '+') := by
  by_cases minus : text.head? = some '-'
  · obtain ⟨rest, rfl⟩ := List.head?_eq_some_iff.mp minus
    exact ⟨_, _, rest, .minus, rfl, nofun⟩
  by_cases plus : text.head? = some '+'
  · obtain ⟨rest, rfl⟩ := List.head?_eq_some_iff.mp plus
    exact ⟨_, _, rest, .plus, rfl, nofun⟩
  refine ⟨_, _, text, .none, rfl, fun _ c first => ⟨?_, ?_⟩⟩
  · rintro rfl
    exact minus first
  · rintro rfl
    exact plus first

/-- The sign tells how what stands behind it is read. -/
theorem integerOfText?_eq {text : String} {sign unsigned : List Char} {negative : Bool}
    (trimmed : Text.trimWhere Text.isSpace text.toList = sign ++ unsigned)
    (signed : Sign sign negative)
    (plain : sign = [] → ∀ c ∈ unsigned.head?, c ≠ '-' ∧ c ≠ '+') :
    integerOfText? text = behindSign? negative unsigned := by
  simp only [integerOfText?, trimmed, behindSign?]
  cases signed with
  | none =>
    have other := plain rfl
    cases unsigned with
    | nil => rfl
    | cons c rest =>
      obtain ⟨minus, plus⟩ := other c rfl
      split <;> rename_i found
      · exact absurd (List.cons.inj found).1 minus
      · exact absurd (List.cons.inj found).1 plus
      · rfl
  | plus => rfl
  | minus => rfl

/-- No character of a number is white space. -/
theorem isSpace_of_mem_number {sign fraction : List Char} {groups : List (List Char)}
    {negative : Bool} (signed : Sign sign negative) (grouped : DigitGroups groups)
    (zeros : ZeroFraction fraction) :
    ∀ c ∈ sign ++ (Text.joinChars ['_'] groups ++ fraction), Text.isSpace c = false := by
  simp only [List.forall_mem_append]
  refine ⟨?_, fun c member => ?_, ?_⟩
  · cases signed with
    | none => exact nofun
    | plus | minus =>
      rw [List.forall_mem_singleton]
      decide
  · obtain digit | rfl := grouped.mem_joinChars member
    · exact Text.isSpace_of_isDigit digit
    · decide
  · cases zeros with
    | none => exact nofun
    | zeros count =>
      rw [List.forall_mem_cons]
      refine ⟨by decide, fun c member => ?_⟩
      rw [List.eq_of_mem_replicate member]
      decide

/-- A text is read as a whole number if it stands for one. -/
theorem integerOfText?_eq_some_iff {text : String} {value : Int} :
    integerOfText? text = some value ↔ Numeral text.toList value := by
  constructor
  · intro read
    obtain ⟨sign, negative, unsigned, signed, trimmed, plain⟩ :=
      exists_sign (Text.trimWhere Text.isSpace text.toList)
    rw [integerOfText?_eq trimmed signed plain, behindSign?_eq_some_iff] at read
    obtain ⟨groups, fraction, nonempty, grouped, zeros, rfl, rfl⟩ := read
    obtain ⟨before, after, whole, blank⟩ := Text.exists_trimWhere Text.isSpace text.toList
    rw [whole, trimmed]
    exact .intro blank signed nonempty grouped zeros
  · intro numeral
    generalize chars : text.toList = characters at numeral
    obtain ⟨blank, signed, nonempty, grouped, zeros⟩ := numeral
    rename_i before sign fraction after groups negative
    obtain ⟨digit, rest, joined, isDigit⟩ := grouped.exists_joinChars_eq_cons nonempty
    have visible := isSpace_of_mem_number signed grouped zeros
    have trimmed : Text.trimWhere Text.isSpace text.toList =
        sign ++ (Text.joinChars ['_'] groups ++ fraction) := by
      rw [chars]
      refine Text.trimWhere_append ?_ visible blank
      simp [joined]
    -- without a sign, the first character is a digit and not taken for one
    have plain : sign = [] → ∀ c ∈ (Text.joinChars ['_'] groups ++ fraction).head?,
        c ≠ '-' ∧ c ≠ '+' := by
      rintro - c first
      rw [joined, List.cons_append, List.head?_cons, Option.mem_some] at first
      subst first
      constructor <;> rintro rfl <;> exact absurd isDigit (by decide)
    rw [integerOfText?_eq trimmed signed plain, behindSign?_eq_some_iff]
    exact ⟨groups, fraction, nonempty, grouped, zeros, rfl, rfl⟩

end Schema

end KotlinContract
