import KotlinContract.Declaration.Source
import KotlinContract.Proofs.Contract.NormalForm
import KotlinContract.Proofs.Text.Indentation
import KotlinContract.Proofs.TypeName.Identifiers

/-!
# The text of a parameter list

A parameter of identifiers is told from its text: its modifiers are words with a space after them,
its name is followed by a colon, and its type by nothing. No comma stands outside the parentheses of
such a text and no line ends in it, so a parameter list is told from its text too, whether it stands
on one line or on several (`Declaration.parameterText_append_inj`).
-/
namespace KotlinContract

open Text (Identifier Spelled Every Balanced Whole OneLine Terminated inIdentifier isLineEnd
  isBlankLine)

namespace Modifier

/-- A keyword tells the modifier. -/
theorem keyword_injective : Function.Injective keyword := by
  intro left right
  cases left <;> cases right <;> decide

theorem identifier_keyword (modifier : Modifier) : Identifier modifier.keyword := by
  cases modifier <;> decide

theorem toList_text_cons (modifier : Modifier) (rest : List Modifier) (following : List Char) :
    (text (modifier :: rest)).toList ++ following =
      modifier.keyword.toList ++ ' ' :: ((text rest).toList ++ following) := by
  simp [text]

/-- Modifiers are told from what follows them, if that does not begin with another modifier. -/
theorem text_append_inj {first second : List Modifier} {following following' : List Char}
    (other : ∀ modifier : Modifier, ¬ modifier.keyword.toList ++ [' '] <+: following)
    (other' : ∀ modifier : Modifier, ¬ modifier.keyword.toList ++ [' '] <+: following')
    (same : (text first).toList ++ following = (text second).toList ++ following') :
    first = second ∧ following = following' := by
  have begins (modifier : Modifier) (rest : List Char) :
      modifier.keyword.toList ++ [' '] <+: modifier.keyword.toList ++ ' ' :: rest :=
    ⟨rest, by simp⟩
  induction first generalizing second with
  | nil =>
    cases second with
    | nil => exact ⟨rfl, same⟩
    | cons modifier rest =>
      rw [toList_text_cons] at same
      change following = _ at same
      exact absurd (same ▸ begins modifier _) (other modifier)
  | cons modifier rest hypothesis =>
    cases second with
    | nil =>
      rw [toList_text_cons] at same
      change _ = following' at same
      exact absurd (same ▸ begins modifier _) (other' modifier)
    | cons modifier' rest' =>
      rw [toList_text_cons, toList_text_cons] at same
      obtain ⟨keywords, later⟩ := Text.ended_inj (modifier.identifier_keyword.not_mem (by decide))
        (modifier'.identifier_keyword.not_mem (by decide)) same
      obtain ⟨rests, remaining⟩ := hypothesis later
      rw [keyword_injective (String.toList_injective keywords), rests]
      exact ⟨rfl, remaining⟩

/-- The text of modifiers consists of the characters of identifiers and of spaces. -/
theorem spelled_text (modifiers : List Modifier) : Spelled [' '] (text modifiers) := by
  induction modifiers with
  | nil => decide
  | cons modifier rest hypothesis =>
    have keyword : Spelled [' '] modifier.keyword := modifier.identifier_keyword.spelled [' ']
    exact (keyword.append (by decide)).append hypothesis

end Modifier

namespace Parameter

/-- The name of a parameter and the words of its type. -/
def words (parameter : Parameter) : List String := parameter.name :: parameter.type.words

/-- What the text of a parameter shows: its name, its modifiers and the text of its type. -/
def shown (parameter : Parameter) : String × List Modifier × String :=
  (parameter.name, parameter.modifiers, parameter.type.render)

section Identifiers

variable {parameter : Parameter} (identifiers : ∀ word ∈ parameter.words, Identifier word)

include identifiers

theorem identifier_name : Identifier parameter.name := identifiers _ List.mem_cons_self

theorem identifiers_type : ∀ word ∈ parameter.type.words, Identifier word :=
  fun word member => identifiers word (List.mem_cons_of_mem _ member)

/-- The text of a parameter consists of the characters of identifiers, types and a colon. -/
theorem spelled_source : Spelled (':' :: TypeName.glyphs) parameter.source := by
  have modifiers : Spelled (':' :: TypeName.glyphs) (Modifier.text parameter.modifiers) :=
    (Modifier.spelled_text parameter.modifiers).widen (by decide)
  have name : Spelled (':' :: TypeName.glyphs) parameter.name :=
    (identifier_name identifiers).spelled _
  have type : Spelled (':' :: TypeName.glyphs) parameter.type.render :=
    (TypeName.spelled_render (identifiers_type identifiers)).widen
      (List.subset_cons_self ':' TypeName.glyphs)
  exact ((modifiers.append name).append (by decide)).append type

/-- The commas in the text of a parameter stand between parentheses. -/
theorem whole_source : Whole ',' parameter.source.toList := by
  have colon : Whole ',' ": ".toList := .of_balanced (.of_every (by decide)) (by decide)
  have modifiers : Whole ',' (Modifier.text parameter.modifiers).toList :=
    (Modifier.spelled_text parameter.modifiers).whole (by decide) (by decide) (by decide) (by decide)
  have name : Whole ',' parameter.name.toList := (identifier_name identifiers).whole (by decide)
  have type := TypeName.whole_render (identifiers_type identifiers)
  rw [source, String.toList_append, String.toList_append, String.toList_append]
  exact ((modifiers.append name).append colon).append type

/-- The text of a parameter stands on one line. -/
theorem oneLine_source : OneLine parameter.source := by
  have glyphs : ∀ c ∈ ':' :: TypeName.glyphs, isLineEnd c = false := by
    simp [TypeName.glyphs, isLineEnd]
  intro c member
  rcases spelled_source identifiers c member with inside | glyph
  · exact Text.isLineEnd_eq_false (Text.isBlank_of_inIdentifier inside)
  · exact glyphs c glyph

/-- The text of a parameter is not blank. -/
theorem visible_source : isBlankLine parameter.source.toList = false := by
  obtain ⟨nonempty, word⟩ := identifier_name identifiers
  obtain ⟨c, member⟩ := List.exists_mem_of_ne_nil parameter.name.toList
    (mt String.toList_eq_nil_iff.mp nonempty)
  refine List.all_eq_false.mpr ⟨c, ?_, ?_⟩
  · rw [source, String.toList_append, String.toList_append, String.toList_append]
    exact List.mem_append_left _ (List.mem_append_left _ (List.mem_append_right _ member))
  · simp [Text.isBlank_of_inIdentifier (word c member)]

end Identifiers

/-- Parameters of identifiers have one text if and only if it shows the same of them. -/
theorem source_eq_iff_shown_eq {first second : Parameter}
    (identifiers : ∀ word ∈ first.words, Identifier word)
    (identifiers' : ∀ word ∈ second.words, Identifier word) :
    first.source = second.source ↔ first.shown = second.shown := by
  -- a keyword is followed by a space, the name by a colon
  have other {parameter : Parameter} (identifiers : ∀ word ∈ parameter.words, Identifier word)
      (modifier : Modifier) : ¬ modifier.keyword.toList ++ [' '] <+:
        parameter.name.toList ++ ':' :: (' ' :: parameter.type.render.toList) := by
    rintro ⟨rest, same⟩
    have colon : ' ' ∉ parameter.name.toList ++ [':'] := by
      rw [List.mem_append, not_or]
      exact ⟨(identifier_name identifiers).not_mem (by decide), by decide⟩
    have marked : modifier.keyword.toList ++ ' ' :: rest =
        (parameter.name.toList ++ [':']) ++ ' ' :: parameter.type.render.toList := by
      simpa using same
    have keyword := (Text.ended_inj (modifier.identifier_keyword.not_mem (by decide)) colon
      marked).1
    have member : ':' ∈ modifier.keyword.toList := by
      rw [keyword]
      exact List.mem_append_right _ List.mem_cons_self
    exact modifier.identifier_keyword.not_mem (by decide) member
  have chars (parameter : Parameter) : parameter.source.toList =
      (Modifier.text parameter.modifiers).toList ++
        (parameter.name.toList ++ ':' :: (' ' :: parameter.type.render.toList)) := by
    simp [source]
  constructor
  · intro same
    have texts := congrArg String.toList same
    rw [chars, chars] at texts
    obtain ⟨modifiers, later⟩ :=
      Modifier.text_append_inj (other identifiers) (other identifiers') texts
    obtain ⟨names, types⟩ := Text.ended_inj ((identifier_name identifiers).not_mem (by decide))
      ((identifier_name identifiers').not_mem (by decide)) later
    rw [shown, shown, modifiers, String.toList_injective names,
      String.toList_injective (List.cons.inj types).2]
  · intro same
    simp only [shown, Prod.mk.injEq] at same
    obtain ⟨names, modifiers, types⟩ := same
    rw [source, source, names, modifiers, types]

end Parameter

namespace Declaration

/-- What stands between the parentheses of a parameter list. -/
def parameterLines (sources : List String) : String :=
  if mostOnOneLine < sources.length then
    "\n" ++ Text.join ",\n" (sources.map (Text.indentStep ++ ·)) ++ "\n"
  else Text.join ", " sources

/-- Lines that are not blank, with a comma after each but the last, are indented one by one. -/
theorem indentBlock_join {sources : List String}
    (inside : ∀ source ∈ sources, OneLine source)
    (visible : ∀ source ∈ sources, isBlankLine source.toList = false) :
    Text.indentBlock (Text.join ",\n" sources) =
      Text.join ",\n" (sources.map (Text.indentStep ++ ·)) := by
  induction sources with
  | nil => rfl
  | cons source rest hypothesis =>
    obtain ⟨here, later⟩ := List.forall_mem_cons.mp inside
    obtain ⟨shown, others⟩ := List.forall_mem_cons.mp visible
    cases rest with
    | nil => exact Text.indent_of_inside here shown
    | cons second remaining =>
      have comma : OneLine (source ++ ",") := here.append (by decide)
      have unblank : isBlankLine (source ++ ",").toList = false := by
        rw [String.toList_append, Text.isBlankLine_append, shown, Bool.false_and]
      have ended : Terminated (source ++ "," ++ "\n").toList := Text.terminated_of_getLast? (by simp)
      have split : Text.join ",\n" (source :: second :: remaining) =
          source ++ "," ++ "\n" ++ Text.join ",\n" (second :: remaining) := by
        apply String.toList_injective
        simp [Text.join]
      rw [split, Text.indentBlock, Text.indent_append ended,
        Text.indent_newline_of_inside comma unblank, ← Text.indentBlock, hypothesis later others]
      apply String.toList_injective
      simp [Text.join]

section Identifiers

variable {parameters : List Parameter}
  (identifiers : ∀ parameter ∈ parameters, ∀ word ∈ parameter.words, Identifier word)

include identifiers

/-- A parameter list is its lines in parentheses. -/
theorem parameterText_eq :
    parameterText parameters =
      TypeName.parenthesized (parameterLines (parameters.map Parameter.source)) := by
  have inside : ∀ source ∈ parameters.map Parameter.source, OneLine source :=
    List.forall_mem_map.mpr fun parameter among =>
      Parameter.oneLine_source (identifiers parameter among)
  have visible : ∀ source ∈ parameters.map Parameter.source,
      isBlankLine source.toList = false :=
    List.forall_mem_map.mpr fun parameter among =>
      Parameter.visible_source (identifiers parameter among)
  rw [parameterText, parameterLines]
  split
  · rw [indentBlock_join inside visible]
    apply String.toList_injective
    simp [TypeName.parenthesized]
  · rfl

/-- Parentheses stand in pairs in the lines of a parameter list. -/
theorem balanced_parameterLines :
    Balanced (parameterLines (parameters.map Parameter.source)).toList := by
  have each : ∀ source ∈ parameters.map Parameter.source, Balanced source.toList :=
    List.forall_mem_map.mpr fun parameter among =>
      (Parameter.whole_source (identifiers parameter among)).balanced
  have indented : ∀ line ∈ (parameters.map Parameter.source).map (Text.indentStep ++ ·),
      Balanced line.toList := by
    refine List.forall_mem_map.mpr fun source among => ?_
    rw [String.toList_append]
    exact (Balanced.of_every (by decide)).append (each source among)
  have newline : Balanced "\n".toList := .of_every (by decide)
  rw [parameterLines]
  split
  · rw [String.toList_append, String.toList_append]
    exact (newline.append
      (Text.composable_balanced.join (.of_every (by decide)) indented)).append newline
  · exact Text.composable_balanced.join (.of_every (by decide)) each

/-- No line ends in a parameter list that stands on one line. -/
theorem newline_not_mem_join :
    '\n' ∉ (Text.join ", " (parameters.map Parameter.source)).toList := by
  have each : ∀ source ∈ parameters.map Parameter.source, Every (· ≠ '\n') source := by
    refine List.forall_mem_map.mpr fun parameter among c found => ?_
    rintro rfl
    exact (Parameter.spelled_source (identifiers parameter among)).not_mem (by decide) (by decide)
      found
  exact fun member => Text.Every.join (by decide) each '\n' member rfl

end Identifiers

/-- The lines of a parameter list tell the texts of the parameters. -/
theorem sources_eq_of_parameterLines_eq {first second : List Parameter}
    (identifiers : ∀ parameter ∈ first, ∀ word ∈ parameter.words, Identifier word)
    (identifiers' : ∀ parameter ∈ second, ∀ word ∈ parameter.words, Identifier word)
    (same : parameterLines (first.map Parameter.source) =
      parameterLines (second.map Parameter.source)) :
    first.map Parameter.source = second.map Parameter.source := by
  have whole {lead : String} (led : Whole ',' lead.toList) {parameters : List Parameter}
      (identifiers : ∀ parameter ∈ parameters, ∀ word ∈ parameter.words, Identifier word) :
      ∀ line ∈ ((parameters.map Parameter.source).map (lead ++ ·)).map String.toList,
        Whole ',' line ∧ line ≠ [] := by
    intro line member
    simp only [List.map_map, List.mem_map, Function.comp_apply, String.toList_append] at member
    obtain ⟨parameter, among, rfl⟩ := member
    refine ⟨led.append (Parameter.whole_source (identifiers parameter among)), ?_⟩
    have visible := Parameter.visible_source (identifiers parameter among)
    apply List.append_ne_nil_of_right_ne_nil
    intro empty
    rw [empty] at visible
    contradiction
  have joined {lead separator : String} {tail : List Char} (led : Whole ',' lead.toList)
      (begins : separator.toList = ',' :: tail)
      (same : Text.join separator ((first.map Parameter.source).map (lead ++ ·)) =
        Text.join separator ((second.map Parameter.source).map (lead ++ ·))) :
      first.map Parameter.source = second.map Parameter.source := by
    have chars := congrArg String.toList same
    rw [Text.toList_join, Text.toList_join, begins] at chars
    have lines := Text.joinChars_inj (by decide) (whole led identifiers) (whole led identifiers')
      chars
    have texts := (List.map_inj_right fun _ _ => (String.toList_injective ·)).mp lines
    exact (List.map_inj_right fun _ _ => ((String.append_right_inj lead).mp ·)).mp texts
  have feed (text : String) : '\n' ∈ ("\n" ++ text ++ "\n").toList := by simp
  have indented : Whole ',' Text.indentStep.toList := .of_balanced (.of_every (by decide)) (by decide)
  have unindented : Whole ',' "".toList := .nil
  have commaFeed : ",\n".toList = ',' :: ['\n'] := by decide
  have commaSpace : ", ".toList = ',' :: [' '] := by decide
  rw [parameterLines, parameterLines] at same
  split at same <;> split at same
  · rw [String.append_left_inj, String.append_right_inj] at same
    exact joined indented commaFeed same
  · exact absurd (same ▸ feed _) (newline_not_mem_join identifiers')
  · exact absurd (same.symm ▸ feed _) (newline_not_mem_join identifiers)
  · have empty (sources : List String) : sources.map ("" ++ ·) = sources := by simp
    rw [← empty (first.map _), ← empty (second.map _)] at same
    exact joined unindented commaSpace same

section Lists

variable {first second : List Parameter}
  (identifiers : ∀ parameter ∈ first, ∀ word ∈ parameter.words, Identifier word)
  (identifiers' : ∀ parameter ∈ second, ∀ word ∈ parameter.words, Identifier word)

include identifiers identifiers'

/-- Parameters of identifiers have the same texts if and only if these show the same of them. -/
theorem sources_eq_iff :
    first.map Parameter.source = second.map Parameter.source ↔
      first.map Parameter.shown = second.map Parameter.shown :=
  Contract.map_eq_map_iff fun left among right among' =>
    Parameter.source_eq_iff_shown_eq (identifiers left among) (identifiers' right among')

/-- Parameter lists of identifiers, with anything after them, show the same if they are the same
text; and then the same follows. -/
theorem parameterText_append_inj {rest rest' : List Char}
    (same : (parameterText first).toList ++ rest = (parameterText second).toList ++ rest') :
    first.map Parameter.shown = second.map Parameter.shown ∧ rest = rest' := by
  rw [parameterText_eq identifiers, parameterText_eq identifiers'] at same
  simp only [TypeName.parenthesized, String.toList_append, List.append_assoc] at same
  obtain ⟨lines, following⟩ := (balanced_parameterLines identifiers).close_inj
    (balanced_parameterLines identifiers') (List.cons.inj same).2
  have sources := sources_eq_of_parameterLines_eq identifiers identifiers'
    (String.toList_injective lines)
  exact ⟨(sources_eq_iff identifiers identifiers').mp sources, following⟩

end Lists

end Declaration

end KotlinContract
