import KotlinContract.Proofs.Declaration.Parameters
import KotlinContract.Proofs.Text.Ended

/-!
# What the source of a function tells

The parts of a function of identifiers can be read off its source one after the other: the
modifiers are words before the keyword, the receiver and the name end where the parameters begin,
the parameters where their parentheses close, the result where the line does, and what is left is
the indented body. So two functions have one source if and only if the source shows the same of them
(`Declaration.source_eq_iff`). Of a type it shows the text, and nothing of a result that is the unit
type; a class that is merely written like the unit type is shown (`Declaration.source_ne_nestedUnit`).
-/
namespace KotlinContract

open Text (Identifier Balanced)

namespace Declaration

/-- The name of a function, the words of its parameters, its receiver and its result. -/
def words (function : Declaration) : List String :=
  function.name :: (function.parameters.flatMap Parameter.words ++
    function.receiver.elim [] TypeName.words ++ function.returns.elim [] TypeName.words)

/-- What the source shows of a function besides its code. -/
structure Signature where
  /-- Its modifiers. -/
  modifiers : List Modifier
  /-- Its name. -/
  name : String
  /-- The text of its receiver. -/
  receiver : Option String
  /-- What the text of each parameter shows. -/
  parameters : List (String × List Modifier × String)
  /-- The text of its result, unless that is the unit type. -/
  result : Option String
  deriving DecidableEq

/-- The text of a result, if it is written. -/
def resultShown (returns : Option TypeName) : Option String :=
  (returns.filter (· ≠ TypeName.unit)).map TypeName.render

/-- What the source shows of the function besides its code. -/
def signature (function : Declaration) : Signature where
  modifiers := function.modifiers
  name := function.name
  receiver := function.receiver.map TypeName.render
  parameters := function.parameters.map Parameter.shown
  result := resultShown function.returns

/-- What stands in front of the parameters of a function: one pair of parentheses at most, and
characters without an opening parenthesis. -/
inductive Callee : List Char → Prop where
  /-- No parentheses. -/
  | plain {text : List Char} (free : '(' ∉ text) : Callee text
  /-- A pair of parentheses at the beginning. -/
  | grouped {inner text : List Char} (inside : Balanced inner) (free : '(' ∉ text) :
      Callee ('(' :: (inner ++ ')' :: text))

namespace Callee

/-- Other characters may come after it. -/
theorem append {text rest : List Char} (callee : Callee text) (free : '(' ∉ rest) :
    Callee (text ++ rest) := by
  cases callee with
  | plain others => exact .plain (by simp [others, free])
  | grouped inside others =>
    rw [List.cons_append, List.append_assoc, List.cons_append]
    exact .grouped inside (by simp [others, free])

/-- A text in parentheses may stand in front of the parameters. -/
theorem parenthesized {text : String} (inside : Balanced text.toList) :
    Callee (TypeName.parenthesized text).toList := by
  have grouped : Callee ('(' :: (text.toList ++ [')'])) := .grouped inside List.not_mem_nil
  simpa [TypeName.parenthesized] using grouped

/-- What stands in front of the parameters, if there is anything, is told from them. -/
theorem ended_inj {left right leftRest rightRest : List Char} (first : Callee left)
    (second : Callee right) (nonempty : left ≠ []) (nonempty' : right ≠ [])
    (ended : leftRest.head? = some '(') (ended' : rightRest.head? = some '(')
    (same : left ++ leftRest = right ++ rightRest) : left = right ∧ leftRest = rightRest := by
  have begins {text rest rest' : List Char} (nonempty : text ≠ []) (free : '(' ∉ text) :
      text ++ rest ≠ '(' :: rest' := by
    cases text with
    | nil => contradiction
    | cons c others =>
      intro same
      exact free (by rw [(List.cons.inj same).1]; exact List.mem_cons_self)
  -- both parameter lists begin with the parenthesis that is looked for
  have split {left right : List Char} (free : '(' ∉ left) (free' : '(' ∉ right)
      (same : left ++ leftRest = right ++ rightRest) : left = right ∧ leftRest = rightRest := by
    obtain ⟨later, rfl⟩ := List.head?_eq_some_iff.mp ended
    obtain ⟨later', rfl⟩ := List.head?_eq_some_iff.mp ended'
    obtain ⟨fronts, rests⟩ := Text.ended_inj free free' same
    exact ⟨fronts, by rw [rests]⟩
  cases first with
  | plain free =>
    cases second with
    | plain free' => exact split free free' same
    | grouped _ _ => exact absurd same (begins nonempty free)
  | grouped inside free =>
    cases second with
    | plain free' => exact absurd same.symm (begins nonempty' free')
    | grouped inside' free' =>
      simp only [List.cons_append, List.append_assoc, List.cons.injEq, true_and] at same
      obtain ⟨rfl, later⟩ := inside.close_inj inside' same
      obtain ⟨rfl, rest⟩ := split free free' later
      exact ⟨rfl, rest⟩

end Callee

/-- A receiver as it stands before its point. -/
def bracketed (receiver : TypeName) : String :=
  if receiver.isFunction && !receiver.nullable then TypeName.parenthesized receiver.render
  else receiver.render

theorem receiverText_some (receiver : TypeName) :
    receiverText (some receiver) = bracketed receiver ++ "." := rfl

/-- A receiver without parentheses around it does not end with one. -/
theorem getLast?_render_ne {receiver : TypeName}
    (identifiers : ∀ word ∈ receiver.words, Identifier word)
    (unbracketed : (receiver.isFunction && !receiver.nullable) = false) :
    receiver.render.toList.getLast? ≠ some ')' := by
  cases receiver with
  | classType name nullable =>
    have free := (TypeName.spelled_render_classType identifiers).not_mem
      (c := ')') (by decide) (by decide)
    exact fun last => free (List.mem_of_getLast? last)
  | functionType parameters result receiver nullable =>
    obtain rfl : nullable = true := by
      simpa [TypeName.isFunction, TypeName.nullable] using unbracketed
    rw [TypeName.render_functionType, if_pos rfl]
    simp

/-- A receiver may stand in front of the parameters. -/
theorem callee_bracketed {receiver : TypeName}
    (identifiers : ∀ word ∈ receiver.words, Identifier word) :
    Callee (bracketed receiver).toList := by
  cases receiver with
  | classType name nullable =>
    exact .plain ((TypeName.spelled_render_classType identifiers).not_mem (by decide) (by decide))
  | functionType parameters result receiver nullable =>
    cases nullable with
    | false => exact .parenthesized (TypeName.balanced_render identifiers)
    | true =>
      have signature := Callee.parenthesized (TypeName.balanced_signature identifiers)
      have question : '(' ∉ "?".toList := by decide
      have marked := signature.append question
      rw [← String.toList_append] at marked
      rw [bracketed, TypeName.render_functionType]
      exact marked

/-- A receiver without parentheses around it is not one in parentheses, and its text is not that of
one in parentheses. -/
theorem unbracketed_ne {left right : TypeName}
    (identifiers : ∀ word ∈ left.words, Identifier word)
    (identifiers' : ∀ word ∈ right.words, Identifier word)
    (unbracketed : (left.isFunction && !left.nullable) = false)
    (bracketed : (right.isFunction && !right.nullable) = true) :
    left.render ≠ TypeName.parenthesized right.render ∧ left.render ≠ right.render := by
  constructor
  · intro same
    have closed : (TypeName.parenthesized right.render).toList =
        '(' :: right.render.toList ++ [')'] := by
      simp [TypeName.parenthesized]
    apply getLast?_render_ne identifiers unbracketed
    rw [same, closed, List.getLast?_concat]
  -- the arrow stands outside all parentheses in only one of the texts
  · intro same
    have whole := (TypeName.whole_arrow_iff identifiers).mpr unbracketed
    rw [same, TypeName.whole_arrow_iff identifiers', bracketed] at whole
    contradiction

/-- Receivers stand before their points alike if and only if they have one text. -/
theorem bracketed_eq_iff {left right : TypeName}
    (identifiers : ∀ word ∈ left.words, Identifier word)
    (identifiers' : ∀ word ∈ right.words, Identifier word) :
    bracketed left = bracketed right ↔ left.render = right.render := by
  rw [bracketed, bracketed]
  cases shape : left.isFunction && !left.nullable <;>
    cases shape' : right.isFunction && !right.nullable
  · rfl
  · obtain ⟨whole, inside⟩ := unbracketed_ne identifiers identifiers' shape shape'
    exact iff_of_false whole inside
  · obtain ⟨whole, inside⟩ := unbracketed_ne identifiers' identifiers shape' shape
    exact iff_of_false whole.symm inside.symm
  · rw [if_pos rfl, if_pos rfl, TypeName.parenthesized, TypeName.parenthesized,
      String.append_left_inj, String.append_right_inj]

/-- The text of a receiver ends with its point. -/
theorem toList_receiverText_some (receiver : TypeName) :
    (receiverText (some receiver)).toList = (bracketed receiver).toList ++ ['.'] := by
  rw [receiverText_some, String.toList_append]
  rfl

/-- What stands in front of the parameters is told from the receiver and the name. -/
theorem receiverText_append_inj {first second : Option TypeName} {name name' : String}
    (identifiers : ∀ word ∈ first.elim [] TypeName.words, Identifier word)
    (identifiers' : ∀ word ∈ second.elim [] TypeName.words, Identifier word)
    (identifier : Identifier name) (identifier' : Identifier name')
    (same : (receiverText first).toList ++ name.toList =
      (receiverText second).toList ++ name'.toList) :
    first.map TypeName.render = second.map TypeName.render ∧ name = name' := by
  have unpointed : '.' ∉ name.toList := identifier.not_mem (by decide)
  have unpointed' : '.' ∉ name'.toList := identifier'.not_mem (by decide)
  cases first with
  | none =>
    cases second with
    | none => exact ⟨rfl, String.toList_injective same⟩
    | some receiver =>
      rw [toList_receiverText_some] at same
      exact absurd (by rw [show name.toList = _ from same]; simp) unpointed
  | some receiver =>
    cases second with
    | none =>
      rw [toList_receiverText_some] at same
      exact absurd (by rw [show name'.toList = _ from same.symm]; simp) unpointed'
    | some receiver' =>
      -- the point after the receiver is the last one, so both sides are read backwards
      rw [toList_receiverText_some, toList_receiverText_some] at same
      have backwards := congrArg List.reverse same
      simp only [List.reverse_append, List.reverse_cons, List.reverse_nil, List.nil_append,
        List.cons_append] at backwards
      obtain ⟨names, receivers⟩ := Text.ended_inj (by simpa using unpointed)
        (by simpa using unpointed') backwards
      have texts := String.toList_injective (List.reverse_inj.mp receivers)
      rw [bracketed_eq_iff identifiers identifiers'] at texts
      exact ⟨congrArg some texts, String.toList_injective (List.reverse_inj.mp names)⟩

/-- The text of a receiver depends on nothing but the text of its type. -/
theorem receiverText_eq_of_render_eq {first second : Option TypeName}
    (identifiers : ∀ word ∈ first.elim [] TypeName.words, Identifier word)
    (identifiers' : ∀ word ∈ second.elim [] TypeName.words, Identifier word)
    (same : first.map TypeName.render = second.map TypeName.render) :
    receiverText first = receiverText second := by
  cases first with
  | none =>
    cases second with
    | none => rfl
    | some receiver => contradiction
  | some receiver =>
    cases second with
    | none => contradiction
    | some receiver' =>
      have texts := (bracketed_eq_iff identifiers identifiers').mpr (Option.some.inj same)
      rw [receiverText_some, receiverText_some, texts]

/-- The result is written with a colon before it, if it is. -/
theorem returnsText_eq (returns : Option TypeName) :
    returnsText returns = (resultShown returns).elim "" (": " ++ ·) := by
  cases returns with
  | none => rfl
  | some type =>
    rw [returnsText, resultShown, Option.filter_some]
    by_cases unit : type = TypeName.unit
    · simp [unit]
    · simp [unit]

/-- No brace stands in the text of a result. -/
theorem brace_not_mem_of_resultShown {returns : Option TypeName} {text : String}
    (identifiers : ∀ word ∈ returns.elim [] TypeName.words, Identifier word)
    (shown : resultShown returns = some text) : '\x7b' ∉ text.toList := by
  rw [resultShown, Option.map_eq_some_iff] at shown
  obtain ⟨type, kept, rfl⟩ := shown
  obtain rfl : returns = some type := (Option.filter_eq_some_iff.mp kept).1
  exact (TypeName.spelled_render identifiers).not_mem (by decide) (by decide)

/-- The result is told from the brace after it. -/
theorem returnsText_append_inj {first second : Option TypeName} {rest rest' : List Char}
    (identifiers : ∀ word ∈ first.elim [] TypeName.words, Identifier word)
    (identifiers' : ∀ word ∈ second.elim [] TypeName.words, Identifier word)
    (same : (returnsText first).toList ++ ' ' :: '\x7b' :: rest =
      (returnsText second).toList ++ ' ' :: '\x7b' :: rest') :
    resultShown first = resultShown second ∧ rest = rest' := by
  have chars (text : String) (rest : List Char) :
      (": " ++ text).toList ++ ' ' :: '\x7b' :: rest =
        ':' :: ' ' :: ((text.toList ++ [' ']) ++ '\x7b' :: rest) := by simp
  have free {text : String} (absent : '\x7b' ∉ text.toList) : '\x7b' ∉ text.toList ++ [' '] := by
    simp [absent]
  rw [returnsText_eq, returnsText_eq] at same
  cases shown : resultShown first with
  | none =>
    cases shown' : resultShown second with
    | none =>
      rw [shown, shown'] at same
      exact ⟨rfl, by simpa using same⟩
    | some text =>
      rw [shown, shown', Option.elim_some, chars] at same
      exact absurd (List.cons.inj same).1 (by decide)
  | some text =>
    cases shown' : resultShown second with
    | none =>
      rw [shown, shown', Option.elim_some, chars] at same
      exact absurd (List.cons.inj same).1 (by decide)
    | some text' =>
      rw [shown, shown', Option.elim_some, Option.elim_some, chars, chars, List.cons.injEq,
        List.cons.injEq] at same
      obtain ⟨texts, later⟩ := Text.ended_inj (free (brace_not_mem_of_resultShown identifiers shown))
        (free (brace_not_mem_of_resultShown identifiers' shown')) same.2.2
      exact ⟨congrArg some (String.toList_injective (List.append_cancel_right texts)), later⟩

section Words

variable {function : Declaration} (identifiers : ∀ word ∈ function.words, Identifier word)

include identifiers

theorem identifier_name : Identifier function.name := identifiers _ List.mem_cons_self

theorem identifiers_parameters :
    ∀ parameter ∈ function.parameters, ∀ word ∈ parameter.words, Identifier word := by
  intro parameter among word member
  have listed := List.mem_flatMap.mpr ⟨parameter, among, member⟩
  exact identifiers word
    (List.mem_cons_of_mem _ (List.mem_append_left _ (List.mem_append_left _ listed)))

theorem identifiers_receiver :
    ∀ word ∈ function.receiver.elim [] TypeName.words, Identifier word :=
  fun word member => identifiers word
    (List.mem_cons_of_mem _ (List.mem_append_left _ (List.mem_append_right _ member)))

theorem identifiers_returns :
    ∀ word ∈ function.returns.elim [] TypeName.words, Identifier word :=
  fun word member => identifiers word (List.mem_cons_of_mem _ (List.mem_append_right _ member))

/-- The receiver and the name may stand in front of the parameters. -/
theorem callee_receiverText :
    Callee ((receiverText function.receiver).toList ++ function.name.toList) := by
  have named : '(' ∉ function.name.toList := (identifier_name identifiers).not_mem (by decide)
  have receivers := identifiers_receiver identifiers
  cases found : function.receiver with
  | none => exact .plain named
  | some receiver =>
    rw [found] at receivers
    rw [toList_receiverText_some, List.append_assoc]
    exact (callee_bracketed receivers).append (by simp [named])

end Words

/-- A parameter list begins with a parenthesis. -/
theorem head?_parameterText_append (parameters : List Parameter) (rest : List Char) :
    ((parameterText parameters).toList ++ rest).head? = some '(' := by
  rw [parameterText]
  split <;> simp [TypeName.parenthesized]

/-- The source, with the modifiers told from what follows them, the name from the parameters and
the result from the brace. -/
theorem toList_source (function : Declaration) :
    function.source.toList =
      (Modifier.text function.modifiers).toList ++ ("fun ".toList ++
        (((receiverText function.receiver).toList ++ function.name.toList) ++
          ((parameterText function.parameters).toList ++
            ((returnsText function.returns).toList ++ ' ' :: '\x7b' ::
              ('\n' :: (Text.indentBlock function.code).toList ++ "\x7d\n".toList))))) := by
  simp [source, header]

/-- No keyword of a modifier stands at the beginning of a function without modifiers. -/
theorem not_begins_with_keyword (modifier : Modifier) (rest : List Char) :
    ¬ modifier.keyword.toList ++ [' '] <+: "fun ".toList ++ rest := by
  rintro ⟨later, same⟩
  have split : modifier.keyword.toList ++ ' ' :: later = "fun".toList ++ ' ' :: rest := by
    simpa using same
  have keywords := (Text.ended_inj (modifier.identifier_keyword.not_mem (by decide)) (by decide)
    split).1
  cases modifier <;> exact absurd keywords (by decide)

/-- Two functions of identifiers have one source if and only if the source shows the same of them
and their code is the same. -/
theorem source_eq_iff (first second : Declaration)
    (identifiers : ∀ word ∈ first.words, Identifier word)
    (identifiers' : ∀ word ∈ second.words, Identifier word) :
    first.source = second.source ↔
      first.signature = second.signature ∧ first.code = second.code := by
  have parameters := identifiers_parameters identifiers
  have parameters' := identifiers_parameters identifiers'
  have named (receiver : List Char) {function : Declaration} (name : Identifier function.name) :
      receiver ++ function.name.toList ≠ [] :=
    List.append_ne_nil_of_right_ne_nil receiver (mt String.toList_eq_nil_iff.mp name.1)
  constructor
  · intro same
    have chars := congrArg String.toList same
    rw [toList_source, toList_source] at chars
    obtain ⟨modifiers, declared⟩ :=
      Modifier.text_append_inj (not_begins_with_keyword · _) (not_begins_with_keyword · _) chars
    obtain ⟨callees, listed⟩ := (callee_receiverText identifiers).ended_inj
      (callee_receiverText identifiers') (named _ (identifier_name identifiers))
      (named _ (identifier_name identifiers')) (head?_parameterText_append _ _)
      (head?_parameterText_append _ _) (List.append_cancel_left declared)
    obtain ⟨receivers, names⟩ := receiverText_append_inj (identifiers_receiver identifiers)
      (identifiers_receiver identifiers') (identifier_name identifiers)
      (identifier_name identifiers') callees
    obtain ⟨shown, returned⟩ := parameterText_append_inj parameters parameters' listed
    obtain ⟨results, bodies⟩ := returnsText_append_inj (identifiers_returns identifiers)
      (identifiers_returns identifiers') returned
    have blocks := String.toList_injective (List.append_cancel_right (List.cons.inj bodies).2)
    refine ⟨?_, Text.indentBlock_injective blocks⟩
    rw [signature, signature, modifiers, names, receivers, shown, results]
  · rintro ⟨same, code⟩
    simp only [signature, Signature.mk.injEq] at same
    obtain ⟨modifiers, names, receivers, shown, results⟩ := same
    have texts := receiverText_eq_of_render_eq (identifiers_receiver identifiers)
      (identifiers_receiver identifiers') receivers
    have lists : parameterText first.parameters = parameterText second.parameters := by
      rw [parameterText, parameterText, (sources_eq_iff parameters parameters').mpr shown]
    rw [source, source, header, header, modifiers, texts, names, lists, returnsText_eq,
      returnsText_eq, results, code]

/-- A function with a receiver, two parameters, a result and a body. -/
def measured (receiver : ClassName) (result : TypeName) (body : List String) : Declaration where
  name := "measure"
  parameters :=
    [⟨"by", .functionType [.any, .int] .unit none false, [.notInlined], by decide⟩,
      ⟨"limit", .int, [], by decide⟩]
  modifiers := [.inlined]
  receiver := some (.classType receiver true)
  returns := some result
  body

/-- The same source, where a receiver is named by another package and the code falls into other
fragments. -/
theorem source_measured :
    (measured ⟨"a.b", "C", []⟩ .int ["return 1", "\n"]).source =
      (measured ⟨"a", "b", ["C"]⟩ .int ["return 1\n"]).source :=
  (source_eq_iff _ _ (by decide) (by decide)).mpr (by decide)

/-- A function that does nothing and has a result of a type. -/
def returning (result : TypeName) : Declaration where
  name := "f"
  parameters := []
  modifiers := []
  receiver := none
  returns := some result
  body := []

/-- A class outside every package that is written like the unit type. -/
def nestedUnit : TypeName := .classType ⟨"", "kotlin", ["Unit"]⟩ false

/-- The source is not determined by the text of the result. A class that is written like the unit
type is not the unit type, so it is shown where the unit type is not. -/
theorem source_ne_nestedUnit :
    (returning .unit).toDraft.build = .ok (returning .unit) ∧
      (returning nestedUnit).toDraft.build = .ok (returning nestedUnit) ∧
      (∀ word ∈ (returning .unit).words ++ (returning nestedUnit).words, Identifier word) ∧
      { returning .unit with returns := none } = { returning nestedUnit with returns := none } ∧
      (returning .unit).returns.map TypeName.render =
        (returning nestedUnit).returns.map TypeName.render ∧
      (returning .unit).code = (returning nestedUnit).code ∧
      (returning .unit).source ≠ (returning nestedUnit).source :=
  ⟨rfl, rfl, by decide, rfl, by decide, rfl, by decide⟩

end Declaration

end KotlinContract
