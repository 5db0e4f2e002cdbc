import KotlinContract.Contract.Basic
import KotlinContract.Proofs.Expression.NormalForm

/-!
# Normal forms of contracts

The normal form of an effect consists of its kind, its invocation kind and the normal forms of its
expressions. The text of an effect is a keyword, a balanced text in parentheses and the rest, which
can be told apart; the text of a contract is made of lines. So contracts whose words are unmarked
are equal if and only if their effects have the same normal forms, in order
(`Contract.beq_iff_normalForm_eq`).
-/
namespace KotlinContract

open Text (Composable Balanced Plain Every)

/-- What the text shows of an effect. -/
structure NormalEffect where
  /-- What the effect is about. -/
  kind : EffectKind
  /-- How often a parameter is called. -/
  invocation : Option InvocationKind
  /-- The normal forms of the expressions in parentheses. -/
  arguments : List NormalForm
  /-- The normal form of what is implied. -/
  conclusion : Option NormalForm

/-- No token of an invocation kind ends with that of another. -/
theorem InvocationKind.eq_of_token_suffix {left right : InvocationKind}
    (suffix : left.token.toList <:+ right.token.toList) : left = right := by
  revert suffix
  cases left <;> cases right <;> decide

/-- The keyword of an effect tells its kind. -/
theorem EffectKind.keyword_injective {left right : EffectKind}
    (same : left.keyword.toList = right.keyword.toList) : left = right := by
  revert same
  cases left <;> cases right <;> decide

/-- No keyword has a parenthesis in it. -/
theorem EffectKind.not_mem_keyword (kind : EffectKind) : '(' ∉ kind.keyword.toList := by
  cases kind <;> decide

namespace Clause

/-- The words of the expressions of an effect. -/
def words (clause : Clause) : List String := clause.roots.flatMap Expression.words

/-- What the text shows of an effect. -/
def normalForm (clause : Clause) : NormalEffect where
  kind := clause.kind
  invocation := clause.invocation?
  arguments := clause.arguments.map Expression.normalForm
  conclusion := clause.conclusion?.map Expression.normalForm

section Text

variable (token : Nat → String)

/-- The text in the parentheses of an effect. -/
def inside : Clause → String
  | .returns value _ => value.elim "" (·.innerText token)
  | .returnsNotNull _ => ""
  | .calls target invocation => target.innerText token ++ ", " ++ invocation.token

/-- The text after the parentheses of an effect. -/
def implied : Clause → String
  | .returns _ conclusion => implication ++ conclusion.text token
  | .returnsNotNull conclusion => implication ++ conclusion.text token
  | .calls .. => ""

/-- The text of an effect is a keyword, what stands in its parentheses and what is implied. -/
theorem text_eq (clause : Clause) :
    clause.text token =
      clause.kind.keyword ++ TypeName.parenthesized (clause.inside token) ++
        clause.implied token := by
  cases clause with
  | returns value conclusion =>
    cases value with
    | none => simp [text, inside, implied, kind, TypeName.parenthesized, String.append_assoc]
    | some value => simp [text, inside, implied, kind, Expression.text, String.append_assoc]
  | returnsNotNull conclusion =>
    simp [text, inside, implied, kind, TypeName.parenthesized, String.append_assoc]
  | calls target invocation =>
    simp [text, inside, implied, kind, TypeName.parenthesized, String.append_assoc]

end Text

section Composed

variable {holds : String → Prop} {token : Nat → String}

/-- What the text of an effect has besides its words, the tokens and the parentheses. -/
def marks : List String :=
  EffectKind.all.map EffectKind.keyword ++ InvocationKind.all.map InvocationKind.token ++
    [implication, ", "] ++ Expression.marks

/-- What stands in the parentheses of an effect is composed of words, tokens and marks. -/
theorem composed_inside (composable : Composable holds) (given : ∀ mark ∈ marks, holds mark)
    (tokens : ∀ index, holds (token index)) {clause : Clause}
    (words : ∀ word ∈ clause.words, holds word) : holds (clause.inside token) := by
  have expressionMarks : ∀ mark ∈ Expression.marks, holds mark := fun mark member =>
    given mark (List.mem_append_right _ member)
  have argument {expression : Expression} (among : expression ∈ clause.roots) :
      holds (expression.innerText token) :=
    Expression.composed_innerText composable expressionMarks tokens expression fun word member =>
      words word (List.mem_flatMap.mpr ⟨expression, among, member⟩)
  cases clause with
  | returns value conclusion =>
    cases value with
    | none => exact composable.empty
    | some value => exact argument (by simp [roots, arguments])
  | returnsNotNull conclusion => exact composable.empty
  | calls target invocation =>
    have kind : holds invocation.token := by cases invocation <;> exact given _ (by decide)
    exact composable.append
      (composable.append (argument (by simp [roots, arguments])) (given _ (by decide))) kind

/-- What is implied by an effect is composed of words, tokens and marks. -/
theorem composed_implied (composable : Composable holds) (given : ∀ mark ∈ marks, holds mark)
    (tokens : ∀ index, holds (token index)) {clause : Clause}
    (words : ∀ word ∈ clause.words, holds word) : holds (clause.implied token) := by
  have expressionMarks : ∀ mark ∈ Expression.marks, holds mark := fun mark member =>
    given mark (List.mem_append_right _ member)
  have conclusion {expression : Expression} (among : expression ∈ clause.roots) :
      holds (implication ++ expression.text token) := by
    have inner := Expression.composed_innerText composable expressionMarks tokens expression
      fun word member => words word (List.mem_flatMap.mpr ⟨expression, among, member⟩)
    exact composable.append (given _ (by decide)) (composable.parenthesized inner)
  cases clause with
  | returns value implies => exact conclusion (by simp [roots, conclusion?])
  | returnsNotNull implies => exact conclusion (by simp [roots, conclusion?])
  | calls target invocation => exact composable.empty

/-- The text of an effect is composed of words, tokens and marks. -/
theorem composed_text (composable : Composable holds) (given : ∀ mark ∈ marks, holds mark)
    (tokens : ∀ index, holds (token index)) {clause : Clause}
    (words : ∀ word ∈ clause.words, holds word) : holds (clause.text token) := by
  have keyword : holds clause.kind.keyword := by cases clause.kind <;> exact given _ (by decide)
  rw [text_eq]
  exact composable.append
    (composable.append keyword
      (composable.parenthesized (composed_inside composable given tokens words)))
    (composed_implied composable given tokens words)

end Composed

/-- Parentheses stand in pairs in the parentheses of an effect. -/
theorem balanced_inside {token : Nat → String} (tokens : ∀ index, Plain (token index))
    {clause : Clause} (plain : ∀ word ∈ clause.words, Plain word) :
    Balanced (clause.inside token).toList := by
  have given : ∀ mark ∈ marks, Balanced mark.toList := by
    have free : ∀ mark ∈ marks, Every (fun c => c ≠ '(' ∧ c ≠ ')') mark := by decide
    exact fun mark member => .of_free (free mark member)
  exact composed_inside Text.composable_balanced given (fun index => (tokens index).balanced)
    fun word member => (plain word member).balanced

/-- The text of an effect tells its kind, what stands in its parentheses and what is implied. -/
theorem parts_inj {token : Nat → String} (tokens : ∀ index, Plain (token index))
    {first second : Clause} (plain : ∀ word ∈ first.words, Plain word)
    (plain' : ∀ word ∈ second.words, Plain word) (same : first.text token = second.text token) :
    first.kind = second.kind ∧ first.inside token = second.inside token ∧
      first.implied token = second.implied token := by
  have chars := congrArg String.toList same
  rw [text_eq, text_eq] at chars
  simp only [TypeName.parenthesized, String.toList_append, List.append_assoc] at chars
  obtain ⟨keywords, rest⟩ :=
    Text.ended_inj first.kind.not_mem_keyword second.kind.not_mem_keyword chars
  obtain ⟨insides, implied⟩ :=
    (balanced_inside tokens plain).close_inj (balanced_inside tokens plain') rest
  exact ⟨EffectKind.keyword_injective keywords, String.toList_injective insides,
    String.toList_injective implied⟩

/-- What a call shows in its parentheses tells the target and the kind of invocation. -/
theorem call_inj {first second : String} {kind kind' : InvocationKind}
    (same : first ++ ", " ++ kind.token = second ++ ", " ++ kind'.token) :
    first = second ∧ kind = kind' := by
  have chars := congrArg String.toList same
  simp only [String.toList_append] at chars
  have suffix : kind.token.toList <:+
      second.toList ++ ", ".toList ++ kind'.token.toList := ⟨_, chars⟩
  have suffix' : kind'.token.toList <:+
      second.toList ++ ", ".toList ++ kind'.token.toList := ⟨_, rfl⟩
  have kinds : kind = kind' :=
    (List.suffix_or_suffix_of_suffix suffix suffix').elim InvocationKind.eq_of_token_suffix
      fun other => (InvocationKind.eq_of_token_suffix other).symm
  rw [kinds] at chars
  have targets := List.append_cancel_right (List.append_cancel_right chars)
  exact ⟨String.toList_injective targets, kinds⟩

/-- An expression of an effect with unmarked words has something between its parentheses. -/
theorem innerText_root_ne_empty {clause : Clause} (unmarked : ∀ word ∈ clause.words, Unmarked word)
    {root : Expression} (among : root ∈ clause.roots) : root.innerText placeholder ≠ "" :=
  Expression.innerText_ne_empty plain_placeholder fun word member =>
    (unmarked word (List.mem_flatMap.mpr ⟨root, among, member⟩)).1

section Roots

variable {first second : Clause} (unmarked : ∀ word ∈ first.words, Unmarked word)
  (unmarked' : ∀ word ∈ second.words, Unmarked word) {left right : Expression}
  (among : left ∈ first.roots) (among' : right ∈ second.roots)

include unmarked unmarked' among among'

/-- Expressions of two effects with unmarked words have one normal form if they have one inner
text. -/
theorem root_normalForm_eq
    (inner : left.innerText placeholder = right.innerText placeholder) :
    left.normalForm = right.normalForm :=
  Expression.normalForm_eq_of_innerText_eq
    (fun word member => unmarked word (List.mem_flatMap.mpr ⟨left, among, member⟩))
    (fun word member => unmarked' word (List.mem_flatMap.mpr ⟨right, among', member⟩)) inner

/-- Conclusions of two effects with unmarked words have one normal form if they are written the
same. -/
theorem conclusion_normalForm_eq
    (texts : implication ++ left.text placeholder = implication ++ right.text placeholder) :
    left.normalForm = right.normalForm :=
  root_normalForm_eq unmarked unmarked' among among'
    (Expression.innerText_eq_of_text_eq ((String.append_right_inj implication).mp texts))

end Roots

/-- Effects with unmarked words and one text have one normal form. -/
theorem normalForm_eq_of_text_eq {first second : Clause}
    (unmarked : ∀ word ∈ first.words, Unmarked word)
    (unmarked' : ∀ word ∈ second.words, Unmarked word)
    (same : first.text placeholder = second.text placeholder) :
    first.normalForm = second.normalForm := by
  obtain ⟨kinds, insides, implied⟩ := parts_inj plain_placeholder
    (fun word member => (unmarked word member).1) (fun word member => (unmarked' word member).1)
    same
  cases first <;> cases second <;> simp only [kind, reduceCtorEq] at kinds
  case returns.returns value conclusion value' conclusion' =>
    have concluded := conclusion_normalForm_eq unmarked unmarked' (by simp [roots, conclusion?])
      (by simp [roots, conclusion?]) implied
    cases value with
    | none =>
      cases value' with
      | none => simp [normalForm, kind, invocation?, arguments, conclusion?, concluded]
      | some value' =>
        exact absurd insides.symm (innerText_root_ne_empty unmarked' (by simp [roots, arguments]))
    | some value =>
      cases value' with
      | none => exact absurd insides (innerText_root_ne_empty unmarked (by simp [roots, arguments]))
      | some value' =>
        have values := root_normalForm_eq unmarked unmarked' (by simp [roots, arguments])
          (by simp [roots, arguments]) insides
        simp [normalForm, kind, invocation?, arguments, conclusion?, concluded, values]
  case returnsNotNull.returnsNotNull conclusion conclusion' =>
    have concluded := conclusion_normalForm_eq unmarked unmarked' (by simp [roots, conclusion?])
      (by simp [roots, conclusion?]) implied
    simp [normalForm, kind, invocation?, arguments, conclusion?, concluded]
  case calls.calls target invocation target' invocation' =>
    obtain ⟨inner, invocations⟩ := call_inj insides
    have targets := root_normalForm_eq unmarked unmarked' (by simp [roots, arguments])
      (by simp [roots, arguments]) inner
    simp [normalForm, kind, invocation?, arguments, conclusion?, targets, invocations]

/-- Effects of one kind and one kind of invocation have one text if their expressions are written the
same. -/
theorem text_congr (token : Nat → String) {first second : Clause} (kinds : first.kind = second.kind)
    (invocations : first.invocation? = second.invocation?)
    (arguments : first.arguments.map (Expression.innerText token) =
      second.arguments.map (Expression.innerText token))
    (conclusions : first.conclusion?.map (Expression.innerText token) =
      second.conclusion?.map (Expression.innerText token)) :
    first.text token = second.text token := by
  cases first <;> cases second <;> simp only [kind, reduceCtorEq] at kinds
  case returns.returns value conclusion value' conclusion' =>
    have implied := Option.some.inj conclusions
    have values : value.elim "()" (·.text token) = value'.elim "()" (·.text token) := by
      cases value <;> cases value' <;> simp only [Clause.arguments, Option.toList, List.map_cons,
        List.map_nil, reduceCtorEq, List.cons.injEq, and_true] at arguments
      · rfl
      · exact congrArg TypeName.parenthesized arguments
    rw [text, text, values, Expression.text, implied, Expression.text]
  case returnsNotNull.returnsNotNull conclusion conclusion' =>
    have implied := Option.some.inj conclusions
    rw [text, text, Expression.text, implied, Expression.text]
  case calls.calls target invocation target' invocation' =>
    have called := (List.cons.inj arguments).1
    rw [text, text, called, Option.some.inj invocations]

/-- Effects of one normal form have one text. -/
theorem text_eq_of_normalForm_eq (token : Nat → String) {first second : Clause}
    (same : first.normalForm = second.normalForm) : first.text token = second.text token := by
  have written : Expression.innerText token =
      NormalForm.innerText token ∘ Expression.normalForm :=
    funext fun expression => (expression.innerText_normalForm token).symm
  rw [normalForm, normalForm, NormalEffect.mk.injEq] at same
  obtain ⟨kinds, invocations, argumentForms, conclusionForms⟩ := same
  refine text_congr token kinds invocations ?_ ?_
  · rw [written, ← List.map_map, argumentForms, List.map_map]
  · rw [written, ← Option.map_map, conclusionForms, Option.map_map]

/-- With unmarked words, two effects have one canonical text if and only if they have one normal
form. -/
theorem canonical_eq_iff {first second : Clause}
    (unmarked : ∀ word ∈ first.words, Unmarked word)
    (unmarked' : ∀ word ∈ second.words, Unmarked word) :
    first.text placeholder = second.text placeholder ↔ first.normalForm = second.normalForm :=
  ⟨normalForm_eq_of_text_eq unmarked unmarked', text_eq_of_normalForm_eq placeholder⟩

/-- The canonical text of an effect with plain words stands on one line. -/
theorem newline_not_mem {clause : Clause} (plain : ∀ word ∈ clause.words, Plain word) :
    '\n' ∉ (clause.text placeholder).toList := by
  have given : ∀ mark ∈ marks, Every (· ≠ '\n') mark := by decide
  have word {text : String} (plain : Plain text) : Every (· ≠ '\n') text := by
    rintro c member rfl
    exact absurd (plain.2 '\n' member).1 (by decide)
  have every : Every (· ≠ '\n') (clause.text placeholder) :=
    composed_text (Text.composable_every (by decide) (by decide)) given
      (fun index => word (plain_placeholder index)) fun text member => word (plain text member)
  exact fun member => every '\n' member rfl

end Clause

/-- What the text shows of an effect. -/
def Effect.normalForm (effect : Effect) : NormalEffect := effect.clause.normalForm

namespace Contract

/-- The words of the expressions of a contract. -/
def words (contract : Contract) : List String :=
  contract.effects.flatMap fun effect => effect.clause.words

/-- The characters of a block are those of its lines, between two others. -/
theorem toList_block (lines : List String) :
    (block lines).toList =
      opening.toList ++
        (lines.map fun line => ("  " ++ line).toList).flatMap (· ++ ['\n']) ++
          closing.toList := by
  rw [block, String.toList_append, String.toList_append, Text.toList_join_empty, List.flatMap_map,
    List.flatMap_map]
  simp [String.toList_append]

/-- A block tells its lines. -/
theorem block_inj {first second : List String} (free : ∀ line ∈ first, '\n' ∉ line.toList)
    (free' : ∀ line ∈ second, '\n' ∉ line.toList) (same : block first = block second) :
    first = second := by
  have indented {lines : List String} (free : ∀ line ∈ lines, '\n' ∉ line.toList) :
      ∀ line ∈ lines.map fun line => ("  " ++ line).toList, '\n' ∉ line := by
    intro line member
    obtain ⟨text, among, rfl⟩ := List.mem_map.mp member
    rw [String.toList_append, List.mem_append, not_or]
    exact ⟨by decide, free text among⟩
  have injective (left right : String) (chars : ("  " ++ left).toList = ("  " ++ right).toList) :
      left = right :=
    (String.append_right_inj "  ").mp (String.toList_injective chars)
  have chars := congrArg String.toList same
  rw [toList_block, toList_block] at chars
  have lines := List.append_cancel_left (List.append_cancel_right chars)
  exact (List.map_inj_right injective).mp
    (Text.flatMap_ended_inj (indented free) (indented free') lines)

/-- Where members of two lists that are shown alike are kept alike, lists that are shown alike are
kept alike. -/
theorem map_eq_map_of_forall {α β γ : Type} {shown : α → β} {kept : α → γ} {lefts rights : List α}
    (each : ∀ left ∈ lefts, ∀ right ∈ rights, shown left = shown right → kept left = kept right)
    (same : lefts.map shown = rights.map shown) : lefts.map kept = rights.map kept := by
  induction lefts generalizing rights with
  | nil =>
    obtain rfl : rights = [] := List.map_eq_nil_iff.mp same.symm
    rfl
  | cons left others hypothesis =>
    obtain ⟨right, remaining, rfl, first, rest⟩ := List.map_eq_cons_iff.mp same.symm
    have later := hypothesis (fun first member second member' =>
      each first (List.mem_cons_of_mem _ member) second (List.mem_cons_of_mem _ member')) rest.symm
    rw [List.map_cons, List.map_cons, later,
      each left List.mem_cons_self right List.mem_cons_self first.symm]

/-- Two functions that tell the same members of two lists apart tell the same lists apart. -/
theorem map_eq_map_iff {α β γ : Type} {shown : α → β} {kept : α → γ} {lefts rights : List α}
    (each : ∀ left ∈ lefts, ∀ right ∈ rights, shown left = shown right ↔ kept left = kept right) :
    lefts.map shown = rights.map shown ↔ lefts.map kept = rights.map kept :=
  ⟨map_eq_map_of_forall fun left member right member' => (each left member right member').mp,
    map_eq_map_of_forall fun left member right member' => (each left member right member').mpr⟩

/-- Two contracts whose words are plain and have none of the characters of placeholders are equal
if and only if their effects have, in order, the same kinds, the same invocation kinds, and
arguments and conclusions of the same normal forms. -/
theorem beq_iff_normalForm_eq (first second : Contract)
    (unmarked : ∀ word ∈ first.words, Unmarked word)
    (unmarked' : ∀ word ∈ second.words, Unmarked word) :
    (first == second) = true ↔
      first.effects.map Effect.normalForm = second.effects.map Effect.normalForm := by
  have unmarkedEffect {contract : Contract} (words : ∀ word ∈ contract.words, Unmarked word)
      {effect : Effect} (among : effect ∈ contract.effects) :
      ∀ word ∈ effect.clause.words, Unmarked word :=
    fun word member => words word (List.mem_flatMap.mpr ⟨effect, among, member⟩)
  have oneLine {contract : Contract} (words : ∀ word ∈ contract.words, Unmarked word) :
      ∀ line ∈ contract.effects.map Effect.canonical, '\n' ∉ line.toList := by
    intro line member
    obtain ⟨effect, among, rfl⟩ := List.mem_map.mp member
    exact Clause.newline_not_mem fun word found => (unmarkedEffect words among word found).1
  have effects : first.effects.map Effect.canonical = second.effects.map Effect.canonical ↔
      first.effects.map Effect.normalForm = second.effects.map Effect.normalForm :=
    map_eq_map_iff fun _ among _ among' =>
      Clause.canonical_eq_iff (unmarkedEffect unmarked among) (unmarkedEffect unmarked' among')
  rw [← effects]
  change (first.canonical == second.canonical) = true ↔ _
  rw [beq_iff_eq]
  exact ⟨block_inj (oneLine unmarked) (oneLine unmarked'), congrArg block⟩

/-- A contract with a test of the receiver, joined to a parameter that may be negated, for a value
and beside a call. -/
def receiverTested (test : Test) (negated : Bool) : Contract where
  effects :=
    [{ clause := .returns (some (.reference "true"))
        { proposition := .about 0 test
          negated := true
          conjuncts := [⟨.about 1 .holds, negated, [], [], .empty⟩]
          disjuncts := []
          tags := .empty }
       tags := .empty },
      { clause := .calls (.reference "body") .exactlyOnce, tags := .empty }]
  tags := .empty
  nonempty := by simp

/-- A comparison with null and one with the null token have the same normal form, and a parameter
that is itself a proposition has that of its negation. -/
theorem beq_receiverTested :
    (receiverTested .isNull true == receiverTested (.equals nullToken) false) = true :=
  (beq_iff_normalForm_eq _ _ (by decide) (by decide)).mpr rfl

end Contract

end KotlinContract
