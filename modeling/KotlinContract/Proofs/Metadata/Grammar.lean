import KotlinContract.Proofs.Document.Reading
import KotlinContract.Proofs.Json.Members
import KotlinContract.Proofs.Schema.Scalar

/-!
# The grammar of compiled contracts

Which JSON values stand for compiled contracts, and for which ones, said without the reading: one
relation for each object, from the classifiers of types to whole contracts. A value is read exactly
if it is in the grammar (`Document.parseCompiled_iff`), and then the contract has the parts that are
written, in their order; any other value is refused with its faults.
-/
namespace KotlinContract

open Schema

namespace Classifier

/-- An object of a kind has one other key, with a value in a grammar, and no more. -/
structure Tagged {α : Type} (kind key : String) (grammar : Json → α → Prop)
    (members : List (String × Json)) (result : α) : Prop where
  /-- The kind is written. -/
  tag : Json.member? members "kind" = some (.text kind)
  /-- The other key is there. -/
  given : Required grammar (Json.member? members key) result
  /-- There are no more keys. -/
  only : ∀ name ∈ members.map (·.1), name ∈ ["kind", key]

/-- The value stands for a classifier. -/
inductive Denotes : Json → Classifier → Prop where
  /-- A class has a name. -/
  | classNamed {members : List (String × Json)} {name : String}
    (tagged : Tagged "class" "name" IsText members name) :
    Denotes (.object members) (.classNamed name)
  /-- A type parameter has a number. -/
  | typeParameter {members : List (String × Json)} {id : Int}
    (tagged : Tagged "type_parameter" "id" StandsForInteger members id) :
    Denotes (.object members) (.typeParameter id)
  /-- A type alias has a name. -/
  | typeAlias {members : List (String × Json)} {name : String}
    (tagged : Tagged "type_alias" "name" IsText members name) :
    Denotes (.object members) (.typeAlias name)

/-- Members are read as those of a kind if the other key is there and is the only one. -/
theorem Form.readMembers_eq_valid_iff {α : Type} {kind key : String} {read : Json → Checked α}
    {grammar : Json → α → Prop} (exact : Exact read grammar) {make : α → Classifier}
    {members : List (String × Json)} {classifier : Classifier}
    (tag : Json.member? members "kind" = some (.text kind)) :
    Form.readMembers ⟨kind, key, fun value => (read value).map make⟩ members = .valid classifier ↔
      ∃ result, Tagged kind key grammar members result ∧ make result = classifier := by
  have made {value : Json} : (read value).map make = .valid classifier ↔
      ∃ result, read value = .valid result ∧ make result = classifier :=
    Checked.map_eq_valid_iff
  rw [Form.readMembers, Checked.under_eq_valid_iff, Checked.seqLeft_eq_valid_iff,
    noOtherKeys_eq_valid_iff, required_eq_valid_iff]
  simp only [made]
  constructor
  · rintro ⟨⟨value, found, result, inside, rfl⟩, only⟩
    exact ⟨result, ⟨tag, found ▸ .given (exact.iff.mp inside), only⟩, rfl⟩
  · rintro ⟨result, ⟨-, given, only⟩, rfl⟩
    obtain ⟨value, found, inside⟩ := required_eq_valid_iff.mp (exact.required_iff.mpr given)
    exact ⟨⟨value, found, result, inside, rfl⟩, only⟩

/-- Classifiers are read exactly. -/
theorem exact_read : Exact Classifier.read Denotes where
  iff {value classifier} := by
    cases value with
    | object members =>
      constructor
      · intro read
        rw [Classifier.read] at read
        split at read
        · contradiction
        · rename_i kind tag
          split at read
          · rename_i form known
            -- the form that was found is one of the three, and its kind is the one that is written
            have spelled : form.kind = kind := by simpa using List.find?_some known
            subst spelled
            have among := List.mem_of_find?_eq_some known
            simp only [forms, List.mem_cons, List.not_mem_nil, or_false] at among
            obtain rfl | rfl | rfl := among
            · obtain ⟨name, tagged, rfl⟩ := (Form.readMembers_eq_valid_iff exact_text tag).mp read
              exact .classNamed tagged
            · obtain ⟨id, tagged, rfl⟩ := (Form.readMembers_eq_valid_iff exact_integer tag).mp read
              exact .typeParameter tagged
            · obtain ⟨name, tagged, rfl⟩ := (Form.readMembers_eq_valid_iff exact_text tag).mp read
              exact .typeAlias tagged
          · contradiction
        · contradiction
      · intro denoted
        cases denoted with
        | classNamed tagged =>
          rw [Classifier.read, tagged.tag]
          exact (Form.readMembers_eq_valid_iff exact_text tagged.tag).mpr ⟨_, tagged, rfl⟩
        | typeParameter tagged =>
          rw [Classifier.read, tagged.tag]
          exact (Form.readMembers_eq_valid_iff exact_integer tagged.tag).mpr ⟨_, tagged, rfl⟩
        | typeAlias tagged =>
          rw [Classifier.read, tagged.tag]
          exact (Form.readMembers_eq_valid_iff exact_text tagged.tag).mpr ⟨_, tagged, rfl⟩
    | _ => exact ⟨nofun, nofun⟩

end Classifier

/-- The value stands for a compiled type. -/
inductive CompiledType.Denotes : Json → CompiledType → Prop where
  /-- It has a classifier and may be nullable. -/
  | intro {members : List (String × Json)} {classifier : Classifier} {nullable : Bool}
    (classifies : Required Classifier.Denotes (Json.member? members "classifier") classifier)
    (marks : Optional StandsForBoolean false (Json.member? members "nullable") nullable) :
    Denotes (.object members) ⟨classifier, nullable⟩

/-- Compiled types are read exactly. -/
theorem CompiledType.exact_read : Exact CompiledType.read CompiledType.Denotes where
  iff {value type} := by
    cases value with
    | object members =>
      simp only [CompiledType.read, Checked.seq_eq_valid_iff, Checked.map_eq_valid_iff,
        Classifier.exact_read.required_iff, exact_boolean.optional_iff]
      constructor
      · rintro ⟨_, nullable, ⟨classifier, classifies, rfl⟩, marks, rfl⟩
        exact .intro classifies marks
      · rintro ⟨classifies, marks⟩
        exact ⟨_, _, ⟨_, classifies, rfl⟩, marks, rfl⟩
    | _ => exact ⟨nofun, nofun⟩

namespace CompiledExpression

/-- The value is an object that holds a constant. -/
inductive HoldsConstant : Json → Literal → Prop where
  /-- The constant is there. -/
  | intro {members : List (String × Json)} {literal : Literal}
    (holds : Required IsConstant (Json.member? members "value") literal) :
    HoldsConstant (.object members) literal

/-- Constants are read exactly from the objects that hold them. -/
theorem exact_readConstant : Exact readConstant HoldsConstant where
  iff {value literal} := by
    cases value with
    | object members =>
      rw [readConstant, exact_constant.required_iff]
      exact ⟨.intro, fun ⟨holds⟩ => holds⟩
    | _ => exact ⟨nofun, nofun⟩

/-- The value stands for a compiled expression. -/
inductive Denotes : Json → CompiledExpression → Prop where
  /-- Whatever part is left out has its default. -/
  | intro {members : List (String × Json)} {flags : Int} {index : Option Int}
    {constant : Option Literal} {instanceType : Option CompiledType}
    {conjuncts disjuncts : List CompiledExpression}
    (flagged : Optional IsInteger 0 (Json.member? members "flags") flags)
    (indexed : Optional (Nullable IsInteger) none (Json.member? members "parameter_index") index)
    (compared : Optional (Nullable HoldsConstant) none (Json.member? members "constant_value")
      constant)
    (tested : Optional (Nullable CompiledType.Denotes) none
      (Json.member? members "is_instance_type") instanceType)
    (conjoined : Optional (ListOf Denotes) [] (Json.member? members "and_arguments") conjuncts)
    (disjoined : Optional (ListOf Denotes) [] (Json.member? members "or_arguments") disjuncts) :
    Denotes (.object members) ⟨flags, index, constant, instanceType, conjuncts, disjuncts⟩

mutual

/-- Compiled expressions are read if they are in the grammar. -/
theorem read_eq_valid_iff : ∀ {value : Json} {expression : CompiledExpression},
    read value = .valid expression ↔ Denotes value expression
  | .object members, expression => by
    simp only [read, Checked.seq_eq_valid_iff, Checked.map_eq_valid_iff,
      exact_exactInteger.optional_iff, exact_exactInteger.nullable.optional_iff,
      exact_readConstant.nullable.optional_iff, CompiledType.exact_read.nullable.optional_iff,
      part_readUnder_eq_valid_iff]
    constructor
    · rintro ⟨_, _, ⟨_, _, ⟨_, _, ⟨_, _, ⟨_, _, ⟨_, flagged, rfl⟩, indexed, rfl⟩, compared, rfl⟩,
        tested, rfl⟩, conjoined, rfl⟩, disjoined, rfl⟩
      exact .intro flagged indexed compared tested conjoined disjoined
    · rintro ⟨flagged, indexed, compared, tested, conjoined, disjoined⟩
      exact ⟨_, _, ⟨_, _, ⟨_, _, ⟨_, _, ⟨_, _, ⟨_, flagged, rfl⟩, indexed, rfl⟩, compared, rfl⟩,
        tested, rfl⟩, conjoined, rfl⟩, disjoined, rfl⟩
  | .null, _ | .boolean _, _ | .integer _, _ | .real _, _ | .text _, _ | .array _, _ =>
    ⟨nofun, nofun⟩

/-- Compiled expressions under a key are read if they are in the grammar. -/
theorem part_readUnder_eq_valid_iff {key : String} : ∀ {members : List (String × Json)}
    {expressions : List CompiledExpression},
    part key [] (readUnder key members) = .valid expressions ↔
      Optional (ListOf Denotes) [] (Json.member? members key) expressions
  | [], expressions => by
    constructor
    · rintro ⟨⟩
      exact .absent
    · rintro ⟨⟩
      rfl
  | (name, value) :: rest, expressions => by
    rw [readUnder, Json.member?_cons]
    by_cases same : name = key
    · rw [if_pos same, if_pos same, part, Option.elim_some, Checked.under_eq_valid_iff,
        readList_eq_valid_iff]
      exact ⟨.given, fun | .given inside => inside⟩
    · rw [if_neg same, if_neg same, part_readUnder_eq_valid_iff]

/-- A list of compiled expressions is read if it is in the grammar. -/
theorem readList_eq_valid_iff : ∀ {value : Json} {expressions : List CompiledExpression},
    readList value = .valid expressions ↔ ListOf Denotes value expressions
  | .array values, expressions => by
    rw [readList, readItems_eq_valid_iff]
    exact ⟨.intro, fun ⟨each⟩ => each⟩
  | .null, _ | .boolean _, _ | .integer _, _ | .real _, _ | .text _, _ | .object _, _ =>
    ⟨nofun, nofun⟩

/-- Compiled expressions from a position on are read if they are in the grammar. -/
theorem readItems_eq_valid_iff : ∀ {position : Nat} {values : List Json}
    {expressions : List CompiledExpression},
    readItems position values = .valid expressions ↔ List.Forall₂ Denotes values expressions
  | _, [], expressions => by
    rw [readItems, List.forall₂_nil_left_iff, Checked.valid.injEq, eq_comm]
  | _, value :: rest, expressions => by
    simp only [readItems, Checked.cons_eq_valid_iff, Checked.under_eq_valid_iff, read_eq_valid_iff,
      readItems_eq_valid_iff, List.forall₂_cons_left_iff]
    constructor
    · rintro ⟨first, others, here, later, rfl⟩
      exact ⟨first, others, here, later, rfl⟩
    · rintro ⟨first, others, here, later, rfl⟩
      exact ⟨first, others, here, later, rfl⟩

end

end CompiledExpression

/-- The kinds of effects are told apart by their words. -/
theorem exact_effectKind :
    Exact (word EffectKind.ofWord?) (IsWord EffectKind.all EffectKind.word) :=
  exact_word (by decide)

/-- The kinds of invocations that compiled metadata knows are told apart by their words. -/
theorem exact_compiledInvocation :
    Exact (word InvocationKind.ofCompiledWord?)
      (IsWord InvocationKind.compiled InvocationKind.word) :=
  exact_word (by decide)

/-- Compiled expressions are read exactly. -/
theorem CompiledExpression.exact_read : Exact CompiledExpression.read Denotes where
  iff := read_eq_valid_iff

/-- The value stands for a compiled effect. -/
inductive CompiledEffect.Denotes : Json → CompiledEffect → Prop where
  /-- What it is about has to be there; whatever other part is left out has its default. -/
  | intro {members : List (String × Json)} {kind : EffectKind} {invocation : Option InvocationKind}
    {arguments : List CompiledExpression} {conclusion : Option CompiledExpression}
    (typed : Required (IsWord EffectKind.all EffectKind.word) (Json.member? members "type") kind)
    (invokes : Optional (Nullable (IsWord InvocationKind.compiled InvocationKind.word)) none
      (Json.member? members "invocation_kind") invocation)
    (constructed : Optional (ListOf CompiledExpression.Denotes) []
      (Json.member? members "constructor_arguments") arguments)
    (concludes : Optional (Nullable CompiledExpression.Denotes) none
      (Json.member? members "conclusion") conclusion) :
    Denotes (.object members) ⟨kind, invocation, arguments, conclusion⟩

/-- Compiled effects are read exactly. -/
theorem CompiledEffect.exact_read : Exact CompiledEffect.read CompiledEffect.Denotes where
  iff {value effect} := by
    cases value with
    | object members =>
      simp only [CompiledEffect.read, Checked.seq_eq_valid_iff, Checked.map_eq_valid_iff,
        exact_effectKind.required_iff, exact_compiledInvocation.nullable.optional_iff,
        CompiledExpression.exact_read.list.optional_iff,
        CompiledExpression.exact_read.nullable.optional_iff]
      constructor
      · rintro ⟨_, _, ⟨_, _, ⟨_, _, ⟨_, typed, rfl⟩, invokes, rfl⟩, constructed, rfl⟩, concludes,
          rfl⟩
        exact .intro typed invokes constructed concludes
      · rintro ⟨typed, invokes, constructed, concludes⟩
        exact ⟨_, _, ⟨_, _, ⟨_, _, ⟨_, typed, rfl⟩, invokes, rfl⟩, constructed, rfl⟩, concludes,
          rfl⟩
    | _ => exact ⟨nofun, nofun⟩

/-- The value stands for a compiled contract. -/
inductive CompiledContract.Denotes : Json → CompiledContract → Prop where
  /-- It has effects, or none if they are left out. -/
  | intro {members : List (String × Json)} {effects : List CompiledEffect}
    (listed : Optional (ListOf CompiledEffect.Denotes) [] (Json.member? members "effects")
      effects) :
    Denotes (.object members) ⟨effects⟩

/-- Compiled contracts are read exactly. -/
theorem CompiledContract.exact_read : Exact CompiledContract.read CompiledContract.Denotes where
  iff {value contract} := by
    cases value with
    | object members =>
      simp only [CompiledContract.read, Checked.map_eq_valid_iff,
        CompiledEffect.exact_read.list.optional_iff]
      constructor
      · rintro ⟨effects, listed, rfl⟩
        exact .intro listed
      · rintro ⟨listed⟩
        exact ⟨_, listed, rfl⟩
    | _ => exact ⟨nofun, nofun⟩

namespace Document

/-- A value is parsed to the compiled contract that it stands for, and if it stands for none it is
refused with the faults of compiled metadata. -/
theorem parseCompiled_iff (value : Json) :
    (∀ contract, parseCompiled value = .ok contract ↔ CompiledContract.Denotes value contract) ∧
      ((∃ contract, CompiledContract.Denotes value contract) ∨
        ∃ faults, parseCompiled value = .error (.malformed .metadata faults)) := by
  refine ⟨fun contract => ?_, ?_⟩
  · rw [parseCompiled, Checked.orRefuse_eq_ok_iff, CompiledContract.exact_read.iff]
  · rw [parseCompiled]
    cases read : CompiledContract.read value with
    | valid contract => exact .inl ⟨contract, CompiledContract.exact_read.iff.mp read⟩
    | invalid faults => exact .inr ⟨faults, rfl⟩

end Document

end KotlinContract
