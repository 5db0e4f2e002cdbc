import KotlinContract.Proofs.Document.Reading
import KotlinContract.Proofs.Schema.Alike
import Mathlib.Logic.Relation

/-!
# Spellings of documents

A document may be written in more than one way. The objects in it that are not types ignore keys
that they do not know, and an expression has two keys for each list of joined expressions. A
`Respelling` is one change of this kind to an object, or to one inside it at any depth. It keeps what
is read (`Respelling.sameValue`), and so documents that are respelled any number of times, in either
direction, are parsed to the same function and the same contract
(`Document.parse_iff_of_respelled`).
-/
namespace KotlinContract

open Schema Schema.Checked

/-- The objects of documents that ignore keys that they do not know. -/
inductive DocumentNode where
  /-- A document itself. -/
  | document
  /-- A function. -/
  | function
  /-- A parameter. -/
  | parameter
  /-- A contract. -/
  | contract
  /-- An effect. -/
  | effect
  /-- An expression. -/
  | expression

/-- What is under a key of a node. -/
inductive Content where
  /-- No nodes. -/
  | other
  /-- A node, or null. -/
  | one (node : DocumentNode)
  /-- A list of nodes. -/
  | many (node : DocumentNode)

namespace DocumentNode

/-- The keys that are known. -/
def keys : DocumentNode → List String
  | .document => ["function", "contract", Document.metadataKey]
  | .function => ["name", "modifiers", "receiver", "returns", "parameters", "body"]
  | .parameter => ["name", "type", "modifiers"]
  | .contract => ["effects"]
  | .effect => ["type", "calls", "invocation_kind", "constructor_arguments", "conclusion"]
  | .expression => ["parameter_index", "negated", "null_check", "constant_value", "instance_type",
      "and", "and_arguments", "or", "or_arguments"]

/-- What is under the keys that are known. -/
def content : DocumentNode → String → Content
  | .document, "function" => .one .function
  | .document, "contract" => .one .contract
  | .function, "parameters" => .many .parameter
  | .contract, "effects" => .many .effect
  | .effect, "constructor_arguments" => .many .expression
  | .effect, "conclusion" => .one .expression
  | .expression, "and" => .many .expression
  | .expression, "and_arguments" => .many .expression
  | .expression, "or" => .many .expression
  | .expression, "or_arguments" => .many .expression
  | _, _ => .other

/-- What is read from a node. -/
def Form : DocumentNode → Type
  | .document => Document
  | .function => FunctionForm
  | .parameter => ParameterForm
  | .contract => ContractForm
  | .effect => EffectForm
  | .expression => ExpressionForm

/-- The reading of a node. -/
def read : (node : DocumentNode) → Json → Checked node.Form
  | .document => Document.read
  | .function => FunctionForm.read
  | .parameter => ParameterForm.read
  | .contract => ContractForm.read
  | .effect => EffectForm.read
  | .expression => ExpressionForm.read

end DocumentNode

/-- The short and the long key for each list of joined expressions. -/
def ExpressionForm.spellings : List (String × String) :=
  [("and", "and_arguments"), ("or", "or_arguments")]

/-- One change to the spelling of a node. -/
inductive Respelling : DocumentNode → Json → Json → Prop where
  /-- A key that is not known is put anywhere. -/
  | added {node : DocumentNode} {before after : List (String × Json)} {key : String} {value : Json}
    (unknown : key ∉ node.keys) :
    Respelling node (.object (before ++ after)) (.object (before ++ (key, value) :: after))
  /-- The members are put into another order, which does not change what is found. -/
  | reordered {node : DocumentNode} {left right : List (String × Json)}
    (found : ∀ key, Json.member? left key = Json.member? right key) :
    Respelling node (.object left) (.object right)
  /-- Joined expressions are put under the long key, if they are under the short one only. -/
  | renamed {before after : List (String × Json)} {short long : String} {value : Json}
    (spelling : (short, long) ∈ ExpressionForm.spellings)
    (sole : ∀ member ∈ before ++ after, member.1 ≠ short ∧ member.1 ≠ long) :
    Respelling .expression (.object (before ++ (short, value) :: after))
      (.object (before ++ (long, value) :: after))
  /-- Any value is put under the long key, if the short one is there. -/
  | shadowed {before after : List (String × Json)} {short long : String} {value : Json}
    (spelling : (short, long) ∈ ExpressionForm.spellings)
    (present : short ∈ (before ++ after).map (·.1)) :
    Respelling .expression (.object (before ++ after)) (.object (before ++ (long, value) :: after))
  /-- A node inside is respelled. -/
  | one {node inner : DocumentNode} {before after : List (String × Json)} {key : String}
    {value value' : Json} (content : node.content key = .one inner)
    (changed : Respelling inner value value') :
    Respelling node (.object (before ++ (key, value) :: after))
      (.object (before ++ (key, value') :: after))
  /-- A node of a list inside is respelled. -/
  | item {node inner : DocumentNode} {before after : List (String × Json)} {key : String}
    {front back : List Json} {value value' : Json} (content : node.content key = .many inner)
    (changed : Respelling inner value value') :
    Respelling node (.object (before ++ (key, .array (front ++ value :: back)) :: after))
      (.object (before ++ (key, .array (front ++ value' :: back)) :: after))

/-- What is under a key comes to the same in the way in which it is read there. -/
def Content.Alike : Content → Json → Json → Prop
  | .other => Eq
  | .one node => fun left right =>
    (left = .null ↔ right = .null) ∧ SameValue (node.read left) (node.read right)
  | .many node => fun left right => SameValue (list node.read left) (list node.read right)

namespace Content

/-- What is under a key comes to the same as itself. -/
theorem alike_refl (content : Content) (value : Json) : content.Alike value value := by
  cases content with
  | other => rfl
  | one node => exact ⟨.rfl, SameValue.refl _⟩
  | many node => exact SameValue.refl _

/-- What is found under a key comes to the same as itself. -/
theorem rel_alike_refl (content : Content) (found : Option Json) :
    Option.Rel content.Alike found found := by
  cases found with
  | none => exact .none
  | some value => exact .some (content.alike_refl value)

variable {left right : Option Json}

/-- What holds no nodes is the same. -/
theorem eq_of_rel_alike (alike : Option.Rel (Alike .other) left right) : left = right := by
  cases alike with
  | none => rfl
  | some same => exact congrArg some same

/-- A node that may be null is read alike. -/
theorem readAlike_nullable {node : DocumentNode}
    (alike : Option.Rel (Alike (.one node)) left right) :
    ReadAlike (nullable node.read) left right := by
  cases alike with
  | none => exact .none
  | some same => exact .some (sameValue_nullable same.1 same.2)

/-- A node is read alike. -/
theorem readAlike {node : DocumentNode} (alike : Option.Rel (Alike (.one node)) left right) :
    ReadAlike node.read left right := by
  cases alike with
  | none => exact .none
  | some same => exact .some same.2

/-- A list of nodes is read alike. -/
theorem readAlike_list {node : DocumentNode} (alike : Option.Rel (Alike (.many node)) left right) :
    ReadAlike (list node.read) left right := by
  cases alike with
  | none => exact .none
  | some same => exact .some same

end Content

namespace ExpressionForm

/-- Expressions from a position on are read one by one. -/
theorem readItems_eq_items (position : Nat) (values : List Json) :
    readItems position values = items read position values := by
  induction values generalizing position with
  | nil => rfl
  | cons value rest hypothesis => rw [readItems, items, hypothesis]

/-- A list of expressions is read item by item. -/
theorem readList_eq_list : readList = list read := by
  funext value
  cases value with
  | array values => exact readItems_eq_items 0 values
  | _ => rfl

/-- What is under a key is read if it is found. -/
theorem readUnder_eq_map (key : String) (members : List (String × Json)) :
    readUnder key members = (Json.member? members key).map (list read) := by
  induction members with
  | nil => rfl
  | cons first rest hypothesis =>
    obtain ⟨name, value⟩ := first
    rw [readUnder, Json.member?_cons, hypothesis, readList_eq_list]
    split <;> rfl

/-- The joined expressions among the members of an object. -/
def joinedAmong (members : List (String × Json)) (spelling : String × String) :
    Checked (List ExpressionForm) :=
  joined spelling.1 spelling.2 ((Json.member? members spelling.1).map (list read))
    ((Json.member? members spelling.2).map (list read))

variable {left right : List (String × Json)} {short long : String}

/-- Joined expressions come to the same if what is under both keys does. -/
theorem sameValue_joinedAmong
    (shorts : ReadAlike (list read) (Json.member? left short) (Json.member? right short))
    (longs : ReadAlike (list read) (Json.member? left long) (Json.member? right long)) :
    SameValue (joinedAmong left (short, long)) (joinedAmong right (short, long)) := by
  simp only [joinedAmong]
  generalize Json.member? left short = found, Json.member? right short = found' at shorts
  cases shorts with
  | some same => exact same.under _ _
  | none =>
    generalize Json.member? left long = other, Json.member? right long = other' at longs
    cases longs with
    | some same => exact same.under _ _
    | none => exact SameValue.refl _

/-- Joined expressions come to the same under the other key, if each key stands alone. -/
theorem sameValue_joinedAmong_of_renamed {value : Json}
    (short_left : Json.member? left short = some value)
    (short_right : Json.member? right short = none)
    (long_right : Json.member? right long = some value) :
    SameValue (joinedAmong left (short, long)) (joinedAmong right (short, long)) := by
  simp only [joinedAmong, short_left, short_right, long_right]
  exact (SameValue.refl _).under _ _

/-- The short key decides if it is there. -/
theorem sameValue_joinedAmong_of_shadowed {value : Json}
    (short_left : Json.member? left short = some value)
    (short_right : Json.member? right short = some value) :
    SameValue (joinedAmong left (short, long)) (joinedAmong right (short, long)) := by
  simp only [joinedAmong, short_left, short_right]
  exact SameValue.refl _

/-- The keys of an expression besides those of joined expressions. -/
def ownKeys : List String :=
  ["parameter_index", "negated", "null_check", "constant_value", "instance_type"]

/-- Expressions come to the same if their joined expressions do and the other members are the
same. -/
theorem sameValue_read (others : ∀ key ∈ ownKeys, Json.member? left key = Json.member? right key)
    (lists : ∀ spelling ∈ spellings,
      SameValue (joinedAmong left spelling) (joinedAmong right spelling)) :
    SameValue (read (.object left)) (read (.object right)) := by
  simp only [List.forall_mem_cons, ownKeys, spellings] at others lists
  obtain ⟨index, negated, nullCheck, constant, instanceType, -⟩ := others
  obtain ⟨conjuncts, disjuncts, -⟩ := lists
  simp only [read, readUnder_eq_map, Schema.optional, index, negated, nullCheck, constant,
    instanceType]
  exact (SameValue.seq (SameValue.refl _) conjuncts).seq disjuncts

end ExpressionForm

/-- Nodes come to the same if what is under each known key does. -/
theorem DocumentNode.sameValue_read {node : DocumentNode} {left right : List (String × Json)}
    (alike : ∀ key ∈ node.keys,
      Option.Rel (node.content key).Alike (Json.member? left key) (Json.member? right key)) :
    SameValue (node.read (.object left)) (node.read (.object right)) := by
  cases node <;> simp only [keys, List.forall_mem_cons] at alike
  case document =>
    obtain ⟨function, contract, -⟩ := alike
    exact ((Content.readAlike function).required.map _).seq (Content.readAlike contract).required
  case function =>
    obtain ⟨name, modifiers, receiver, returns, parameters, body, -⟩ := alike
    simp only [read, FunctionForm.read, Schema.required, Schema.optional,
      Content.eq_of_rel_alike name, Content.eq_of_rel_alike modifiers,
      Content.eq_of_rel_alike receiver, Content.eq_of_rel_alike returns,
      Content.eq_of_rel_alike body]
    exact (SameValue.seq (SameValue.refl _) ((Content.readAlike_list parameters).optional [])).seq
      (SameValue.refl _)
  case parameter =>
    obtain ⟨name, type, modifiers, -⟩ := alike
    simp only [read, ParameterForm.read, Schema.required, Schema.optional,
      Content.eq_of_rel_alike name, Content.eq_of_rel_alike type,
      Content.eq_of_rel_alike modifiers]
    exact SameValue.refl _
  case contract =>
    exact ((Content.readAlike_list alike.1).optional []).map _
  case effect =>
    obtain ⟨kind, calls, invocation, arguments, conclusion, -⟩ := alike
    simp only [read, EffectForm.read, Schema.optional, Content.eq_of_rel_alike kind,
      Content.eq_of_rel_alike calls, Content.eq_of_rel_alike invocation]
    exact ((SameValue.refl _).seq ((Content.readAlike_list arguments).optional [])).seq
      ((Content.readAlike_nullable conclusion).optional none)
  case expression =>
    obtain ⟨index, negated, nullCheck, constant, instanceType, and, and', or, or', -⟩ := alike
    refine ExpressionForm.sameValue_read ?_ ?_
    · simp only [ExpressionForm.ownKeys, List.forall_mem_cons]
      exact ⟨Content.eq_of_rel_alike index, Content.eq_of_rel_alike negated,
        Content.eq_of_rel_alike nullCheck, Content.eq_of_rel_alike constant,
        Content.eq_of_rel_alike instanceType, List.forall_mem_nil _⟩
    · simp only [ExpressionForm.spellings, List.forall_mem_cons]
      exact ⟨ExpressionForm.sameValue_joinedAmong (Content.readAlike_list and)
          (Content.readAlike_list and'),
        ExpressionForm.sameValue_joinedAmong (Content.readAlike_list or)
          (Content.readAlike_list or'), List.forall_mem_nil _⟩

/-- Where one of the members comes to the same, what is found does under every key. -/
theorem Content.rel_alike_between {contents : String → Content} {key : String} {value value' : Json}
    (same : (contents key).Alike value value') (before after : List (String × Json))
    (name : String) :
    Option.Rel (contents name).Alike (Json.member? (before ++ (key, value) :: after) name)
      (Json.member? (before ++ (key, value') :: after) name) := by
  rw [Json.member?_between, Json.member?_between]
  cases Json.member? before name with
  | some earlier => exact rel_alike_refl _ (some earlier)
  | none =>
    by_cases here : key = name
    · subst here
      rw [if_pos rfl, if_pos rfl]
      exact .some same
    · rw [if_neg here, if_neg here]
      exact rel_alike_refl _ _

namespace ExpressionForm

variable {before after : List (String × Json)}

/-- Expressions come to the same if one of their lists does and what is found under all keys but its
own is the same. -/
theorem sameValue_read_of_spelling {left right : List (String × Json)} {short long : String}
    (spelling : (short, long) ∈ spellings)
    (elsewhere : ∀ key, short ≠ key → long ≠ key → Json.member? left key = Json.member? right key)
    (here : SameValue (joinedAmong left (short, long)) (joinedAmong right (short, long))) :
    SameValue (read (.object left)) (read (.object right)) := by
  have own : ∀ spelling ∈ spellings, ∀ key ∈ ownKeys, spelling.1 ≠ key ∧ spelling.2 ≠ key := by
    decide
  have apart : ∀ spelling ∈ spellings, ∀ second ∈ spellings, second = spelling ∨
      (∀ key ∈ [second.1, second.2], spelling.1 ≠ key ∧ spelling.2 ≠ key) := by
    decide
  refine sameValue_read (fun key among => ?_) fun second among => ?_
  · obtain ⟨short_ne, long_ne⟩ := own _ spelling key among
    exact elsewhere key short_ne long_ne
  · obtain rfl | differ := apart _ spelling second among
    · exact here
    · simp only [List.forall_mem_cons] at differ
      obtain ⟨⟨short_ne, long_ne⟩, ⟨short_ne', long_ne'⟩, -⟩ := differ
      simp only [joinedAmong, elsewhere _ short_ne long_ne, elsewhere _ short_ne' long_ne']
      exact SameValue.refl _

/-- The two keys of a list differ. -/
theorem ne_of_mem_spellings {short long : String} (spelling : (short, long) ∈ spellings) :
    short ≠ long := by
  have all : ∀ spelling ∈ spellings, spelling.1 ≠ spelling.2 := by decide
  exact all _ spelling

/-- A list comes to the same under its other key, where it has only one. -/
theorem sameValue_read_of_renamed {short long : String} (value : Json)
    (spelling : (short, long) ∈ spellings)
    (sole : ∀ member ∈ before ++ after, member.1 ≠ short ∧ member.1 ≠ long) :
    SameValue (read (.object (before ++ (short, value) :: after)))
      (read (.object (before ++ (long, value) :: after))) := by
  have differ := ne_of_mem_spellings spelling
  have found {key : String} (alone : ∀ member ∈ before ++ after, member.1 ≠ key) :
      Json.member? (before ++ (key, value) :: after) key = some value := by
    rw [Json.member?_between, if_pos rfl, Json.member?_eq_none, Option.none_or]
    exact fun member among => alone member (List.mem_append_left after among)
  have short_left := found fun member among => (sole member among).1
  have long_right := found fun member among => (sole member among).2
  have short_right : Json.member? (before ++ (long, value) :: after) short = none := by
    rw [Json.member?_between_of_ne value differ.symm]
    exact Json.member?_eq_none fun member among => (sole member among).1
  refine sameValue_read_of_spelling spelling (fun key short_ne long_ne => ?_)
    (sameValue_joinedAmong_of_renamed short_left short_right long_right)
  rw [Json.member?_between_of_ne value short_ne, Json.member?_between_of_ne value long_ne]

/-- What is under the long key does not matter, where the short one is there. -/
theorem sameValue_read_of_shadowed {short long : String} (value : Json)
    (spelling : (short, long) ∈ spellings) (present : short ∈ (before ++ after).map (·.1)) :
    SameValue (read (.object (before ++ after)))
      (read (.object (before ++ (long, value) :: after))) := by
  obtain ⟨decisive, found⟩ := Json.exists_member?_eq_some present
  have same {key : String} (other : long ≠ key) :
      Json.member? (before ++ (long, value) :: after) key = Json.member? (before ++ after) key :=
    Json.member?_between_of_ne value other
  refine sameValue_read_of_spelling spelling (fun key _ long_ne => (same long_ne).symm) ?_
  refine sameValue_joinedAmong_of_shadowed found ?_
  rw [same (ne_of_mem_spellings spelling).symm, found]

end ExpressionForm

namespace Respelling

variable {node : DocumentNode} {left right : Json}

/-- What is respelled is an object before and after. -/
theorem ne_null (changed : Respelling node left right) : left ≠ .null ∧ right ≠ .null := by
  cases changed <;> exact ⟨nofun, nofun⟩

/-- What is read from a node that is respelled comes to the same. -/
theorem sameValue (changed : Respelling node left right) :
    SameValue (node.read left) (node.read right) := by
  induction changed with
  | @added node before after key value unknown =>
    refine DocumentNode.sameValue_read fun name known => ?_
    have other : key ≠ name := fun same => unknown (same ▸ known)
    rw [Json.member?_between_of_ne value other]
    exact Content.rel_alike_refl _ _
  | reordered found =>
    refine DocumentNode.sameValue_read fun name _ => ?_
    rw [found name]
    exact Content.rel_alike_refl _ _
  | renamed spelling sole => exact ExpressionForm.sameValue_read_of_renamed _ spelling sole
  | shadowed spelling present => exact ExpressionForm.sameValue_read_of_shadowed _ spelling present
  | one content changed hypothesis =>
    refine DocumentNode.sameValue_read fun name _ => Content.rel_alike_between ?_ _ _ name
    rw [content]
    exact ⟨iff_of_false changed.ne_null.1 changed.ne_null.2, hypothesis⟩
  | @item node inner before after key front back value value' content _ hypothesis =>
    refine DocumentNode.sameValue_read fun name _ => Content.rel_alike_between ?_ _ _ name
    rw [content]
    refine sameValue_list ?_
    have rest (values : List Json) : List.Forall₂
        (fun value value' => SameValue (inner.read value) (inner.read value')) values values :=
      List.forall₂_same.mpr fun value _ => SameValue.refl _
    exact List.rel_append (rest front) (.cons hypothesis (rest back))

/-- Metadata stay what they are, or stay away. -/
theorem member?_metadataKey (changed : Respelling .document left right) :
    Json.member? left.members Document.metadataKey =
      Json.member? right.members Document.metadataKey := by
  have kept {before after : List (String × Json)} {key : String} (value : Json)
      (other : key ≠ Document.metadataKey) :
      Json.member? (before ++ (key, value) :: after) Document.metadataKey =
        Json.member? (before ++ after) Document.metadataKey :=
    Json.member?_between_of_ne value other
  have holding {key : String} (content : DocumentNode.content .document key ≠ .other) :
      key ≠ Document.metadataKey := by
    rintro rfl
    exact content rfl
  cases changed with
  | added unknown =>
    refine (kept _ ?_).symm
    rintro rfl
    exact unknown (by decide)
  | reordered found => exact found _
  | one content =>
    have other := holding (by rw [content]; exact nofun)
    exact (kept _ other).trans (kept _ other).symm
  | item content =>
    have other := holding (by rw [content]; exact nofun)
    exact (kept _ other).trans (kept _ other).symm

end Respelling

namespace Document

/-- Documents without metadata that are respelled, any number of times and in either direction, are
parsed to the same function and the same contract, or are both refused. -/
theorem parse_iff_of_respelled {left right : Json}
    (absent : Json.member? left.members metadataKey = none)
    (respelled : Relation.EqvGen (Respelling .document) left right)
    (result : Declaration × Contract) :
    parse left = .ok result ↔ parse right = .ok result := by
  have alike : Json.member? left.members metadataKey = Json.member? right.members metadataKey ∧
      SameValue (Document.read left) (Document.read right) := by
    clear absent
    induction respelled with
    | rel left right changed => exact ⟨changed.member?_metadataKey, changed.sameValue⟩
    | refl value => exact ⟨rfl, SameValue.refl _⟩
    | symm left right _ hypothesis => exact ⟨hypothesis.1.symm, hypothesis.2.symm⟩
    | trans left middle right _ _ first second =>
      exact ⟨first.1.trans second.1, first.2.trans second.2⟩
  have absent' := alike.1.symm.trans absent
  rw [parse_eq_ok_iff_of_none absent, parse_eq_ok_iff_of_none absent']
  simp only [alike.2 _]

/-- The members of an expression that compares the first parameter with null. -/
def comparing : List (String × Json) :=
  [("parameter_index", .integer 1), ("null_check", .boolean true)]

/-- A document with one effect, whose conclusion has the given members. -/
def concluding (conclusion : List (String × Json)) : Json :=
  .object [("function", .object [("name", .text "f"),
      ("parameters", .array [.object [("name", .text "x"), ("type", .text "Any?")]])]),
    ("contract", .object [("effects", .array [.object [("type", .text "RETURNS_CONSTANT"),
      ("conclusion", .object conclusion)]])])]

/-- Where its conclusion is respelled, the document is. -/
theorem respelling_concluding {left right : List (String × Json)}
    (changed : Respelling .expression (.object left) (.object right)) :
    Respelling .document (concluding left) (concluding right) := by
  have effect := @Respelling.one .effect .expression [("type", .text "RETURNS_CONSTANT")] []
    "conclusion" _ _ rfl changed
  have contract := @Respelling.item .contract .effect [] [] "effects" [] [] _ _ rfl effect
  exact @Respelling.one .document .contract [_] [] "contract" _ _ rfl contract

/-- A document with a joined conclusion is parsed, and parsed alike with the long key and a note in
its conclusion. -/
theorem parse_iff_of_respelled_conclusion :
    (∃ result, parse (concluding (comparing ++ [("and", .array [.object comparing])])) =
      .ok result) ∧
    ∀ result, parse (concluding (comparing ++ [("and", .array [.object comparing])])) =
        .ok result ↔
      parse (concluding (("note", .null) :: comparing ++
        [("and_arguments", .array [.object comparing])])) = .ok result := by
  have renamed := @Respelling.renamed comparing [] "and" "and_arguments"
    (.array [.object comparing]) (by decide) (by decide)
  have noted := @Respelling.added .expression []
    (comparing ++ [("and_arguments", .array [.object comparing])]) "note" .null (by decide)
  have respelled : Relation.EqvGen (Respelling .document) _ _ :=
    .trans _ _ _ (.rel _ _ (respelling_concluding renamed)) (.rel _ _ (respelling_concluding noted))
  exact ⟨⟨_, rfl⟩, parse_iff_of_respelled rfl respelled⟩

end Document

end KotlinContract
