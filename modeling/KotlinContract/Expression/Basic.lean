import KotlinContract.Error
import KotlinContract.Json.Value
import KotlinContract.Literal

/-!
# Expressions

The propositions that contracts are made of. An expression says something about one parameter,
counted from one with zero for the receiver, or is a bare token; further expressions may be
joined to it as conjuncts and disjuncts. A bare token carries a negation and joined expressions
as well, but none of these is part of its text.

The text of an expression depends on nothing but the token that stands for each parameter, so
`text` takes that assignment as an argument; `rendered` lists the parameters that occur in the
text, in the order in which they occur there.
-/
namespace KotlinContract

/-- What is said about a parameter. -/
inductive Test where
  /-- The parameter itself is the proposition. -/
  | holds
  /-- The parameter is null. -/
  | isNull
  /-- The parameter equals a constant. -/
  | equals (token : String)
  /-- The parameter is of a type. -/
  | isInstance (type : TypeName)
  deriving DecidableEq

/-- What an expression says by itself. -/
inductive Proposition where
  /-- A token as it is. -/
  | bare (token : String)
  /-- Something about a parameter. -/
  | about (index : Nat) (test : Test)
  deriving DecidableEq

/-- An expression. -/
structure Expression where
  /-- What it says by itself. -/
  proposition : Proposition
  /-- Whether the opposite is meant. -/
  negated : Bool
  /-- The expressions joined by a conjunction. -/
  conjuncts : List Expression
  /-- The expressions joined by a disjunction. -/
  disjuncts : List Expression
  /-- What the caller attached. -/
  tags : Tags

/-- The text that stands for a parameter where no function is known: a placeholder with its
index, or a reference to the receiver of whatever function it will be. The index has all its digits:
the limit on digits holds for numbers that are read, not for those that are written. -/
def placeholder (index : Nat) : String :=
  if index = 0 then "this@" else "$" ++ toString index

namespace Proposition

/-- The parameter that is spoken about. -/
def index? : Proposition → Option Nat
  | .bare _ => none
  | .about index _ => some index

/-- The comparison with an equal value or, negated, with an unequal one. -/
def equalsText (negated : Bool) : String := if negated then " != " else " == "

/-- The test for a type or, negated, for any other type. -/
def instanceText (negated : Bool) : String := if negated then " !is " else " is "

/-- The text of a proposition. A parameter that is itself the proposition shows no negation,
nor does a bare token. -/
def text (token : Nat → String) (negated : Bool) : Proposition → String
  | .bare constant => constant
  | .about index .holds => token index
  | .about index .isNull => token index ++ equalsText negated ++ nullToken
  | .about index (.equals constant) => token index ++ equalsText negated ++ constant
  | .about index (.isInstance type) => token index ++ instanceText negated ++ type.render

end Proposition

namespace Expression

/-- The parameter that the expression itself speaks about. -/
def index? (expression : Expression) : Option Nat := expression.proposition.index?

/-- What stands between an expression and a conjunct. -/
def conjunction : String := " && "

/-- What stands between an expression and a disjunct. -/
def disjunction : String := " || "

mutual

/-- The text of an expression without the parentheses around it. All conjuncts come before all
disjuncts. -/
def innerText (token : Nat → String) : Expression → String
  | ⟨.bare constant, negated, _, _, _⟩ => Proposition.text token negated (.bare constant)
  | ⟨.about index test, negated, conjuncts, disjuncts, _⟩ =>
    Proposition.text token negated (.about index test) ++
      joinedText token conjunction conjuncts ++ joinedText token disjunction disjuncts

/-- The texts of joined expressions, each in parentheses and with the operator before it. -/
def joinedText (token : Nat → String) (operator : String) : List Expression → String
  | [] => ""
  | expression :: rest =>
    operator ++ TypeName.parenthesized (innerText token expression) ++
      joinedText token operator rest

end

/-- The text of an expression. -/
def text (token : Nat → String) (expression : Expression) : String :=
  TypeName.parenthesized (expression.innerText token)

mutual

/-- The parameters in the text of an expression, in the order in which they occur there. -/
def rendered : Expression → List Nat
  | ⟨.bare _, _, _, _, _⟩ => []
  | ⟨.about index _, _, conjuncts, disjuncts, _⟩ =>
    index :: renderedAll conjuncts ++ renderedAll disjuncts

/-- The parameters in the texts of several expressions. -/
def renderedAll : List Expression → List Nat
  | [] => []
  | expression :: rest => expression.rendered ++ renderedAll rest

end

mutual

/-- The expression and all that are joined to it at any depth. -/
def nodes : Expression → List Expression
  | expression@⟨_, _, conjuncts, disjuncts, _⟩ =>
    expression :: nodesAll conjuncts ++ nodesAll disjuncts

/-- The nodes of several expressions. -/
def nodesAll : List Expression → List Expression
  | [] => []
  | expression :: rest => expression.nodes ++ nodesAll rest

end

/-- The parameters that an expression or any node of it speaks about. -/
def indices (expression : Expression) : List Nat := expression.nodes.filterMap index?

/-- The text of an expression before it is attached to a function. -/
def canonical (expression : Expression) : String := expression.text placeholder

/-- Two expressions are equal if their texts are. -/
instance : BEq Expression := ⟨fun left right => left.canonical == right.canonical⟩

/-- Whether the expression compares a parameter with null. -/
def isNullCheck (expression : Expression) : Bool :=
  match expression.proposition with
  | .about _ .isNull => true
  | _ => false

/-- The constant of the expression. -/
def constant? (expression : Expression) : Option String :=
  match expression.proposition with
  | .bare token => some token
  | .about _ (.equals token) => some token
  | _ => none

/-- The type that the expression tests for. -/
def instanceType? (expression : Expression) : Option TypeName :=
  match expression.proposition with
  | .about _ (.isInstance type) => some type
  | _ => none

end Expression

end KotlinContract
