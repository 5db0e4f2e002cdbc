import KotlinContract.Effect.Kind
import KotlinContract.Literal

/-!
# Compiled contracts

Contracts as compiled metadata stores them. The truth values of an expression are bits of one
number, which may be negative or of any size; negative numbers have the bits of their two's
complement.
-/
namespace KotlinContract

/-- What a compiled type names. -/
inductive Classifier where
  /-- A class, with slashes between packages. -/
  | classNamed (name : String)
  /-- A type parameter by its number. -/
  | typeParameter (id : Int)
  /-- A type alias. -/
  | typeAlias (name : String)
  deriving DecidableEq

/-- A compiled type. -/
structure CompiledType where
  /-- What it names. -/
  classifier : Classifier
  /-- Whether it is nullable. -/
  nullable : Bool
  deriving DecidableEq

/-- A compiled expression. -/
structure CompiledExpression where
  /-- The truth values, as bits. -/
  flags : Int
  /-- The parameter that is spoken about. -/
  index : Option Int
  /-- The constant. -/
  constant : Option Literal
  /-- The type that the parameter is tested for. -/
  instanceType : Option CompiledType
  /-- The expressions joined by a conjunction. -/
  conjuncts : List CompiledExpression
  /-- The expressions joined by a disjunction. -/
  disjuncts : List CompiledExpression

/-- A compiled effect. -/
structure CompiledEffect where
  /-- What the effect is about. -/
  kind : EffectKind
  /-- How often a parameter is called. -/
  invocation : Option InvocationKind
  /-- The expressions in the parentheses of the effect. -/
  arguments : List CompiledExpression
  /-- What is implied. -/
  conclusion : Option CompiledExpression

/-- A compiled contract. -/
structure CompiledContract where
  /-- Its effects. -/
  effects : List CompiledEffect

namespace CompiledExpression

/-- Whether the opposite is meant: the lowest bit. -/
def negated (expression : CompiledExpression) : Bool := expression.flags % 2 == 1

/-- Whether the parameter is compared with null: the second lowest bit. -/
def nullCheck (expression : CompiledExpression) : Bool := expression.flags / 2 % 2 == 1

end CompiledExpression

end KotlinContract
