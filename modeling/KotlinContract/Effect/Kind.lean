/-!
# Kinds of effects and of invocations

The words for both are part of documents and of rendered contracts.
-/
namespace KotlinContract

/-- What an effect is about. -/
inductive EffectKind where
  /-- The function returns, possibly with a given value. -/
  | returns
  /-- The function calls one of its parameters. -/
  | calls
  /-- The function returns a value other than null. -/
  | returnsNotNull
  deriving DecidableEq

/-- How often a function calls one of its parameters. -/
inductive InvocationKind where
  /-- Once or never. -/
  | atMostOnce
  /-- Once or more often. -/
  | atLeastOnce
  /-- Once. -/
  | exactlyOnce
  /-- Any number of times. -/
  | unknown
  deriving DecidableEq

namespace EffectKind

/-- All kinds of effects. -/
def all : List EffectKind := [.returns, .calls, .returnsNotNull]

/-- The word for a kind of effect in documents. -/
def word : EffectKind → String
  | .returns => "RETURNS_CONSTANT"
  | .calls => "CALLS"
  | .returnsNotNull => "RETURNS_NOT_NULL"

/-- The kind of effect that a word stands for. -/
def ofWord? (word : String) : Option EffectKind := all.find? (·.word = word)

/-- The keyword of a kind of effect in rendered contracts. -/
def keyword : EffectKind → String
  | .returns => "returns"
  | .calls => "callsInPlace"
  | .returnsNotNull => "returnsNotNull"

/-- The word for a kind of effect stands for it. -/
theorem ofWord?_word (kind : EffectKind) : ofWord? kind.word = some kind := by
  cases kind <;> decide

end EffectKind

namespace InvocationKind

/-- All kinds of invocations. -/
def all : List InvocationKind := [.atMostOnce, .atLeastOnce, .exactlyOnce, .unknown]

/-- The kinds of invocations that compiled metadata knows. -/
def compiled : List InvocationKind := [.atMostOnce, .exactlyOnce, .atLeastOnce]

/-- The word for a kind of invocation. -/
def word : InvocationKind → String
  | .atMostOnce => "AT_MOST_ONCE"
  | .atLeastOnce => "AT_LEAST_ONCE"
  | .exactlyOnce => "EXACTLY_ONCE"
  | .unknown => "UNKNOWN"

/-- The kind of invocation that a word stands for. -/
def ofWord? (word : String) : Option InvocationKind := all.find? (·.word = word)

/-- The qualified name of a kind of invocation in rendered contracts. -/
def token (kind : InvocationKind) : String := "kotlin.contracts.InvocationKind." ++ kind.word

/-- The word for a kind of invocation stands for it. -/
theorem ofWord?_word (kind : InvocationKind) : ofWord? kind.word = some kind := by
  cases kind <;> decide

end InvocationKind

end KotlinContract
