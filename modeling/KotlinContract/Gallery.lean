import KotlinContract.Contract.Attachment

/-!
# Gallery

Five functions with contracts, one for each kind of effect and expression, and the text that
shows them all.
-/
namespace KotlinContract.Gallery

/-- A function with its contract, under a title. -/
structure Exhibit where
  /-- The title. -/
  title : String
  /-- The function. -/
  function : Except Error Declaration

/-- A parameter of a type, without modifiers. -/
def parameter (name : String) (type : TypeName) : Except Error Parameter :=
  Parameter.create name type []

/-- Attach a contract with a single effect. -/
def attachEffect (draft : Declaration.Draft) (effect : Effect) : Except Error Declaration := do
  let contract ← { effects := [effect] : Contract.Draft }.build
  let function ← draft.build
  function.attach contract

/-- An inline function that calls its parameter exactly once. -/
def callsInPlace : Exhibit where
  title := "Example 1: callsInPlace"
  function := do
    let body ← parameter "body" (.function [.string] (some .string) none false)
    let effect ← Effect.calling body .exactlyOnce
    attachEffect { name := "test", modifiers := [.inlined], parameters := [body] } effect

/-- A result other than null implies an argument other than null. -/
def returnsNotNull : Exhibit where
  title := "Example 2: returnsNotNull"
  function := do
    let param ← parameter "param" (TypeName.string.withNullable true)
    let effect ← Effect.returningNotNull (← Expression.nullCheck 1 true)
    attachEffect
      { name := "test", returns := some (TypeName.unit.withNullable true), parameters := [param] }
      effect

/-- Returning implies that the argument is not of a type. -/
def instanceCheck : Exhibit where
  title := "Example 3: instance check"
  function := do
    let param ← parameter "param" .any
    let effect ← Effect.returning (← Expression.isInstance .string 1 true)
    attachEffect { name := "test", parameters := [param] } effect

/-- Conjuncts are written before disjuncts, whichever was joined first. -/
def joinedExpressions : Exhibit where
  title := "Example 4: and/or"
  function := do
    let params ← ["param1", "param2", "param3"].mapM
      (parameter · (TypeName.string.withNullable true))
    let either ← (← Expression.nullCheck 1 true).or (← Expression.nullCheck 2 true)
    let conclusion ← either.and (← Expression.nullCheck 3 true)
    let effect ← Effect.returning conclusion
    attachEffect { name := "test", parameters := params } effect

/-- A truth value that is the receiver holds. -/
def booleanReceiver : Exhibit where
  title := "Example 5: Boolean receiver"
  function := do
    let effect ← Effect.returning (← Expression.bareConstant (.boolean true))
    attachEffect { name := "test", receiver := some .boolean } effect

/-- All exhibits in order. -/
def exhibits : List Exhibit :=
  [callsInPlace, returnsNotNull, instanceCheck, joinedExpressions, booleanReceiver]

/-- A line across the page. -/
def rule : String := String.ofList (List.replicate 70 '=')

/-- A heading between two lines. -/
def heading (text : String) : String := "\n" ++ rule ++ "\n" ++ text ++ "\n" ++ rule ++ "\n"

/-- The text that shows exhibits from one on, of which some were shown, and whether all could
be shown. -/
def display (shown : Nat) : List Exhibit → String × Bool
  | [] => (heading ("Rendered " ++ toString shown ++ " functions"), true)
  | exhibit :: rest =>
    match exhibit.function with
    | .error error => ("\nError: " ++ error.message ++ "\n", false)
    | .ok function =>
      let (text, complete) := display (shown + 1) rest
      (heading exhibit.title ++ function.source ++ "\n" ++ text, complete)

/-- The text that shows all exhibits. -/
def text : String := (display 0 exhibits).1

/-- The exit code of showing all exhibits. -/
def exitCode : Nat := if (display 0 exhibits).2 then 0 else 1

end KotlinContract.Gallery
