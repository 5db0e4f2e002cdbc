import KotlinContract.Declaration.Basic
import KotlinContract.Text.Line

/-!
# Source of a declaration

The header of a function and its indented body. Up to two parameters stand on one line; more
stand on a line each. A result of the unit type is not written.
-/
namespace KotlinContract

/-- The source text of a parameter. -/
def Parameter.source (parameter : Parameter) : String :=
  Modifier.text parameter.modifiers ++ parameter.name ++ ": " ++ parameter.type.render

namespace Declaration

/-- The most parameters that stand on one line. -/
def mostOnOneLine : Nat := 2

/-- The receiver with the point after it. A function type that is not nullable stands in
parentheses. -/
def receiverText : Option TypeName → String
  | none => ""
  | some receiver =>
    (if receiver.isFunction && !receiver.nullable then TypeName.parenthesized receiver.render
      else receiver.render) ++ "."

/-- The parameter list with its parentheses. -/
def parameterText (parameters : List Parameter) : String :=
  let sources := parameters.map Parameter.source
  if mostOnOneLine < sources.length then
    "(\n" ++ Text.indentBlock (Text.join ",\n" sources) ++ "\n)"
  else TypeName.parenthesized (Text.join ", " sources)

/-- The result type with the colon before it. -/
def returnsText : Option TypeName → String
  | none => ""
  | some type => if type = TypeName.unit then "" else ": " ++ type.render

/-- The source text up to the opening brace and the end of its line. -/
def header (function : Declaration) : String :=
  Modifier.text function.modifiers ++ "fun " ++ receiverText function.receiver ++
    function.name ++ parameterText function.parameters ++ returnsText function.returns ++
    " \x7b\n"

/-- The source text of a declaration. -/
def source (function : Declaration) : String :=
  function.header ++ Text.indentBlock function.code ++ "\x7d\n"

end Declaration

end KotlinContract
