import KotlinContract.Ascending
import KotlinContract.Error
import KotlinContract.Modifier

/-!
# Function declarations

A declaration has a name, parameters, modifiers, possibly a receiver and a result type, and a
body of code fragments that are written one after the other. Declarations are assembled in a
draft; building it refuses two parameters of one name and arranges the modifiers.
-/
namespace KotlinContract

/-- A parameter of a function. -/
structure Parameter where
  /-- Its name. -/
  name : String
  /-- Its type. -/
  type : TypeName
  /-- Its modifiers. -/
  modifiers : List Modifier
  /-- A parameter has a name. -/
  named : name ≠ ""
  deriving DecidableEq

/-- A parameter with its modifiers arranged. -/
def Parameter.create (name : String) (type : TypeName) (modifiers : List Modifier) :
    Except Error Parameter :=
  if named : name = "" then .error .unnamedParameter
  else .ok ⟨name, type, Modifier.arranged modifiers, named⟩

/-- A function declaration. -/
structure Declaration where
  /-- Its name. -/
  name : String
  /-- Its parameters. -/
  parameters : List Parameter
  /-- Its modifiers. -/
  modifiers : List Modifier
  /-- The type of its receiver. -/
  receiver : Option TypeName
  /-- The type of its result. -/
  returns : Option TypeName
  /-- The fragments of its body, each written as it is. -/
  body : List String
  deriving DecidableEq

namespace Declaration

/-- Whether the function is inlined. -/
def isInline (function : Declaration) : Bool := Modifier.inlined ∈ function.modifiers

/-- The whole body. -/
def code (function : Declaration) : String := Text.join "" function.body

/-- The parameter of a name, if there is one. -/
def parameter? (function : Declaration) (name : String) : Option Parameter :=
  function.parameters.find? (·.name = name)

/-- A declaration in the making. -/
structure Draft where
  /-- Its name. -/
  name : String
  /-- The parameters so far. -/
  parameters : List Parameter := []
  /-- The modifiers so far, as they were added. -/
  modifiers : List Modifier := []
  /-- The type of its receiver. -/
  receiver : Option TypeName := none
  /-- The type of its result. -/
  returns : Option TypeName := none
  /-- The fragments so far. -/
  body : List String := []
  deriving DecidableEq

/-- The draft that a declaration can be built from again. -/
def toDraft (function : Declaration) : Draft where
  name := function.name
  parameters := function.parameters
  modifiers := function.modifiers
  receiver := function.receiver
  returns := function.returns
  body := function.body

namespace Draft

/-- Add modifiers. -/
def addModifiers (draft : Draft) (modifiers : List Modifier) : Draft :=
  { draft with modifiers := draft.modifiers ++ modifiers }

/-- Add parameters. -/
def addParameters (draft : Draft) (parameters : List Parameter) : Draft :=
  { draft with parameters := draft.parameters ++ parameters }

/-- Set or remove the receiver. -/
def setReceiver (draft : Draft) (receiver : Option TypeName) : Draft :=
  { draft with receiver }

/-- Set or remove the result type. -/
def setReturns (draft : Draft) (returns : Option TypeName) : Draft := { draft with returns }

/-- Add a fragment to the body, unless it is empty. -/
def addCode (draft : Draft) (code : String) : Draft :=
  if code = "" then draft else { draft with body := draft.body ++ [code] }

/-- Add a fragment and a line feed to the body. -/
def addStatement (draft : Draft) (statement : String) : Draft :=
  draft.addCode (statement ++ "\n")

/-- The names that several parameters have, in ascending order. -/
def duplicateNames (draft : Draft) : List String :=
  let names := draft.parameters.map Parameter.name
  Ascending.ofList (names.filter (1 < names.count ·))

/-- The declaration, unless two parameters have one name. -/
def build (draft : Draft) : Except Error Declaration :=
  match draft.duplicateNames with
  | [] =>
    .ok
      { name := draft.name
        parameters := draft.parameters
        modifiers := Modifier.arranged draft.modifiers
        receiver := draft.receiver
        returns := draft.returns
        body := draft.body }
  | names => .error (.duplicateParameters names)

end Draft

end Declaration

end KotlinContract
