import KotlinContract.Contract.Attachment
import KotlinContract.Fingerprint
import KotlinContract.Json.Writer

/-!
# Reports

A report lists functions with their contracts in the order in which they were added. An entry
holds the contract as a whole and effect by effect, the source, and their digests. Adding a
contract that cannot be rendered for its function leaves the report as it is.
-/
namespace KotlinContract

/-- The name and version of the program. -/
def rendererVersion : String := "contractpoet-0.1.0"

/-- The version alone. -/
def version : String := "0.1.0"

namespace Report

/-- A function and its contract in a report. -/
structure Entry where
  /-- The name of the function. -/
  name : String
  /-- The names of its parameters. -/
  parameters : List String
  /-- The keywords of its modifiers. -/
  modifiers : List String
  /-- The texts of the effects. -/
  effects : List String
  /-- The text of the contract. -/
  contract : String
  /-- The source of the function with its contract. -/
  source : String
  deriving DecidableEq

namespace Entry

/-- The digests of an entry. -/
def fingerprint (entry : Entry) : Fingerprint := .ofTexts entry.contract entry.source

/-- Texts as a JSON value. -/
def texts (values : List String) : Json := .array (values.map .text)

/-- The entry as a JSON value. -/
def toJson (entry : Entry) : Json :=
  .object
    [("function", .object
        [("name", .text entry.name), ("parameters", texts entry.parameters),
          ("modifiers", texts entry.modifiers)]),
      ("contract", .object [("effects", texts entry.effects), ("text", .text entry.contract)]),
      ("source", .text entry.source),
      (Fingerprint.key, entry.fingerprint.toJson)]

/-- The entry for a function and its contract, with the source that holds both. -/
def create (function : Declaration) (contract : Contract) (source : String) :
    Except Error Entry := do
  let text ← contract.render function
  let effects ← contract.effects.mapM (·.render function)
  return {
    name := function.name
    parameters := function.parameters.map Parameter.name
    modifiers := function.modifiers.map Modifier.keyword
    effects
    contract := text
    source }

end Entry

end Report

/-- A report about the functions of a document file. -/
structure Report where
  /-- The path of the document file. -/
  sourceFile : String
  /-- The entries so far. -/
  entries : List Report.Entry := []
  deriving DecidableEq

namespace Report

/-- Add a function and its contract. -/
def add (report : Report) (function : Declaration) (contract : Contract) (source : String) :
    Except Error Report := do
  let entry ← Entry.create function contract source
  return { report with entries := report.entries ++ [entry] }

/-- How many effects the contracts of the report have together. -/
def totalEffects (report : Report) : Nat := (report.entries.flatMap Entry.effects).length

/-- A text that may be missing as a JSON value. -/
def optionalText (value : Option String) : Json := value.elim .null .text

/-- The report as a JSON value, with the time it was made at and the digest of the document
file if it could be read. -/
def toJson (report : Report) (time : String) (digest : Option String) : Json :=
  .object
    [("schema_version", .text "1.0.0"),
      ("metadata", .object
        [("timestamp", .text time), ("source_file", .text report.sourceFile),
          ("source_file_hash", optionalText digest),
          ("renderer_version", .text rendererVersion)]),
      ("summary", .object
        [("total_functions", .integer report.entries.length),
          ("total_effects", .integer report.totalEffects)]),
      ("results", .array (report.entries.map Entry.toJson))]

/-- The text of a report. -/
def text (report : Report) (layout : Json.Layout) (time : String) (digest : Option String) :
    String :=
  (report.toJson time digest).render layout

end Report

end KotlinContract
