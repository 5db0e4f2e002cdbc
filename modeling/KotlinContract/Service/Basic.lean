import KotlinContract.Document.Parse
import KotlinContract.Report

/-!
# The render service

What the service answers. A request for rendering or validating is an object with a function
and either a contract or compiled metadata; sections that are null count as not sent. A request
of another form is refused with the faults found in it; every other request is answered, and a
document that cannot be rendered is an answer too.
-/
namespace KotlinContract.Service

open Schema

/-- A request for rendering or validating. -/
structure Request where
  /-- The function. -/
  function : Json
  /-- The contract, if it was sent. -/
  contract : Option Json
  /-- The compiled metadata, if it was sent. -/
  metadata : Option Json

/-- An object of any content. -/
def dictionary : Json → Checked Json
  | .object members => .valid (.object members)
  | _ => .fault .notADictionary

/-- Read a request. -/
def Request.read : Json → Checked Request
  | .object members =>
    Request.mk <$> required dictionary "function" members <*>
      optional (nullable dictionary) none "contract" members <*>
      optional (nullable dictionary) none "metadata" members
  | _ => .fault .notAnObject

/-- A section of a document, if it was sent. -/
def sent? (key : String) (value : Option Json) : List (String × Json) :=
  value.elim [] fun value => [(key, value)]

/-- The document that a request holds. -/
def Request.document (request : Request) : Json :=
  .object
    (("function", request.function) ::
      (sent? "contract" request.contract ++
        sent? Document.metadataKey request.metadata))

/-- What was rendered. -/
structure Rendering where
  /-- The name of the function. -/
  name : String
  /-- The source of the function with its contract. -/
  source : String
  /-- The text of the contract. -/
  contract : String
  /-- The texts of the effects. -/
  effects : List String
  deriving DecidableEq

/-- Parse a document and attach its contract to its function. -/
def attachAll (document : Json) : Except Error (Declaration × Contract × Declaration) := do
  let (function, contract) ← Document.parse document
  let attached ← function.attach contract
  return (function, contract, attached)

/-- Render the document of a request. -/
def Request.render (request : Request) : Except Error Rendering := do
  let (function, contract, attached) ← attachAll request.document
  let text ← contract.render function
  let effects ← contract.effects.mapM (·.render function)
  return { name := function.name, source := attached.source, contract := text, effects }

/-- Refuse the document of a request for the reason for which it cannot be rendered. -/
def Request.validate (request : Request) : Except Error Unit := do
  let _ ← attachAll request.document

/-- The answer to a request for rendering. -/
def renderingJson : Except Error Rendering → Json
  | .ok rendering =>
    .object
      [("success", .boolean true), ("source", .text rendering.source),
        ("contract", .text rendering.contract),
        ("effects", Report.Entry.texts rendering.effects),
        ("contract_hash", .text (Digest.hexDigest rendering.contract)), ("error", .null)]
  | .error error =>
    .object
      [("success", .boolean false), ("source", .null), ("contract", .null),
        ("effects", .array []), ("contract_hash", .null), ("error", .text error.message)]

/-- What the service logs about a request for rendering. -/
def renderingLog : Except Error Rendering → String
  | .ok rendering =>
    "[Server] Rendered " ++ rendering.name ++ " with " ++ toString rendering.effects.length ++
      " effect(s)\n"
  | .error error => "[Server] Render failed: " ++ error.message ++ "\n"

/-- The answer to a request for validating. -/
def validationJson : Except Error Unit → Json
  | .ok () => .object [("valid", .boolean true), ("errors", .array [])]
  | .error error =>
    .object [("valid", .boolean false), ("errors", .array [.text error.message])]

/-- What the service can be asked for. -/
inductive Endpoint where
  /-- Whether it is up. -/
  | health
  /-- To render a document. -/
  | render
  /-- To validate a document. -/
  | validate
  deriving DecidableEq

/-- The path of an endpoint. -/
def Endpoint.path : Endpoint → String
  | .health => "/"
  | .render => "/api/render"
  | .validate => "/api/validate"

/-- The endpoint at a path, if there is one. -/
def Endpoint.ofPath? (path : String) : Option Endpoint :=
  [Endpoint.health, .render, .validate].find? (·.path = path)

/-- What the service does with a request. -/
structure Response where
  /-- The answer, or the faults of a request that was refused. -/
  body : Except (List Fault) Json
  /-- What is logged. -/
  log : String

/-- The status of a request that was answered. -/
def okStatus : Nat := 200

/-- The status of a request that was refused. -/
def refusedStatus : Nat := 422

/-- The status of a response. -/
def Response.status (response : Response) : Nat :=
  match response.body with
  | .ok _ => okStatus
  | .error _ => refusedStatus

/-- Answer a request of the right form, or refuse it. -/
def answer (body : Json) (respond : Request → Response) : Response :=
  match Request.read body with
  | .valid request => respond request
  | .invalid faults => { body := .error faults, log := "" }

/-- Handle a request. -/
def handle (endpoint : Endpoint) (body : Json) : Response :=
  match endpoint with
  | .health =>
    { body := .ok (.object [("status", .text "ok"), ("version", .text version)]), log := "" }
  | .render => answer body fun request =>
    let rendering := request.render
    { body := .ok (renderingJson rendering), log := renderingLog rendering }
  | .validate => answer body fun request =>
    { body := .ok (validationJson request.validate), log := "" }

/-- A step of the path to a fault as a JSON value. -/
def stepJson : Step → Json
  | .key name => .text name
  | .item position => .integer position

/-- A fault as a JSON value. -/
def faultJson (fault : Fault) : Json :=
  .object [("loc", .array (fault.path.map stepJson)), ("type", .text fault.cause.code)]

/-- The body of a response as a JSON value. -/
def Response.bodyJson (response : Response) : Json :=
  match response.body with
  | .ok body => body
  | .error faults => .array (faults.map faultJson)

end KotlinContract.Service
