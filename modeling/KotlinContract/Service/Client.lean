import KotlinContract.Literal
import KotlinContract.Service.Basic

/-!
# A client of the render service

The requests that a client sends and what it makes of the replies. How a request travels is not
part of it. A reply whose status says that the request failed is an error; every other reply is
taken for what was asked.
-/
namespace KotlinContract.Service

/-- A client. -/
structure Client where
  /-- The address that paths are put after. -/
  baseUrl : String
  /-- How long to wait for a reply, in seconds if it is a number. -/
  timeout : Literal

/-- A request as it is sent. -/
structure Message where
  /-- The verb of the request. -/
  verb : String
  /-- The address. -/
  url : String
  /-- What is sent along. -/
  body : Option Json
  /-- How long to wait for a reply. -/
  timeout : Literal

/-- A reply. -/
structure Reply where
  /-- Its status. -/
  status : Nat
  /-- The words for its status. -/
  reason : String
  /-- What came with it. -/
  body : Json

/-- A reply that says that a request failed. -/
structure FailedRequest where
  /-- The status of the reply. -/
  status : Nat
  /-- The words for its status. -/
  reason : String
  /-- The address that the request was sent to. -/
  url : String
  deriving DecidableEq

/-- Whose fault it is that a request failed. -/
def FailedRequest.blame (failure : FailedRequest) : String :=
  if failure.status < 500 then "Client" else "Server"

/-- The message for a failed request. -/
def FailedRequest.message (failure : FailedRequest) : String :=
  toString failure.status ++ " " ++ failure.blame ++ " Error: " ++ failure.reason ++
    " for url: " ++ failure.url

namespace Client

/-- The address of a service on the same machine. -/
def localUrl : String := "http://localhost:8000"

/-- A text without the slashes at its end. -/
def dropSlashes (text : String) : String :=
  String.ofList (text.toList.reverse.dropWhile (· == '/')).reverse

/-- A client of the service at an address, or of the one on the same machine. -/
def create (baseUrl : Option String) (timeout : Literal) : Client where
  baseUrl :=
    dropSlashes (match baseUrl with
      | none => localUrl
      | some url => if url = "" then localUrl else url)
  timeout := timeout

/-- How long a client waits that was not told otherwise. -/
def defaultTimeout : Literal := .real 10.0

/-- What is sent to an endpoint. -/
def message (client : Client) (endpoint : Endpoint) (document : Json) : Message where
  verb := match endpoint with
    | .health => "GET"
    | _ => "POST"
  url := client.baseUrl ++ endpoint.path
  body := match endpoint with
    | .health => none
    | _ => some document
  timeout := client.timeout

/-- What was asked, from the reply to a message. -/
def result (message : Message) (reply : Reply) : Except FailedRequest Json :=
  if 400 ≤ reply.status && reply.status < 600 then
    .error { status := reply.status, reason := reply.reason, url := message.url }
  else .ok reply.body

end Client

end KotlinContract.Service
