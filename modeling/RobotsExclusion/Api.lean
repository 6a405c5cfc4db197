import RobotsExclusion.Api.Target
import RobotsExclusion.Document
import RobotsExclusion.Json.Compact
import RobotsExclusion.Json.Encoding
import RobotsExclusion.Json.Parser
import RobotsExclusion.Report.Json
import RobotsExclusion.Settings
import RobotsExclusion.Text.Capital

/-!
# The validation API

Answers to requests that send a document for validation, for the plugins of editors.

## Main definitions

* `Api.Route` — what can be asked for
* `Api.BodyError` — why the body of a request is refused
* `Api.content` — the document in the body of a request
* `Api.Answer`, `Api.Answer.toJson` — what is answered
* `Api.Failure` — why there is no response
* `Api.respond` — the response to a request
* `Api.serve` — the response of a program that has loaded its settings
-/

namespace RobotsExclusion.Api

/-- The version of the program. -/
def version : Text := "0.1.0"

/-- What can be asked for. -/
inductive Route where
  | validate
  | diagnostics
  | format
  | health
deriving DecidableEq

namespace Route

/-- All routes. -/
def all : List Route := [validate, diagnostics, format, health]

/-- The path of a route. -/
def path : Route → Text
  | validate => "/api/validate"
  | diagnostics => "/api/diagnostics"
  | format => "/api/format"
  | health => "/api/health"

/-- The only method that a route allows. -/
def method : Route → Text
  | health => "GET"
  | _ => "POST"

/-- The route with this path. -/
def ofPath? (t : Text) : Option Route := all.find? fun r => r.path = t

/-- The route that a target leads to. Slashes at the end of its path do not matter, nor does a line
feed before them. -/
def ofTarget? (target : Target) : Option Route :=
  let path := target.route.reverse.dropWhile (· = CodePoint.ofChar '/')
  let path := if path.head? = some (CodePoint.ofChar '\n') then path.drop 1 else path
  ofPath? path.reverse

end Route

/-- A request. -/
structure Request where
  method : Text
  target : Text
  body : Bytes

/-- Why the body of a request is refused. -/
inductive BodyError where
  /-- The body is no text, or one that exceeds a limit. -/
  | unreadable
  /-- The body is empty. -/
  | absent
  /-- The body is no JSON. -/
  | malformed
  /-- The body is this value and no object. -/
  | notObject (value : Json)
  /-- The object with these members has no content. -/
  | noContent (members : List (Text × Json))
  /-- The content is this value and no text. -/
  | contentNotText (value : Json)

/-- What is wrong with a body: the kind of the problem, where it lies, what is said about it, and the
value that it is about. -/
structure Problem where
  kind : Text
  location : List Text
  message : Text
  input : Json

/-- What is answered. -/
inductive Answer where
  | report (r : Report)
  | diagnostics (ds : List Diagnostic)
  | text (t : Text)
  | health
  /-- The request is refused for this reason. -/
  | refusal (reason : Text)
  /-- The body is refused. -/
  | problem (p : Problem)

/-- A problem as JSON, without the words and the value. -/
def Problem.toJson (p : Problem) : Json :=
  .object [("type", .text p.kind), ("loc", .array (p.location.map Json.text))]

/-- An answer as JSON. -/
def Answer.toJson : Answer → Json
  | report r => r.toJson
  | diagnostics ds => .array (ds.map Diagnostic.toJson)
  | text t => .object [("text", .text t)]
  | health => .object [("status", .text "ok"), ("version", .text version)]
  | refusal reason => .object [("detail", .text reason)]
  | problem p => .array [p.toJson]

/-- A problem with all that is said about it. -/
def Problem.full (p : Problem) : Json :=
  .object [("detail", .array [.object [
    ("type", .text p.kind), ("loc", .array (p.location.map Json.text)),
    ("msg", .text p.message), ("input", p.input)]])]

/-- A response. It has no answer if the request asks for the status alone. -/
structure Response where
  status : Nat
  answer? : Option Answer

/-- Why there is no response. -/
inductive Failure where
  | settings (e : Settings.Error)
  | target (e : Target.Error)
  /-- The answer would hold a number that is not finite. -/
  | notFinite
  /-- The answer would hold surrogates. -/
  | unencodable (u : Utf8.Unencodable)

/-- What is said of a number that is not finite. -/
def Failure.notFiniteMessage : Text := "Out of range float values are not JSON compliant"

/-- A problem is only told if the value that it is about can be written. -/
def Problem.failure? (p : Problem) : Option Failure :=
  match p.full.compact? with
  | none => some .notFinite
  | some t => (Utf8.unencodable? t).map .unencodable

/-- The status and the answer for a body that is refused. -/
def BodyError.outcome : BodyError → Nat × Answer
  | unreadable => (400, .refusal "There was an error parsing the body")
  | absent => (422, .problem ⟨"missing", ["body"], "Field required", .null⟩)
  | malformed => (422, .problem ⟨"json_invalid", ["body"], "JSON decode error", .object []⟩)
  | notObject value =>
    (422, .problem ⟨"model_attributes_type", ["body"],
      "Input should be a valid dictionary or object to extract fields from", value⟩)
  | noContent members =>
    (422, .problem ⟨"missing", ["body", "content"], "Field required", .object members⟩)
  | contentNotText value =>
    (422, .problem
      ⟨"string_type", ["body", "content"], "Input should be a valid string", value⟩)

/-- The value of a body. -/
def value (body : Bytes) : Except BodyError Json :=
  if body.isEmpty then .error .absent
  else
    let (encoding, bytes) := Json.Encoding.ofBytes body
    match encoding.decode? bytes with
    | none => .error .unreadable
    | some t =>
      match Json.ofText t with
      | .ok j => .ok j
      | .error .malformed => .error .malformed
      | .error _ => .error .unreadable

/-- The document in a body: the content of an object, whatever else the object holds. -/
def content (body : Bytes) : Except BodyError Text := do
  match ← value body with
  | .object members =>
    match Json.get? "content" members with
    | none => .error (.noContent members)
    | some (.text t) => .ok t
    | some j => .error (.contentNotText j)
  | j => .error (.notObject j)

/-- The answer about a document. -/
def Route.answer (route : Route) (document : Text) : Answer :=
  let r := Document.check document
  match route with
  | validate => .report r
  | diagnostics => .diagnostics (Diagnostic.ofReport document r)
  | format => .text r.render
  | health => .health

/-- The status and the answer for a request with a method in capitals. -/
def outcome (method : Text) (target : Target) (body : Bytes) : Nat × Answer :=
  match Route.ofTarget? target with
  | none => (404, .refusal "Not Found")
  | some route =>
    if method ≠ route.method then (405, .refusal "Method Not Allowed")
    else if route = .health then (200, .health)
    else
      match content body with
      | .ok document => (200, route.answer document)
      | .error e => e.outcome

/-- An answer that can be written. -/
def Answer.check : Answer → Except Failure Answer
  | problem p => (p.failure?.map .error).getD (.ok (problem p))
  | answer => .ok answer

/-- The response to a request. -/
def respond (request : Request) : Except Failure Response := do
  let method := request.method.capitals
  let target ← (Target.ofText request.target).mapError .target
  let (status, answer) := outcome method target request.body
  let answer ← answer.check
  .ok ⟨status, if method = "HEAD" then none else some answer⟩

/-- The response of a program that loads its settings first. -/
def serve [Yaml.Implementation] (env : Environment) (files : Files) (request : Request) :
    Except Failure Response := do
  let _ ← (Settings.load env files).mapError .settings
  respond request

end RobotsExclusion.Api
