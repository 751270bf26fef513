import BlockFlow.Json.Encoding
import BlockFlow.Json.Reader
import BlockFlow.Service.Form
import BlockFlow.Service.Sending
import BlockFlow.Session

/-!
# The web service

The compiler as a service: a request is routed by its path and method, its body is checked against
the form of the request, and the answer is a status and a JSON value. A few answers cannot be sent,
because they would hold something that JSON or UTF-8 cannot carry.
-/

namespace BlockFlow.Service

/-- A request, with the bytes of its body. -/
structure Request where
  method : String
  path : String
  body : List Nat

/-- An answer. -/
structure Response where
  status : Nat
  body : Json

/-- Why an answer is not sent. -/
inductive Unsent where
  /-- A rejected value, which the answer would repeat, holds a number that is not finite. -/
  | notFinite
  | encoding (error : Text.Utf8.Unencodable)
deriving DecidableEq

/-- The wording of the reason. -/
def Unsent.message : Unsent → Text
  | .notFinite => "Out of range float values are not JSON compliant"
  | .encoding error => "Error serializing to JSON: UnicodeEncodeError: " ++ error.message

/-- What can be asked for. -/
inductive Route where
  | health
  | languages
  | build
  | generate
  | compile
deriving DecidableEq, Repr

/-- The route of a path that is spelled out. -/
def Route.exact? : String → Option Route
  | "/health" => some .health
  | "/api/languages" => some .languages
  | "/api/build" => some .build
  | "/api/generate" => some .generate
  | "/api/compile" => some .compile
  | _ => none

/-- The route of a path. A query and slashes at the end of the path do not count. -/
def Route.ofPath? (path : String) : Option Route :=
  let place := path.toList.takeWhile fun c => c != '?' && c != '#'
  Route.exact? (String.ofList (place.reverse.dropWhile (· == '/')).reverse)

/-- The method a route answers to. -/
def Route.method : Route → String
  | .health | .languages => "GET"
  | .build | .generate | .compile => "POST"

/-- An answer that only explains itself. -/
def explained (status : Nat) (detail : String) : Response :=
  ⟨status, .obj [("detail", .str detail)]⟩

/-- The answer to a body that is not JSON or does not have the form of the request. It repeats the
rejected values, which are not part of its body here. -/
def unprocessable (rejected : List Json) : Except Unsent Response :=
  if areFinite rejected then .ok ⟨422, .null⟩ else .error .notFinite

/-- The answer to a body that cannot be read at all. -/
def unreadable : Response :=
  explained 400 "There was an error parsing the body"

/-! ## Answers -/

/-- The job of a request, if its fields pass the checks. -/
def jobOf (checks : Checks) (route : Route) (fields : Json.Fields) : Checked (Job Json) :=
  match route with
  | .health => .ok (pure (.obj [("status", .str "ok")]))
  | .languages =>
    .ok (pure (.obj [("languages", .arr (Language.all.map fun l => .str l.name))]))
  | .build =>
    (checks.diagram fields).map fun (nodes, edges) => do
      let p ← Job.build (.arr nodes) (.arr edges) none
      return .obj [("ir", p.toJson)]
  | .generate =>
    (checks.language fields).map fun language => do
      let code ← Job.generate (.str language) (Json.Fields.get fields "ir") none
      return .obj [("code", .str code)]
  | .compile =>
    ((checks.diagram fields).both (checks.language fields)).map fun ((nodes, edges), language) => do
      let language ← Job.language (.str language)
      let p ← Job.build (.arr nodes) (.arr edges) none
      let code ← Job.renderConfigured language p
      return .obj [("code", .str code), ("ir", p.toJson)]

/-- The answer to a job that failed. -/
def failureOf : CompileError → Response
  | .unsupportedLanguage _ => explained 400 "Unsupported language"
  | .notAProgram cause => explained 400 cause.message
  | .notIterable cause => explained 500 cause.message

/-- The answer to a job that is done. -/
def success (body : Json) : Except Unsent Response :=
  match unencodable? body with
  | some error => .error (.encoding error)
  | none => .ok ⟨200, sendable body⟩

/-- The JSON value in the body of a request, or the answer to a body without one. -/
def readBody (route : Route) (body : List Nat) : Except (Except Unsent Response) Json :=
  if route.method = "GET" then .ok (.obj [])
  else
    match (Json.decodeBytes? body).map Json.parse with
    | none => .error (.ok unreadable)
    | some (.ok j) => .ok j
    | some (.error (.malformed _ _)) => .error (unprocessable [])
    | some (.error (.longInteger _)) => .error (.ok unreadable)

/-- Answers a request to a route inside a session. -/
def answer (checks : Checks) (route : Route) (body : List Nat) :
    StateM Session (Except Unsent Response) := do
  match readBody route body with
  | .error response => return response
  | .ok j =>
    match objectOf j >>= jobOf checks route with
    | .error rejected => return unprocessable rejected
    | .ok job =>
      match ← job.run with
      | .ok body => return success body
      | .error e => return .ok (failureOf e)

/-- Answers a request inside a session. -/
def handle (request : Request) : StateM Session (Except Unsent Response) := do
  match Route.ofPath? request.path with
  | none => return .ok (explained 404 "Not Found")
  | some route =>
    if request.method ≠ route.method then return .ok (explained 405 "Method Not Allowed")
    else answer .standard route request.body

end BlockFlow.Service
