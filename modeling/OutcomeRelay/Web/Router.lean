import OutcomeRelay.Outcome.Report
import OutcomeRelay.Web.MediaType

set_option autoImplicit false

namespace OutcomeRelay.Web

structure HttpRequest where
  method : String
  target : String
  contentType : Option String
  body : ByteArray
deriving DecidableEq

structure HttpResponse where
  status : Nat
  allow : Option String := none
  contentType : Option String := none
  body : ByteArray := ByteArray.empty
deriving DecidableEq

namespace HttpResponse

def ok : HttpResponse := { status := 200 }
def notFound : HttpResponse := { status := 404 }
def methodNotAllowed (allow : String) : HttpResponse := { status := 405, allow := some allow }
def unprocessable : HttpResponse := { status := 422 }
def unavailable : HttpResponse := { status := 503 }

def accepted (eventId : String) : HttpResponse where
  status := 202
  contentType := some "application/json"
  body := (String.ofList
    ('\x7b' :: (Envelope.field "event_id" (Json.quote eventId) ++ ['\x7d']))).toUTF8

end HttpResponse

def maxBodySize : Nat := 2097152

def readReport? (request : HttpRequest) : Option Report :=
  match request.contentType.bind MediaType.parse? with
  | none => none
  | some type =>
    if type.isJson && request.body.size ≤ maxBodySize then Report.decode? request.body else none

def afterScheme? : List Char → Option (List Char)
  | ':' :: '/' :: '/' :: rest => some rest
  | c :: rest => if c = ':' || c = '/' then none else afterScheme? rest
  | [] => none

def hierarchy (target : List Char) : List Char := target.takeWhile fun c => c ≠ '?' && c ≠ '#'

/-- The path of a request. A target with a scheme has it after the authority; one that is neither
a path nor has a scheme has none. -/
def path (request : HttpRequest) : String :=
  match request.target.toList with
  | '/' :: rest => String.ofList (hierarchy ('/' :: rest))
  | target =>
    match afterScheme? target with
    | some rest => String.ofList ((hierarchy rest).dropWhile (· ≠ '/'))
    | none => ""

inductive Routed where
  | response (response : HttpResponse)
  | report (report : Report)
deriving DecidableEq

def route (request : HttpRequest) : Routed :=
  if path request = "/step-outcomes" then
    if request.method = "POST" then
      match readReport? request with
      | none => .response .unprocessable
      | some report => .report report
    else .response (.methodNotAllowed "POST")
  else if path request = "/health" then
    if request.method = "GET" || request.method = "HEAD" then .response .ok
    else .response (.methodNotAllowed "GET,HEAD")
  else .response .notFound

def respond : Except ReportError String → HttpResponse
  | .ok eventId => .accepted eventId
  | .error (.outcome _) => .unprocessable
  | .error (.publish _) => .unavailable

end OutcomeRelay.Web
