import StatefulRoles.Json.Parser
import StatefulRoles.Text.Quoted
import StatefulRoles.Text.Utf8
/-!
# Errors of the API server

An error answer carries a status code, the reason phrase of its status line and a body. The code
409 stands both for an update of a stale object and for creating an object that exists; the reason
tells the two apart. The body states it for machines, and where it does, the phrase does not count.
A body that goes too deep leaves the question open.
-/
namespace StatefulRoles

/-- The classes of API errors that callers tell apart. -/
inductive ApiError.Kind where
  | general
  | notFound
  | unauthorized
  | forbidden
  | service
deriving DecidableEq, Repr

/-- The status of an error answer, which may be any object: how a message shows it, and the whole
number that it is equal to, if it is equal to one. -/
structure ApiError.Status where
  shown : String
  code? : Option Int := none
deriving DecidableEq, Repr

/-- The status that is a whole number. -/
def ApiError.Status.code (code : Int) : ApiError.Status := ⟨toString code, some code⟩

/-- The body of an error answer, as text or undecoded. -/
inductive ApiError.Body where
  | text (text : String)
  | bytes (bytes : List UInt8)
deriving DecidableEq, Repr

/-- An error answer. Its headers are given as a message shows them, unless there are none. Mirrors
`ApiException`. -/
structure ApiError where
  kind : ApiError.Kind := .general
  status : Option ApiError.Status := none
  reason : Option String := none
  headers : Option String := none
  body : Option ApiError.Body := none
deriving DecidableEq, Repr

namespace ApiError

/-! ## Messages -/

def Kind.name : Kind → String
  | .general => "ApiException"
  | .notFound => "NotFoundException"
  | .unauthorized => "UnauthorizedException"
  | .forbidden => "ForbiddenException"
  | .service => "ServiceException"

/-- The body as a message shows it, unless it is empty. -/
def Body.shown? : Body → Option String
  | .text t => if t = "" then none else some t
  | .bytes bs => if bs.isEmpty then none else some (Text.Quoted.ofBytes bs)

def message (e : ApiError) : String :=
  let status := (e.status.map Status.shown).getD "None"
  let reason := e.reason.getD "None"
  let headers := match e.headers with
    | some headers => s!"HTTP response headers: {headers}\n"
    | none => ""
  let body := match e.body.bind Body.shown? with
    | some body => s!"HTTP response body: {body}\n"
    | none => ""
  s!"({status})\nReason: {reason}\n{headers}{body}"

/-! ## Reasons -/

/-- Is the status equal to a code? -/
def hasCode (code : Int) (e : ApiError) : Bool := e.status.bind Status.code? = some code

/-- The characters of a body. -/
def Body.chars : Body → List Char
  | .text t => t.toList
  | .bytes bs => Text.Utf8.decode bs

variable (depth : Nat)

/-- The reason that a body states: the member of that name of the object that it holds. A body that
is no JSON states none; one that goes deeper than `depth` cannot be asked. Mirrors
`_status_reason`. -/
def Body.reason? (body : Body) : Except Json.Container (Option Json) :=
  match Json.parse depth body.chars with
  | .ok j => .ok ((j.get? "reason").filter Json.isTruthy)
  | .error .malformed => .ok none
  | .error (.tooDeep container) => .error container

/-- The reason of an error: what the body states, or else the phrase. -/
def reason? (e : ApiError) : Except Json.Container (Option Json) :=
  match e.body with
  | some body => (body.reason? depth).map (·.or (e.reason.map .str))
  | none => .ok (e.reason.map .str)

/-- Is the reason a text? -/
def hasReason (text : String) (e : ApiError) : Except Json.Container Bool :=
  (e.reason? depth).map fun
    | some (.str reason) => reason = text
    | _ => false

/-- Does the object to be created exist? Mirrors `is_already_exists_error`. -/
def isAlreadyExists (e : ApiError) : Except Json.Container Bool :=
  if e.hasCode 409 then e.hasReason depth "AlreadyExists" else .ok false

/-- Has the object to be updated changed since it was read? Mirrors `is_conflict_error`. -/
def isConflict (e : ApiError) : Except Json.Container Bool :=
  if e.hasCode 409 then (e.hasReason depth "AlreadyExists").map (!·) else .ok false

/-- Is the object not there? Mirrors `is_not_found_error`. -/
def isNotFound (e : ApiError) : Bool := e.hasCode 404

end ApiError
end StatefulRoles
