import StatefulRoles.ApiError
import StatefulRoles.Schema
/-!
# Faults

Everything that can go wrong while an operation runs, by cause.
-/
namespace StatefulRoles

/-- Why a catalog has no answer. Mirrors `CatalogError`. -/
inductive CatalogError where
  | unknownApp (app cluster : String)
  | unknownRole (role app : String)
  | noImage (role app : String)
  | other (message : String)
deriving DecidableEq, Repr

def CatalogError.message : CatalogError → String
  | .unknownApp app cluster =>
    s!"app {Text.Quoted.ofText app} referenced by cluster {cluster} not found"
  | .unknownRole role app =>
    s!"role {Text.Quoted.ofText role} not defined by app {Text.Quoted.ofText app}"
  | .noImage role app =>
    s!"no image specified for role {Text.Quoted.ofText role} of app {Text.Quoted.ofText app}"
  | .other message => message

/-- What went wrong. A foreign fault comes from outside: it is of any other class, and there is no
more to it than the name of its class and its message. -/
inductive Fault where
  | api (error : ApiError)
  | catalog (error : CatalogError)
  | quantity (error : Quantity.Error)
  | invalid (issues : List Issue)
  | noConfiguration
  | noObject (member : String)
  | deepValue
  | deepBody (container : Json.Container)
  | foreign (kind message : String)
deriving DecidableEq, Repr

namespace Fault

/-- The class of a fault, as a retry logs it. -/
def kindName : Fault → String
  | .api e => e.kind.name
  | .catalog _ => "CatalogError"
  | .quantity (.trap .overflow) => "Overflow"
  | .quantity (.trap .invalidOperation) => "InvalidOperation"
  | .quantity _ => "ValueError"
  | .invalid _ => "ValidationError"
  | .noConfiguration => "RuntimeError"
  | .noObject _ => "AttributeError"
  | .deepValue => "ValueError"
  | .deepBody _ => "RecursionError"
  | .foreign kind _ => kind

/-- The message of a fault. An invalid value has its issues instead. -/
def message : Fault → String
  | .api e => e.message
  | .catalog e => e.message
  | .quantity e => e.message
  | .invalid _ => ""
  | .noConfiguration => "Cannot load Kubernetes configuration"
  | .noObject member => s!"'NoneType' object has no attribute '{member}'"
  | .deepValue => "Maximum serialization depth exceeded"
  | .deepBody container =>
    s!"maximum recursion depth exceeded while decoding a JSON {container.name} from a unicode string"
  | .foreign _ message => message

/-- The API error that a fault is, if it is one. -/
def api? : Fault → Option ApiError
  | .api e => some e
  | _ => none

/-- What can be said of a fault that is an API error, and is not so of any other. A body that goes
too deep is a fault of its own. -/
def holds (question : ApiError → Except Json.Container Bool) (f : Fault) : Except Fault Bool :=
  match f.api? with
  | some e => (question e).mapError .deepBody
  | none => .ok false

/-- Is it a conflict, as far as a body no deeper than `depth` can tell? -/
def isConflict (depth : Nat) : Fault → Except Fault Bool := holds (ApiError.isConflict depth)

/-- Does it say that an object exists, as far as such a body can tell? -/
def isAlreadyExists (depth : Nat) : Fault → Except Fault Bool :=
  holds (ApiError.isAlreadyExists depth)

def isNotFound (f : Fault) : Bool := f.api?.any ApiError.isNotFound

/-- Where the fault is in an account of what went wrong. -/
structure Account (ε : Type) where
  fault : ε → Fault
  withFault : ε → Fault → ε

/-- The account that is the fault itself. -/
def plain : Account Fault := ⟨fun f => f, fun _ f => f⟩

end Fault

/-- The value, or the fault that it is not there. -/
def Checked.toExcept {α : Type} : Checked α → Except Fault α
  | .ok a => .ok a
  | .issues is => .error (.invalid is)
  | .trap t => .error (.quantity (.trap t))

/-- A value as it is sent, or the fault that it goes too deep. -/
def Schema.send {α : Type} (s : Schema α) (a : α) : Except Fault Json :=
  match s.send? a with
  | some j => .ok j
  | none => .error .deepValue

end StatefulRoles
