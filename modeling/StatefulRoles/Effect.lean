import StatefulRoles.Catalog
import StatefulRoles.Log
import StatefulRoles.Manifest
import StatefulRoles.Trace
/-!
# Effects

What an operation does to the world outside: it writes log lines, asks the catalog, loads a
configuration and calls the API server.
-/
namespace StatefulRoles

/-- A connection to the API server. Each one that is made has its own number. -/
structure Client where
  number : Nat
deriving DecidableEq, Repr

/-- Where a configuration for a client comes from. -/
inductive Loader where
  | cluster
  | user
deriving DecidableEq, Repr

/-- A call to the API server. -/
inductive Call where
  | create (ns : String) (body : StatefulSet)
  | read (id : Identity)
  | replace (id : Identity) (body : StatefulSet)
  | patch (id : Identity) (body : List PatchStep)
  | delete (id : Identity)
  | createEvent (ns : String) (body : Event)

/-- One thing done. -/
inductive Effect where
  | log (line : Log)
  | lookup (question : Lookup)
  | load (loader : Loader)
  | call (client : Client) (call : Call)

namespace Effect

def log? : Effect → Option Log
  | .log line => some line
  | _ => none

def lookup? : Effect → Option Lookup
  | .lookup question => some question
  | _ => none

def load? : Effect → Option Loader
  | .load loader => some loader
  | _ => none

def call? : Effect → Option (Client × Call)
  | .call client c => some (client, c)
  | _ => none

end Effect

namespace Traced

variable {ε α : Type}

/-- The log lines of a run. -/
def logs (x : Traced Effect ε α) : List Log := x.trace.filterMap Effect.log?

/-- What a run asked the catalog. -/
def lookups (x : Traced Effect ε α) : List Lookup := x.trace.filterMap Effect.lookup?

/-- The configurations that a run tried to load. -/
def loads (x : Traced Effect ε α) : List Loader := x.trace.filterMap Effect.load?

/-- The calls of a run to the API server. -/
def calls (x : Traced Effect ε α) : List (Client × Call) := x.trace.filterMap Effect.call?

/-- A run that writes log lines. -/
def log (lines : List Log) : Traced Effect ε Unit := emit (lines.map .log)

end Traced
end StatefulRoles
