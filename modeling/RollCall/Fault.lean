import RollCall.Value

/-!
# Faults

Everything that can go wrong, as the cause that it is. `Fault.words?` holds the wording,
`Fault.facts` what is logged beside it, and `Fault.isPermanent` tells the follow loop which faults
the next round cannot clear. A collaborator may raise what has no wording, and then to report it goes
wrong too: `Fault.message` is the report or that fault.
-/

set_option autoImplicit false

namespace RollCall

/-- A fault. The first eight constructors are the indexer's own; `facts` are details beyond those
that the constructor itself adds. -/
inductive Fault where
  /-- An event whose attributes are not of the form that its producer emits. -/
  | undecodable (eventType reason : String) (details : Members)
  /-- The node could not be reached, or the connection broke during a call. -/
  | transport (method cause : String) (details : Members)
  /-- The node answered with an error. -/
  | refused (method : String) (code : Number) (detail : String) (details : Members)
  /-- Chain data that contradicts what the index holds. -/
  | inconsistent (text : String) (details : Members)
  | storeWrite (operation cause : String) (details : Members)
  | advice (operation cause : String) (details : Members)
  | setting (key value expected : String)
  | general (text : String) (details : Members) (retryable : Bool)
  /-- An argument list that the command line does not understand. -/
  | usage (text : String)
  /-- A base address that is no URL. -/
  | invalidUrl
  /-- A database column that should hold an integer. -/
  | column (name shown : String)
  /-- An insert without rows. -/
  | noRows (table : String)
  /-- A fault of a collaborator, of which only the wording is known. -/
  | other (text : String)
  /-- Something raised by a collaborator that carries no wording of its own: it is displayed. -/
  | raised (value : Value)
  /-- Something without words was to be put into words. -/
  | wordless
deriving Repr

namespace Fault

/-- The words of a fault. Something raised that cannot be displayed has none. -/
def words? : Fault → Option String
  | undecodable eventType reason _ => some s!"cannot decode {eventType} event: {reason}"
  | transport method cause _ => some s!"rpc {method} failed: {cause}"
  | refused method code detail _ => some s!"rpc {method} returned code {code.text}: {detail}"
  | inconsistent text _ => some text
  | storeWrite operation cause _ => some s!"store {operation} failed: {cause}"
  | advice operation cause _ => some s!"agent {operation} failed: {cause}"
  | setting key value expected => some s!"invalid {key}=\"{value}\": expected {expected}"
  | general text _ _ => some text
  | usage text => some text
  | invalidUrl => some "Invalid URL"
  | column name shown => some s!"column {name} is not an integer: {shown}"
  | noRows table => some s!"makeMultiInsert({table}): no rows"
  | other text => some text
  | raised value => value.display?
  | wordless => some "Cannot convert object to primitive value"

/-- What has to be put into words, or else into a number; that it cannot be is a fault. -/
def demand {α : Type} (form : Option α) : Except Fault α :=
  form.elim (.error wordless) .ok

/-- What a fault is reported as. To report one without words is a fault itself. -/
def message (fault : Fault) : Except Fault String :=
  demand fault.words?

/-- What is logged beside the wording; details win over what the constructor adds. Only the
indexer's own faults carry anything. -/
def facts? : Fault → Option Members
  | undecodable eventType _ details =>
      some (Members.override [("eventType", .text eventType)] details)
  | transport method _ details => some (Members.override [("method", .text method)] details)
  | refused method code _ details =>
      some (Members.override [("method", .text method), ("code", .number code)] details)
  | inconsistent _ details => some details
  | storeWrite operation _ details =>
      some (Members.override [("operation", .text operation)] details)
  | advice operation _ details => some (Members.override [("operation", .text operation)] details)
  | setting key _ _ => some [("key", .text key)]
  | general _ details _ => some details
  | _ => none

def facts (fault : Fault) : Members :=
  fault.facts?.getD []

/-- Whether the next round may clear a fault; asked of the indexer's own faults. -/
def retryable? : Fault → Option Bool
  | undecodable .. => some false
  | transport .. => some true
  | refused .. => some true
  | inconsistent .. => some true
  | storeWrite .. => some true
  | advice .. => some false
  | setting .. => some false
  | general _ _ retryable => some retryable
  | _ => none

/-- Whether repeating a round cannot clear a fault. A fault that is not the indexer's own is never
held to be permanent. -/
def isPermanent (fault : Fault) : Bool :=
  fault.retryable? == some false

/-- Whether the connection to the node failed. -/
def isTransport : Fault → Bool
  | transport .. => true
  | _ => false

/-- Whether the node answered with an error. -/
def isRefusal : Fault → Bool
  | refused .. => true
  | _ => false

def code? : Fault → Option Number
  | refused _ code _ _ => some code
  | _ => none

end Fault

end RollCall
