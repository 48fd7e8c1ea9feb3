import RollCall.Call
import RollCall.Settings

/-!
# Connection pools

One pool at a time serves the whole indexer. Asking for one while another is open yields the open
one, whatever settings it is asked for with; after it has been closed the next request opens a new
one.
-/

set_option autoImplicit false

namespace RollCall.Sql

/-- How a pool reaches its database. What is not set is left to the database's own defaults. -/
structure PoolSettings where
  connection : Option String := none
  host : Option String := none
  port : Option Number := none
  user : Option String := none
  password : Option String := none
  database : Option String := none
  /-- Whether connections are encrypted; certificates are not verified. -/
  ssl : Bool := false
  size : Option Number := none
  /-- Under which name the database lists the connections. -/
  application : String := Log.application
deriving DecidableEq, Repr

structure Pool where
  settings : PoolSettings
  closed : Bool := false
deriving DecidableEq, Repr

/-- The pools opened so far, oldest first. Only the last one can be open. -/
abbrev Pools := List Pool

/-- How many connections a pool has if no number of them is set. -/
def defaultSize : Number := 10

/-- How many connections a pool has at most; none and no number count as not set. -/
def PoolSettings.connections (settings : PoolSettings) : Number :=
  (settings.size.filter fun size => size ≠ 0 ∧ size ≠ .nan).getD defaultSize

/-- Settings as a document; those that are not set are left out. -/
def PoolSettings.toValue (settings : PoolSettings) : Value :=
  let text (name : String) (value : Option String) : Members :=
    (value.map fun value => (name, Value.text value)).toList
  let number (name : String) (value : Option Number) : Members :=
    (value.map fun value => (name, Value.number value)).toList
  .record
    (text "connectionString" settings.connection ++ text "host" settings.host ++
      number "port" settings.port ++ text "user" settings.user ++
      text "password" settings.password ++ text "database" settings.database ++
      (if settings.ssl then [("ssl", .record [("rejectUnauthorized", .flag false)])] else []) ++
      [("max", .number settings.connections), ("application_name", .text settings.application)])

/-- The settings of a pool for the index. -/
def PoolSettings.forIndex (settings : DatabaseSettings) : PoolSettings where
  connection := settings.connection
  host := settings.host
  port := some (.ofNat settings.port)
  user := settings.user
  password := settings.password
  database := settings.database
  ssl := settings.ssl
  size := some (.ofNat settings.poolSize)

namespace Pools

/-- The place of the open pool, if one is open. -/
def current? (pools : Pools) : Option Nat :=
  match pools.getLast? with
  | some { closed := false, .. } => some (pools.length - 1)
  | _ => none

/-- The place of the pool to use: that of the open one, or of a new one with these settings. -/
def acquire (settings : PoolSettings) : Call Pools Nat := do
  let pools ← Call.read
  match pools.current? with
  | some place => return place
  | none =>
      Call.modify (· ++ [{ settings := settings }])
      return pools.length

/-- Closes the open pool, if one is open. -/
def close : Call Pools Unit :=
  Call.modify fun pools =>
    match pools.current? with
    | some place => pools.modify place ({ · with closed := true })
    | none => pools

/-- Takes note of a connection that broke while nobody used it. -/
def lost (fault : Fault) : Call Pools Unit := do
  let cause ← Call.ofExcept fault.message
  Call.log .error .pool s!"[pg] idle client error: {cause}"

end Pools

end RollCall.Sql
