import RollCall.Fault
import RollCall.Log
import RollCall.Number.Numeral
import RollCall.Url

/-!
# Settings

Settings come from variables. A variable that is missing or blank takes its default; any other must
be of its form, and the first that is not, in the order of `Settings.resolve`, is reported.
-/

set_option autoImplicit false

namespace RollCall

/-- The variables that settings are taken from. -/
abbrev Variables := List (String × String)

/-- How the database is reached, and what the index is called there. -/
structure DatabaseSettings where
  connection : Option String
  host : Option String
  port : Nat
  user : Option String
  password : Option String
  database : Option String
  ssl : Bool
  poolSize : Nat
  schema : String
  /-- Under which name progress is kept. -/
  progressId : String
deriving DecidableEq, Repr

/-- All settings. Times are in milliseconds. -/
structure Settings where
  rpcUrl : String
  timeout : Nat
  retries : Nat
  backoff : Nat
  jitter : Number
  startHeight : Nat
  tickInterval : Nat
  catchUpDelay : Nat
  /-- Whether the events of blocks are dispatched besides those of transactions. -/
  withBlockEvents : Bool
  logLevel : Log.Level
  database : DatabaseSettings
  /-- Where the advisory agent is, if there is one. -/
  agentUrl : Option String
  agentTimeout : Nat
deriving DecidableEq, Repr

namespace Variables

/-- The value of a variable without blanks around it, if anything is left. -/
def value? (environment : Variables) (key : String) : Option String :=
  ((environment.lookup key).map Text.trim).filter (· ≠ "")

/-- A variable of some form. -/
def ofForm {α : Type} (environment : Variables) (key expected : String) (default : α)
    (read : String → Option α) : Except Fault α :=
  match environment.value? key with
  | none => .ok default
  | some value =>
      match read value with
      | some result => .ok result
      | none => .error (.setting key value expected)

/-- An integer in decimal digits, from a least one on. -/
def natural (environment : Variables) (key : String) (default least : Nat) : Except Fault Nat :=
  environment.ofForm key s!"an integer >= {least}" default fun value =>
    (Number.naturalOf? value.toList).filter (least ≤ ·)

/-- A number from 0 to 1. -/
def ratio (environment : Variables) (key : String) (default : Number) : Except Fault Number :=
  environment.ofForm key "a number in [0, 1]" default fun value =>
    let number := Number.ofNumeral value
    if number.isFinite && !number.below 0 && !Number.below 1 number then some number else none

/-- One of eight words. -/
def flag (environment : Variables) (key : String) (default : Bool) : Except Fault Bool :=
  environment.ofForm key "a boolean" default fun value =>
    if ["1", "true", "yes", "on"].any (Text.isWord · value) then some true
    else if ["0", "false", "no", "off"].any (Text.isWord · value) then some false
    else none

/-- The address of a service; kept as it is written, but for slashes at its end. -/
def address (environment : Variables) (key : String) : Except Fault (Option String) :=
  environment.ofForm key "an http(s) URL" none fun value =>
    match Url.parse? value with
    | some url =>
        if url.scheme = "http" ∨ url.scheme = "https" then some (some (Text.withoutSlashes value))
        else none
    | none => none

/-- The levels that can be set. -/
def logLevels : List Log.Level :=
  [.trace, .debug, .info, .warn, .error, .silent]

def logLevel (environment : Variables) : Except Fault Log.Level :=
  environment.ofForm "LOG_LEVEL" (Text.join "|" (logLevels.map Log.Level.name)) .info fun value =>
    logLevels.find? fun level => Text.isWord level.name value

/-- A name that a database takes in quotes as it is. -/
def identifier (environment : Variables) (key default : String) : Except Fault String :=
  environment.ofForm key "a lowercase SQL identifier" default fun value =>
    if Text.isIdentifier value ∧ value.length ≤ 63 then some value else none

end Variables

namespace Settings

def variableNames : List String :=
  ["RPC_URL", "RPC_TIMEOUT_MS", "RPC_RETRIES", "RPC_BACKOFF_MS", "RPC_BACKOFF_JITTER",
    "START_HEIGHT", "TICK_INTERVAL_MS", "CATCH_UP_DELAY_MS", "INCLUDE_FINALIZE_EVENTS", "LOG_LEVEL",
    "PG_CONNECTION_STRING", "PG_HOST", "PG_PORT", "PG_USER", "PG_PASSWORD", "PG_DB", "PG_SSL",
    "PG_POOL_SIZE", "PG_SCHEMA", "PROGRESS_ID", "AGENT_URL", "AGENT_TIMEOUT_MS"]

/-- The settings that variables make. -/
def resolve (environment : Variables) : Except Fault Settings := do
  return {
    rpcUrl := (← environment.address "RPC_URL").getD "http://127.0.0.1:26657"
    timeout := ← environment.natural "RPC_TIMEOUT_MS" 15000 1
    retries := ← environment.natural "RPC_RETRIES" 2 0
    backoff := ← environment.natural "RPC_BACKOFF_MS" 250 0
    jitter := ← environment.ratio "RPC_BACKOFF_JITTER" (Number.ofDecimal false 2 (-1))
    startHeight := ← environment.natural "START_HEIGHT" 1 1
    tickInterval := ← environment.natural "TICK_INTERVAL_MS" 1000 1
    catchUpDelay := ← environment.natural "CATCH_UP_DELAY_MS" 100 0
    withBlockEvents := ← environment.flag "INCLUDE_FINALIZE_EVENTS" false
    logLevel := ← environment.logLevel
    database := {
      connection := environment.value? "PG_CONNECTION_STRING"
      host := environment.value? "PG_HOST"
      port := ← environment.natural "PG_PORT" 5432 1
      user := environment.value? "PG_USER"
      password := environment.value? "PG_PASSWORD"
      database := environment.value? "PG_DB"
      ssl := ← environment.flag "PG_SSL" false
      poolSize := ← environment.natural "PG_POOL_SIZE" 5 1
      schema := ← environment.identifier "PG_SCHEMA" "hac"
      progressId := (environment.value? "PROGRESS_ID").getD "default" }
    agentUrl := ← environment.address "AGENT_URL"
    agentTimeout := ← environment.natural "AGENT_TIMEOUT_MS" 30000 1 }

/-!
## Showing settings
-/

def optionalMember (name : String) (text : Option String) : Members :=
  (text.map fun text => (name, Value.text text)).toList

def naturalMember (name : String) (value : Nat) : String × Value :=
  (name, .number (.ofNat value))

/-- Database settings as a document; those that are not set are left out. -/
def databaseMembers (settings : DatabaseSettings) : Members :=
  optionalMember "connectionString" settings.connection ++
    optionalMember "host" settings.host ++
    [naturalMember "port" settings.port] ++
    optionalMember "user" settings.user ++
    optionalMember "password" settings.password ++
    optionalMember "database" settings.database ++
    [("ssl", .flag settings.ssl), naturalMember "poolSize" settings.poolSize,
      ("schema", .text settings.schema), ("progressId", .text settings.progressId)]

def members (settings : Settings) : Members :=
  [("rpcUrl", .text settings.rpcUrl), naturalMember "timeoutMs" settings.timeout,
    naturalMember "retries" settings.retries, naturalMember "backoffMs" settings.backoff,
    ("backoffJitter", .number settings.jitter), naturalMember "startHeight" settings.startHeight,
    naturalMember "tickIntervalMs" settings.tickInterval,
    naturalMember "catchUpDelayMs" settings.catchUpDelay,
    ("includeFinalizeEvents", .flag settings.withBlockEvents),
    ("logLevel", .text settings.logLevel.name),
    ("pg", .record (databaseMembers settings.database)),
    ("agent", .record
      [("url", Value.ofText? settings.agentUrl), naturalMember "timeoutMs" settings.agentTimeout])]

def mask : String := "***"

/-- The password of the first user that a text names behind two slashes, masked: all from the colon
behind the user to the next `@`. -/
def maskPassword : List Char → List Char
  | '/' :: '/' :: rest =>
      let user := rest.takeWhile fun char => !":/@".toList.contains char
      match rest.drop user.length with
      | ':' :: secret =>
          match secret.dropWhile (· ≠ '@') with
          | '@' :: location =>
              if user.isEmpty then '/' :: maskPassword ('/' :: rest)
              else '/' :: '/' :: user ++ ':' :: mask.toList ++ '@' :: location
          | _ => '/' :: maskPassword ('/' :: rest)
      | _ => '/' :: maskPassword ('/' :: rest)
  | char :: rest => char :: maskPassword rest
  | [] => []
termination_by text => text.length

def masked (settings : Settings) : Settings :=
  { settings with
    database := { settings.database with
      connection := settings.database.connection.map fun connection =>
        String.ofList (maskPassword connection.toList)
      password := settings.database.password.map fun _ => mask } }

/-- The line that says what settings are in force. -/
def line (settings : Settings) : Log.Line :=
  { level := .info, source := .settings, message := "[config] resolved",
    facts := some settings.masked.members }

end Settings

end RollCall
