import RollCall.Chain.Client
import RollCall.Advice.Client
import RollCall.Follow
import RollCall.Inspect
import RollCall.Ledger.Database
import RollCall.Settings.File
import RollCall.Sql.Pool

/-!
# Programs

Two programs: one follows the chain, one looks into the index. Both take their settings from
variables and end with an exit code; what they print and log is part of how they end. Neither knows
a network or a database other than the ones that it is given.
-/

set_option autoImplicit false

namespace RollCall

inductive Program where
  | inspect
  | index
deriving DecidableEq, Repr

structure Exit where
  code : Nat
  output : String := ""
  errors : String := ""
  log : List Log.Line := []

/-- What is outside the programs: a network and a database. -/
structure Outside (ν δ : Type) where
  network : Network ν
  execute : Sql.Statement → Call δ Sql.Rows

namespace Outside

variable {ν δ : Type}

/-- The network and the database where there are none. -/
def unreachable : Outside Unit Unit where
  network :=
    { exchange := fun _ => Call.fail (.other "fetch failed")
      pause := fun _ => pure ()
      chance := pure 0 }
  execute _ := Call.fail (.other "connect ECONNREFUSED")

/-- The indexer's collaborators. The agent consents until a client of another one is connected. -/
def collaborators (outside : Outside ν δ) (settings : Settings) : Collaborators where
  Node := ν
  Client := Chain.Session
  Store := Sql.Pools × δ
  Agent := Option Advice.Client × ν
  Clock := Unit
  provider := Chain.Client.provider outside.network
    { rpcUrl := settings.rpcUrl
      retries := .ofNat settings.retries
      backoff := .ofNat settings.backoff
      jitter := settings.jitter }
  books := Ledger.Database.books
    { schema := settings.database.schema
      run := fun statement =>
        (outside.execute statement).inside Prod.snd fun database state => (state.1, database)
      close := Sql.Pools.close.inside Prod.fst fun pools state => (pools, state.2) }
  agent request := do
    match (← Call.read).1 with
    | none => (Advice.consenting request).inside (fun _ => ()) fun _ state => state
    | some client =>
        (client.agent outside.network request).inside Prod.snd fun network state =>
          (state.1, network)
  pause _ := pure ()

def world (outside : Outside ν δ) (settings : Settings) (network : ν) (database : δ) :
    World (outside.collaborators settings) where
  chain := { node := network }
  store := ([], database)
  agent := (none, network)
  clock := ()

def openPool (outside : Outside ν δ) (settings : Settings) :
    Call (World (outside.collaborators settings)) Unit := do
  let acquire := Sql.Pools.acquire (.forIndex settings.database)
  let _ ← acquire.inside (fun world => world.store.1) fun pools world =>
    { world with store := (pools, world.store.2) }

/-- Connects the advisory agent, if one is set. -/
def connectAgent (outside : Outside ν δ) (settings : Settings) :
    Call (World (outside.collaborators settings)) Unit := do
  match settings.agentUrl with
  | none => pure ()
  | some url =>
      let connect := Advice.Client.connect outside.network (.ofNat settings.agentTimeout) url
      let client ← connect.inside (fun world => world.agent.2) fun network world =>
        { world with agent := (world.agent.1, network) }
      Call.modify fun world => { world with agent := (some client, world.agent.2) }

/-- Answers an inspection command. -/
def inspect (outside : Outside ν δ) (settings : Settings) (arguments : List String) :
    Call (World (outside.collaborators settings)) Value := do
  outside.openPool settings
  outside.connectAgent settings
  Inspect.run settings.database.progressId arguments

/-- Prepares the ledger and follows the chain for at most some number of rounds. -/
def follow (outside : Outside ν δ) (settings : Settings) (limit : Nat) :
    Call (World (outside.collaborators settings)) Unit := do
  World.record .init
  if settings.agentUrl.isNone then
    Call.log .info .index "[agent] AGENT_URL not set, advisory agent disabled"
  outside.connectAgent settings
  let options : FollowOptions :=
    { progressId := settings.database.progressId
      startHeight := .ofNat settings.startHeight
      withBlockEvents := settings.withBlockEvents }
  let (result, _) ← Loop.start options limit {}
  Call.ofExcept result

/-- Gives up all connections. -/
def shutDown (outside : Outside ν δ) (settings : Settings) :
    Call (World (outside.collaborators settings)) Unit := do
  Call.log .info .index "Shutdown initiated…"
  match ← (do World.disconnect; World.record .close : Call _ Unit).attempt with
  | .ok () => Call.log .info .index "Shutdown complete."
  | .error fault =>
      let cause ← Call.ofExcept fault.message
      Call.log .error .index s!"Shutdown error: {cause}"

/-- Keeps the index, for at most some number of rounds, and says whether all went well. The fault in
which that ends is logged after all else; one without words is left to the program. -/
def index (outside : Outside ν δ) (settings : Settings) (limit : Nat) :
    Call (World (outside.collaborators settings)) Bool := do
  Call.log .info .index "[start] governance indexer starting..."
  Call.note (.logged settings.line)
  outside.openPool settings
  let result ← (outside.follow settings limit).attempt
  let reported ← (report result).attempt
  outside.shutDown settings
  Call.ofExcept reported
  return result.isOk
where
  /-- Logs the fault in which following the chain ended, if it did. -/
  report (result : Except Fault Unit) : Call (World (outside.collaborators settings)) Unit := do
    if let .error fault := result then
      let cause ← Call.ofExcept fault.message
      Call.log .error .index cause

end Outside

namespace Exit

/-- The last line of a program that ends in a fault which it does not handle. -/
def lastLine (program : Program) (cause : String) : Log.Line :=
  match program with
  | .inspect => { level := .error, source := .inspect, message := s!"[inspect] {cause}" }
  | .index => { level := .error, source := .index, message := s!"[start] fatal: {cause}" }

/-- The end in a fault that a program does not handle. Misuse is answered with the usage, all else
is logged, as far as there are words for it. -/
def failed (program : Program) (log : List Log.Line) : Fault → Exit
  | .usage text => { code := 1, errors := s!"{text}\n{Inspect.usage}\n", log }
  | fault => { code := 1, log := log ++ (fault.words?.map (lastLine program)).toList }

/-- An end of which only the lines that a threshold lets pass are shown. -/
def showing (threshold : Log.Level) (exit : Exit) : Exit :=
  { exit with log := exit.log.filter fun line => threshold.admits line.level }

end Exit

namespace Program

variable {ν δ : Type}

/-- Runs a program. The threshold of the lines that it shows is a variable of the environment
proper, not of the file; only indexing goes over to the setting when it begins. -/
def run (outside : Outside ν δ) (network : ν) (database : δ) (program : Program)
    (environment : Variables) (file : Option String) (arguments : List String) (limit : Nat) :
    Exit :=
  let threshold := Log.Level.threshold (environment.lookup "LOG_LEVEL")
  match Settings.resolve (environment.withFile file) with
  | .error fault => (Exit.failed program [] fault).showing threshold
  | .ok settings =>
      let world := outside.world settings network database
      match program with
      | .inspect =>
          let done := outside.inspect settings arguments world
          match done.result with
          | .ok answer =>
              { code := 0, output := Inspect.output answer ++ "\n", log := done.trace.lines
                : Exit }.showing threshold
          | .error fault => (Exit.failed program done.trace.lines fault).showing threshold
      | .index =>
          let done := outside.index settings limit world
          match done.result with
          | .ok well =>
              { code := if well then 0 else 1, log := done.trace.lines
                : Exit }.showing settings.logLevel
          | .error fault =>
              (Exit.failed program done.trace.lines fault).showing settings.logLevel

end Program

end RollCall
