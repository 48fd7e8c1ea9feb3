import RollCall.Advice.Agents
import RollCall.Chain.Connection
import RollCall.Ledger.Tables

/-!
# The indexer and its collaborators

The indexer works with four others: a node, a ledger, an advisory agent and a clock. Each has a state
of its own that no other can touch, and everything the indexer asks of one is noted.
-/

set_option autoImplicit false

namespace RollCall

/-- What the indexer waits for. -/
inductive Pause where
  /-- The delay before a height while catching up. -/
  | beforeHeight
  /-- The delay between two rounds. -/
  | betweenRounds
deriving DecidableEq, Repr

/-- Those whom the indexer works with. -/
structure Collaborators where
  Node : Type
  Client : Type
  Store : Type
  Agent : Type
  Clock : Type
  provider : Chain.Provider Node Client
  books : Ledger.Books Store
  agent : Advice.Agent Agent
  /-- Lets the time of a pause pass, or less if the indexer is asked to stop. -/
  pause : Service Pause (fun _ => Unit) Clock

/-- The states of all of them. -/
structure World (others : Collaborators) where
  chain : Chain.Connection others.Node others.Client
  store : others.Store
  agent : others.Agent
  clock : others.Clock

namespace World

variable {others : Collaborators}

def ask : Service Chain.Question Chain.Question.Answer (World others) := fun question => do
  let answer ← (Chain.Connection.ask others.provider question).inside World.chain
    fun chain world => { world with chain }
  Call.note (.answered question answer)
  return answer

/-- Makes sure that the node is connected, and says whether it is. -/
def connect : Call (World others) Bool :=
  (Chain.Connection.ensure others.provider).inside World.chain fun chain world => { world with chain }

def disconnect : Call (World others) Unit :=
  (Chain.Connection.teardown others.provider).inside World.chain
    fun chain world => { world with chain }

def record : Ledger.Books (World others) := fun operation => do
  let result ← ((others.books operation).inside World.store
    fun store world => { world with store }).attempt
  Call.note (.recorded operation result.isOk)
  Call.ofExcept result

def consult : Advice.Agent (World others) := fun request => do
  Call.note (.consulted request)
  (others.agent request).inside World.agent fun agent world => { world with agent }

def wait (pause : Pause) : Call (World others) Unit :=
  (others.pause pause).inside World.clock fun clock world => { world with clock }

end World

end RollCall
