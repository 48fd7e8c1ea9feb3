import RollCall.Text
import RollCall.Value

/-!
# Log lines

What is logged is data: a level, the part of the indexer that speaks, a message, and the facts it
is about.
-/

set_option autoImplicit false

namespace RollCall.Log

/-- The levels of lines, and two more that only a threshold can have. -/
inductive Level where
  | trace
  | debug
  | info
  | warn
  | error
  | fatal
  | silent
deriving DecidableEq, Repr

namespace Level

def all : List Level :=
  [.trace, .debug, .info, .warn, .error, .fatal, .silent]

def name : Level → String
  | trace => "trace"
  | debug => "debug"
  | info => "info"
  | warn => "warn"
  | error => "error"
  | fatal => "fatal"
  | silent => "silent"

/-- The number that a written line carries for its level. -/
def rank : Level → Nat
  | trace => 10
  | debug => 20
  | info => 30
  | warn => 40
  | error => 50
  | fatal => 60
  | silent => 100

/-- The level that a word names in any letter case. -/
def named? (word : String) : Option Level :=
  all.find? fun level => Text.isWord level.name word

/-- The threshold that a setting asks for; `info` where it names no level. -/
def threshold (setting : Option String) : Level :=
  (named? (Text.trim (setting.getD ""))).getD .info

def admits (threshold level : Level) : Bool :=
  threshold.rank ≤ level.rank

end Level

/-- The parts of the indexer that log. -/
inductive Source where
  | advisor
  | settings
  | pool
  | schema
  | dispatch
  | reconcile
  | client
  | connection
  | follow
  | inspect
  | index
deriving DecidableEq, Repr

def Source.name : Source → String
  | advisor => "agent/client"
  | settings => "config"
  | pool => "db/pg"
  | schema => "db/schema"
  | dispatch => "indexer/dispatcher"
  | reconcile => "indexer/reconcile"
  | client => "rpc/client"
  | connection => "rpc/connection"
  | follow => "runner/follow"
  | inspect => "scripts/inspect"
  | index => "index"

structure Line where
  level : Level
  source : Source
  message : String
  facts : Option Members := none

/-- The application that every written line names. -/
def application : String := "hac-indexer"

/-- A line as it is written: its facts stand among its members. -/
def Line.written (line : Line) : Value :=
  .record
    ([("level", .number (.ofNat line.level.rank)), ("app", .text application),
        ("module", .text line.source.name)] ++
      line.facts.getD [] ++ [("msg", .text line.message)])

end RollCall.Log
