import RollCall.Advice
import RollCall.Fault
import RollCall.Http
import RollCall.Ledger
import RollCall.Log
import RollCall.Sql

/-!
# Traces

What a run leaves behind besides its result: the lines that it logs, what it asks of others, and
which steps of indexing it completes. Notes stand in the order in which things happen.
-/

set_option autoImplicit false

namespace RollCall

/-- What became of a dispatched event. -/
inductive Outcome where
  /-- Its handler ran to its end. -/
  | handled
  /-- No handler is for its type. -/
  | ignored
  /-- Its attributes are not those of its type. -/
  | skipped
  /-- Its handler ended in a fault. -/
  | failed
deriving DecidableEq, Repr

def Outcome.name : Outcome → String
  | handled => "handled"
  | ignored => "ignored"
  | skipped => "skipped"
  | failed => "failed"

/-- One thing that happened. -/
inductive Note where
  | logged (line : Log.Line)
  | requested (request : Http.Request)
  | executed (statement : Sql.Statement)
  | asked (question : Chain.Question)
  | answered (question : Chain.Question) (answer : question.Answer)
  | consulted (request : Advice.Request)
  /-- The ledger was asked to do something, and did so or refused. -/
  | recorded (operation : Ledger.Operation) (succeeded : Bool)
  /-- An event of a block was dispatched by a tag; it has no outcome if that ended in a fault. -/
  | dispatched (tag : String) (height : Height) (ordinal : Number) (event : Event)
      (outcome : Option Outcome)
  /-- The votes of a height were brought up to date. -/
  | reconciled (height : Height)

/-- Notes, oldest first. -/
abbrev Trace := List Note

namespace Trace

def lines (trace : Trace) : List Log.Line :=
  trace.filterMap fun
    | .logged line => some line
    | _ => none

def requests (trace : Trace) : List Http.Request :=
  trace.filterMap fun
    | .requested request => some request
    | _ => none

def statements (trace : Trace) : List Sql.Statement :=
  trace.filterMap fun
    | .executed statement => some statement
    | _ => none

def questions (trace : Trace) : List Chain.Question :=
  trace.filterMap fun
    | .asked question => some question
    | _ => none

def consultations (trace : Trace) : List Advice.Request :=
  trace.filterMap fun
    | .consulted request => some request
    | _ => none

/-- What the ledger was asked to do, and did. -/
def operations (trace : Trace) : List Ledger.Operation :=
  trace.filterMap fun
    | .recorded operation true => some operation
    | _ => none

/-- What the ledger was asked to do, and did, each with the tag of the next event whose dispatch
ends. For what a handler stores this is the tag of its own event. -/
def taggedOperations (trace : Trace) : List (Ledger.Operation × Option String) :=
  (trace.foldr (fun note (operations, tag) =>
    match note with
    | .recorded operation true => ((operation, tag) :: operations, tag)
    | .dispatched tag _ _ _ _ => (operations, some tag)
    | _ => (operations, tag)) ([], none)).1

end Trace

end RollCall
