import RollCall.Event
import RollCall.Number.Shortest

/-!
# The chain as the indexer sees it

What a node is asked, and what it answers.
-/

set_option autoImplicit false

namespace RollCall

/-- A block height. Nodes answer in natural numbers; whatever else is asked for is a height too. -/
abbrev Height := Number

namespace Chain

structure TxResult where
  code : Nat
  events : List Event
deriving DecidableEq, Repr

/-- The results of one block. The height is the one that the node names, or else the one asked
for. -/
structure BlockResults where
  height : Number
  txResults : List TxResult
  blockEvents : List Event
deriving DecidableEq, Repr

/-- A signature under a block. Absent validators have an empty address. -/
structure Signature where
  flag : Number
  address : String
  timestamp : Option String
deriving DecidableEq, Repr

structure Commit where
  height : Number
  signatures : List Signature
deriving DecidableEq, Repr

/-- How far a node is. -/
structure Status where
  latest : Height
  earliest : Height
  catchingUp : Bool
deriving DecidableEq, Repr

/-- The answer to an application query. -/
structure QueryReply where
  code : Nat
  log : String
  value : Option String
  height : Height
deriving DecidableEq, Repr

inductive Question where
  | status
  | blockResults (height : Height)
  | commit (height : Height)
  | query (path data : String)
deriving DecidableEq, Repr

@[reducible]
def Question.Answer : Question → Type
  | .status => Status
  | .blockResults _ => BlockResults
  | .commit _ => Commit
  | .query _ _ => QueryReply

/-- A question on one line. -/
def Question.label : Question → String
  | .status => "status"
  | .blockResults height => s!"block_results:{height}"
  | .commit height => s!"commit:{height}"
  | .query path data => s!"abci_query:{path}:{data}"

/-- The events of a block in the order in which they are dispatched: those of its transactions,
then, if asked for, those of the block itself. -/
def BlockResults.events (results : BlockResults) (withBlockEvents : Bool) : List Event :=
  results.txResults.flatMap TxResult.events ++ if withBlockEvents then results.blockEvents else []

end Chain

end RollCall
