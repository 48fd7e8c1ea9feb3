/-!
# Events

Events as blocks carry them: a type and a list of attributes, whose keys may repeat.
-/

set_option autoImplicit false

namespace RollCall

structure Attribute where
  key : String
  value : String
deriving DecidableEq, Repr

structure Event where
  type : String
  attributes : List Attribute
deriving DecidableEq, Repr

/-- The kinds of governance events. -/
inductive Event.Kind where
  | grant
  | discussion
  | proposal
  | settlement
deriving DecidableEq, Repr

namespace Event.Kind

def all : List Kind :=
  [.grant, .discussion, .proposal, .settlement]

def name : Kind → String
  | grant => "grant"
  | discussion => "discussion"
  | proposal => "proposal"
  | settlement => "settle_proposal"

def named? (type : String) : Option Kind :=
  all.find? fun kind => kind.name == type

end Event.Kind

end RollCall
