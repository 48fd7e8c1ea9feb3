import RollCall.Dispatch
import RollCall.Reconcile

/-!
# Following the chain

The loop does every height below the head, one after the other. A height is done when its events are
dispatched, its votes are up to date and it is saved as the last one done; a fault before that leaves
it to the next round. Someone outside may ask the loop to stop at any moment: the height in flight is
finished, and no other is begun.
-/

set_option autoImplicit false

namespace RollCall

inductive Phase where
  | idle
  | fetchingHead
  | catchingUp
  | synced
  | stopped
deriving DecidableEq, Repr

def Phase.name : Phase → String
  | idle => "idle"
  | fetchingHead => "fetching_head"
  | catchingUp => "catching_up"
  | synced => "synced"
  | stopped => "stopped"

/-- How the loop is set up. -/
structure FollowOptions where
  progressId : String
  startHeight : Height
  withBlockEvents : Bool
deriving DecidableEq, Repr

/-- The loop. The next height is not known before it has been resumed from the ledger. -/
structure Loop where
  phase : Phase := .idle
  next : Option Height := none
  stopping : Bool := false
  /-- The fault that no further round can clear, once one was met. -/
  haltedBy : Option Fault := none
deriving Repr

/-- What a round came to. -/
structure Summary where
  /-- How many heights were done. -/
  processed : Nat
  /-- The head of the chain, if it was told. -/
  head : Option Height
  /-- The next height to do. -/
  height : Height
  error : Option String := none
  /-- Whether no further round can clear the error. -/
  permanent : Bool := false
deriving DecidableEq, Repr

namespace Loop

variable {others : Collaborators}

/-- Runs a call, and takes note if the loop is asked to stop meanwhile. -/
def heed {α : Type} (loop : Loop) (call : Call (World others) α) :
    Call (World others) (Except Fault α × Loop) := do
  let (result, interrupted) ← call.watch
  return (result, { loop with stopping := loop.stopping || interrupted })

/-- The height after the last one done, or where to start if none is. -/
def firstUndone (options : FollowOptions) (last : Option Height) : Height :=
  last.elim options.startHeight (· + 1)

/-- Reads from the ledger which height is next. -/
def resumePoint (options : FollowOptions) : Call (World others) Height := do
  let last ← World.record (.progress options.progressId)
  let next := firstUndone options last
  let shown := last.elim "null" fun last => toString last
  Call.log .info .follow s!"[resume] last_height={shown} → start from {next}"
  return next

/-- Puts the loop in front of the first height that is not done. -/
def resume (options : FollowOptions) (loop : Loop) :
    Call (World others) (Except Fault Height × Loop) := do
  match ← loop.heed (resumePoint options) with
  | (.ok next, loop) => return (.ok next, { loop with next := some next })
  | (.error fault, loop) => return (.error fault, loop)

/-- The end of a round in a fault at a height. Of a fault without words there is no summary. -/
def failed (loop : Loop) (processed : Nat) (head : Option Height) (height : Height)
    (fault : Fault) : Call (World others) (Except Fault Summary × Loop) := do
  match fault.message with
  | .error unreported => return (.error unreported, { loop with phase := .idle })
  | .ok error =>
      let place := [("height", Value.number height)]
      if fault.isPermanent then
        Call.log .error .follow s!"[follow] height {height} failed permanently: {error}"
          (some (Members.override fault.facts place))
        return (.ok { processed, head, height, error := some error, permanent := true },
          { loop with phase := .idle, haltedBy := some fault })
      else
        Call.log .error .follow s!"[follow] height {height} failed: {error}" (some place)
        return (.ok { processed, head, height, error := some error }, { loop with phase := .idle })

/-- Dispatches events of a height, of which `ordinal` came before, and says how many were
handled. -/
def dispatchAll (height : Height) : List Event → Nat → Call (World others) Nat
  | [], _ => return 0
  | event :: rest, ordinal => do
      let outcome ← World.dispatch event.type event height (.ofNat ordinal)
      let handled ← dispatchAll height rest (ordinal + 1)
      return if outcome = .handled then handled + 1 else handled

/-- Does a height. -/
def process (options : FollowOptions) (height : Height) : Call (World others) Unit := do
  let results ← World.ask (.blockResults height)
  let handled ← dispatchAll height (results.events options.withBlockEvents) 0
  let votes ← World.reconcile height
  World.record (.saveProgress options.progressId height)
  if 0 < handled ∨ 0 < votes.inserted then
    Call.log .info .follow
      s!"[follow] height={height} events={handled} votes={votes.inserted} ({votes.kind})"
  else Call.log .debug .follow s!"[follow] height={height} empty"

/-- More heights than a round can do: there are no more that stand one apart at all, as far as
numbers tell them apart. -/
def heightBound : Nat := 2 * Number.safeBound + 4

/-- Does the heights below the head from `height` on, at most `left` of them and after `processed`
have been done, until the loop is asked to stop. -/
def catchUp (options : FollowOptions) (head : Height) :
    Nat → Height → Nat → Loop → Call (World others) (Except Fault Summary × Loop)
  | 0, height, processed, loop => ended height processed loop
  | left + 1, height, processed, loop => do
      if loop.stopping || !height.below head then ended height processed loop
      else
        let (_, loop) ← heed { loop with phase := .catchingUp } (World.wait .beforeHeight)
        if loop.stopping then ended height processed loop
        else
          match ← loop.heed (process options height) with
          | (.error fault, loop) => loop.failed processed (some head) height fault
          | (.ok (), loop) =>
              catchUp options head left (height + 1) (processed + 1)
                { loop with next := some (height + 1) }
where
  /-- The end of a round without a fault. -/
  ended (height : Height) (processed : Nat) (loop : Loop) :
      Call (World others) (Except Fault Summary × Loop) :=
    return (.ok { processed, head := some head, height },
      { loop with phase := if head.atMost height then .synced else .idle })

/-- A round of a loop that knows its next height. -/
def round (options : FollowOptions) (loop : Loop) (height : Height) :
    Call (World others) (Except Fault Summary × Loop) := do
  if loop.stopping then return (.ok { processed := 0, head := none, height }, loop)
  else
    match ← heed { loop with phase := .fetchingHead } World.connect with
    | (.error fault, loop) => return (.error fault, loop)
    | (.ok false, loop) =>
        loop.failed 0 none height (.other "chain connection unavailable")
    | (.ok true, loop) =>
        match ← loop.heed (World.ask .status) with
        | (.error fault, loop) => loop.failed 0 none height fault
        | (.ok status, loop) =>
            catchUp options status.latest heightBound height 0 loop

/-- One round: asks how far the chain is and does what is behind. It ends in a summary, also of a
fault, unless there are no words for the fault. -/
def tick (options : FollowOptions) (loop : Loop) :
    Call (World others) (Except Fault Summary × Loop) := do
  match loop.next with
  | some height => loop.round options height
  | none =>
      match ← loop.resume options with
      | (.ok height, loop) => loop.round options height
      | (.error fault, loop) => loop.failed 0 none options.startHeight fault

/-- Rounds with pauses between them, at most `limit` of them, until the loop is asked to stop, one
ends without a summary, or one has met a fault that no further round can clear. -/
def rounds (options : FollowOptions) : Nat → Loop → Call (World others) (Except Fault Unit × Loop)
  | 0, loop => return (.ok (), loop)
  | limit + 1, loop => do
      if loop.stopping then return (.ok (), loop)
      else
        match ← loop.tick options with
        | (.error fault, loop) => return (.error fault, loop)
        | (.ok _, loop) =>
            match loop.haltedBy with
            | some fault => return (.error fault, loop)
            | none =>
                let (_, loop) ← loop.heed (World.wait .betweenRounds)
                rounds options limit loop

/-- Follows the chain for at most some number of rounds, and ends in the fault that stopped the
loop, if one did. -/
def start (options : FollowOptions) (limit : Nat) (loop : Loop) :
    Call (World others) (Except Fault Unit × Loop) := do
  let (result, loop) ← rounds options limit loop
  let shown := loop.next.elim "n/a" fun next => toString next
  Call.log .info .follow s!"[follow] stopped at height {shown}"
  return (result, { loop with phase := .stopped })

end Loop

end RollCall
