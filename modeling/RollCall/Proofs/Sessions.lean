import RollCall.Proofs.Runs

/-!
# Sessions

In a session the indexer does what it is told, one act after the other: it dispatches any event as of
any height, brings the votes of any height up to date, resumes, makes a round, stops, or starts anew
on the same ledger. An act that fails is answered with its fault, and the session goes on.
-/

set_option autoImplicit false

namespace RollCall

open Call

/-- Something that the indexer is told to do. -/
inductive Act where
  | dispatch (tag : String) (event : Event) (height : Height) (ordinal : Number)
  | reconcile (height : Height)
  | resume
  | tick
  | stop
  | restart
deriving DecidableEq, Repr

/-- What an act came to. -/
inductive Reply where
  | dispatched (outcome : Except Fault Outcome)
  | reconciled (reconciliation : Except Fault Reconciliation)
  | resumed (height : Except Fault Height)
  | ticked (report : Except Fault Summary)
  | done

namespace Loop

variable {others : Collaborators}

/-- Does what the indexer is told, and takes note if the loop is asked to stop meanwhile. -/
def perform (options : FollowOptions) (loop : Loop) : Act → Call (World others) (Reply × Loop)
  | .dispatch tag event height ordinal => do
      let (outcome, loop) ← loop.heed (World.dispatch tag event height ordinal)
      return (.dispatched outcome, loop)
  | .reconcile height => do
      let (reconciliation, loop) ← loop.heed (World.reconcile height)
      return (.reconciled reconciliation, loop)
  | .resume => do
      let (height, loop) ← loop.resume options
      return (.resumed height, loop)
  | .tick => do
      let (report, loop) ← loop.tick options
      return (.ticked report, loop)
  | .stop => return (.done, { loop with stopping := true })
  | .restart => do
      Call.modify World.reconnected
      return (.done, {})

/-- Does one act after the other. -/
def session (options : FollowOptions) : List Act → Loop → Call (World others) (List Reply × Loop)
  | [], loop => return ([], loop)
  | act :: acts, loop => do
      let (reply, loop) ← loop.perform options act
      let (replies, loop) ← session options acts loop
      return (reply :: replies, loop)

/-!
## What every act keeps
-/

section Keeping

variable {options : FollowOptions} {C : {α : Type} → Call (World others) α → Prop}
  (around : Around C options)

include around

theorem perform_keeps (passes : ∀ height, C (process options height))
    (votes : ∀ height, C (World.reconcile height)) (restarts : C (Call.modify World.reconnected))
    (loop : Loop) (act : Act)
    (dispatches : ∀ tag event height ordinal, act = .dispatch tag event height ordinal →
      C (World.dispatch tag event height ordinal)) : C (loop.perform options act) := by
  have closed := around.closed
  cases act with
  | dispatch tag event height ordinal =>
      exact closed.bind (heed_keeps closed loop (dispatches tag event height ordinal rfl)) fun _ =>
        closed.pure _
  | reconcile height =>
      exact closed.bind (heed_keeps closed loop (votes height)) fun _ => closed.pure _
  | resume => exact closed.bind (resume_keeps around loop) fun _ => closed.pure _
  | tick => exact closed.bind (tick_keeps around passes loop) fun _ => closed.pure _
  | stop => exact closed.pure _
  | restart => exact closed.bind restarts fun _ => closed.pure _

theorem session_keeps (fetches : ∀ height, C (World.ask (.blockResults height)))
    (dispatches : ∀ tag event height ordinal, C (World.dispatch tag event height ordinal))
    (votes : ∀ height, C (World.reconcile height))
    (saves : ∀ height, C (World.record (.saveProgress options.progressId height)))
    (restarts : C (Call.modify World.reconnected)) (acts : List Act) (loop : Loop) :
    C (session options acts loop) := by
  have closed := around.closed
  have passes : ∀ height, C (process options height) := fun height =>
    World.process_of_stages closed.toSequential around.log (fetches height)
      (fun events => World.dispatchAll_of_dispatch closed.toSequential
        (fun event ordinal => dispatches _ event height ordinal) events 0)
      (votes height) (saves height)
  induction acts generalizing loop with
  | nil => exact closed.pure _
  | cons act rest ih =>
      refine closed.bind (perform_keeps around passes votes restarts loop act
        fun tag event height ordinal _ => dispatches tag event height ordinal) ?_
      rintro ⟨reply, loop⟩
      exact closed.bind (ih loop) fun _ => closed.pure _

end Keeping

theorem session_replays (discreet : others.Discreet) {tables : others.Store → Ledger.Tables}
    (kept : others.books.KeptIn tables) (options : FollowOptions) (acts : List Act) (loop : Loop) :
    Keeps (Replays tables : World others → Trace → World others → Prop)
      (session options acts loop) := by
  have steps := World.steps_replays discreet kept
  refine session_keeps (between_replays discreet kept).around (fun _ => steps.ask _ trivial)
    (fun tag event height ordinal => World.dispatch_keeps steps Note.undone_of_logged
      (fun _ _ => trivial) tag event ordinal (by simp [Note.IsUndone]))
    (fun height => World.reconcile_keeps (steps.parts Note.undone_of_logged) (fun _ _ => trivial)
      (fun _ _ => trivial) (fun _ _ => trivial) (steps.note _ (by simp [Note.IsUndone])))
    (fun _ => steps.record _ trivial) ?_ acts loop
  exact Keeps.modify fun _ => replays_of_undone rfl (by simp)

end Loop

end RollCall
