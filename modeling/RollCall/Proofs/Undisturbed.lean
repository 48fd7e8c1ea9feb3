import RollCall.Proofs.Pairs
import RollCall.Proofs.Runs

/-!
# Collaborators that ask no one to stop

Whoever the collaborators are, there are ones who do and answer the same and never ask the indexer to
stop. What the indexer does with the two is the same as long as it does not look whether it was asked,
and within a pass it never looks.
-/

set_option autoImplicit false

namespace RollCall

open Call

/-!
## Calls
-/

namespace Call

variable {σ τ α β : Type}

/-- A call whose caller is not asked to stop while it is under way. -/
def undisturbed (call : Call σ α) : Call σ α := fun state =>
  { call state with interrupted := false }

theorem undisturbed_bind {call call' : Call σ α} {next next' : α → Call σ β}
    (first : call.undisturbed = call') (rest : ∀ value, (next value).undisturbed = next' value) :
    (call >>= next).undisturbed = call' >>= next' := by
  subst first
  obtain rfl : (fun value => (next value).undisturbed) = next' := funext rest
  funext state
  cases ended : (call state).result with
  | error fault =>
      have ended' : (call.undisturbed state).result = .error fault := ended
      rw [undisturbed, bind_of_error ended, bind_of_error ended']
      rfl
  | ok value =>
      have ended' : (call.undisturbed state).result = .ok value := ended
      rw [undisturbed, bind_of_ok ended, bind_of_ok ended']
      rfl

theorem undisturbed_attempt {call call' : Call σ α} (same : call.undisturbed = call') :
    call.attempt.undisturbed = call'.attempt := by
  subst same
  rfl

end Call

namespace Chain

variable {ν χ α : Type}

/-- A provider whose clients do the same and ask no one to stop. -/
def Provider.undisturbed (provider : Provider ν χ) : Provider ν χ where
  connect := provider.connect.undisturbed
  isHealthy := provider.isHealthy
  close := provider.close.undisturbed
  ask question := (provider.ask question).undisturbed

namespace Connection

variable (provider : Provider ν χ)

theorem byClient_undisturbed {call call' : Call (ν × χ) α} (place : Nat)
    (same : call.undisturbed = call') : (byClient place call).undisturbed = byClient place call' := by
  subst same
  funext connection
  unfold Call.undisturbed byClient
  cases connection.clients[place]? with
  | none => rfl
  | some client => rfl

theorem teardown_undisturbed : (teardown provider).undisturbed = teardown provider.undisturbed := by
  apply undisturbed_bind rfl
  intro connection
  cases connection.current with
  | none => rfl
  | some place =>
      apply undisturbed_bind (undisturbed_attempt (byClient_undisturbed place rfl))
      intro closed
      cases closed with
      | ok _ => rfl
      | error fault => exact undisturbed_bind rfl fun _ => rfl

theorem ensure_undisturbed : (ensure provider).undisturbed = ensure provider.undisturbed := by
  apply undisturbed_bind rfl
  intro connection
  change Call.undisturbed (if connection.isHealthy provider then _ else _) =
    if connection.isHealthy provider then _ else _
  split
  · rfl
  · apply undisturbed_bind (teardown_undisturbed provider)
    intro _
    apply undisturbed_bind rfl
    intro connected
    cases connected with
    | error fault => exact undisturbed_bind rfl fun _ => rfl
    | ok client =>
        apply undisturbed_bind rfl
        intro _
        apply undisturbed_bind rfl
        intro connection
        dsimp only
        split
        · rfl
        · rfl

theorem begin_undisturbed : (begin provider).undisturbed = begin provider.undisturbed := by
  apply undisturbed_bind (ensure_undisturbed provider)
  intro _
  apply undisturbed_bind rfl
  intro connection
  cases connection.current with
  | some place => rfl
  | none => rfl

theorem finish_undisturbed (place : Nat) (result : Except Fault α) :
    (finish provider place result).undisturbed = finish provider.undisturbed place result := by
  cases result with
  | ok value => rfl
  | error fault =>
      apply undisturbed_bind rfl
      intro connection
      change Call.undisturbed (if fault.isTransport || !connection.isHealthyAt provider place then _
        else _) = if fault.isTransport || !connection.isHealthyAt provider place then _ else _
      split
      · apply undisturbed_bind rfl
        intro cause
        apply undisturbed_bind rfl
        intro _
        split
        · exact undisturbed_bind (teardown_undisturbed provider) fun _ => rfl
        · rfl
      · rfl

theorem ask_undisturbed (question : Question) :
    (ask provider question).undisturbed = ask provider.undisturbed question := by
  apply undisturbed_bind (begin_undisturbed provider)
  intro place
  apply undisturbed_bind
  · apply undisturbed_attempt
    exact undisturbed_bind rfl fun _ => byClient_undisturbed place rfl
  · intro result
    exact finish_undisturbed provider place result

end Connection

end Chain

/-!
## Collaborators
-/

/-- Collaborators who do and answer the same and ask no one to stop. -/
def Collaborators.undisturbed (others : Collaborators) : Collaborators where
  Node := others.Node
  Client := others.Client
  Store := others.Store
  Agent := others.Agent
  Clock := others.Clock
  provider := others.provider.undisturbed
  books operation := (others.books operation).undisturbed
  agent request := (others.agent request).undisturbed
  pause pause := (others.pause pause).undisturbed

variable {others : Collaborators} {α β : Type}

/-- The same world, where no one is asked to stop from now on. -/
def World.undisturbed (world : World others) : World others.undisturbed where
  chain := world.chain
  store := world.store
  agent := world.agent
  clock := world.clock

/-- A call comes to what another comes to where no one is asked to stop. -/
def Call.Mirrored (call : Call (World others) α) (twin : Call (World others.undisturbed) α) : Prop :=
  ∀ world, twin world.undisturbed =
    { result := (call world).result
      state := (call world).state.undisturbed
      trace := (call world).trace
      interrupted := false }

namespace Call.Mirrored

theorem bind {call : Call (World others) α} {twin : Call (World others.undisturbed) α}
    {next : α → Call (World others) β} {next' : α → Call (World others.undisturbed) β}
    (first : call.Mirrored twin) (rest : ∀ value, (next value).Mirrored (next' value)) :
    (call >>= next).Mirrored (twin >>= next') := by
  intro world
  have begun := first world
  cases ended : (call world).result with
  | error fault =>
      have ended' : (twin world.undisturbed).result = .error fault := by rw [begun, ended]
      rw [bind_of_error ended, bind_of_error ended', begun]
  | ok value =>
      have ended' : (twin world.undisturbed).result = .ok value := by rw [begun, ended]
      rw [bind_of_ok ended, bind_of_ok ended', begun, rest value]
      rfl

theorem attempt {call : Call (World others) α} {twin : Call (World others.undisturbed) α}
    (mirrored : call.Mirrored twin) : call.attempt.Mirrored twin.attempt := by
  intro world
  unfold Call.attempt
  rw [mirrored]

theorem note (entry : Note) :
    (Call.note entry : Call (World others) Unit).Mirrored (Call.note entry) :=
  fun _ => rfl

theorem ofExcept (answer : Except Fault α) :
    (Call.ofExcept answer : Call (World others) α).Mirrored (Call.ofExcept answer) :=
  fun _ => rfl

theorem onChain {call twin : Call (Chain.Connection others.Node others.Client) α}
    (same : call.undisturbed = twin) :
    (call.inside World.chain fun chain (world : World others) => { world with chain }).Mirrored
      (Call.inside World.chain (fun chain (world : World others.undisturbed) => { world with chain })
        twin) := by
  subst same
  exact fun _ => rfl

theorem ends {call : Call (World others) α} {twin : Call (World others.undisturbed) α}
    (mirrored : call.Mirrored twin) {world final : World others} {result : Except Fault α}
    {trace : Trace} (ending : call.Ends world result trace final) :
    twin.Ends world.undisturbed result trace final.undisturbed := by
  obtain ⟨interrupted, same⟩ := ending
  refine ⟨false, ?_⟩
  rw [mirrored, same]

theorem calm {call : Call (World others) α} {twin : Call (World others.undisturbed) α}
    (mirrored : call.Mirrored twin) (world : World others) :
    (twin world.undisturbed).interrupted = false := by
  rw [mirrored]

end Call.Mirrored

namespace World

theorem connect_mirrored : (connect : Call (World others) Bool).Mirrored connect :=
  .onChain (Chain.Connection.ensure_undisturbed _)

theorem wait_mirrored (pause : Pause) : (wait pause : Call (World others) Unit).Mirrored (wait pause) :=
  fun _ => rfl

theorem ask_mirrored (question : Chain.Question) :
    (ask question : Call (World others) question.Answer).Mirrored (ask question) := by
  apply Mirrored.bind (.onChain (Chain.Connection.ask_undisturbed _ question))
  intro answer
  exact (Mirrored.note _).bind fun _ _ => rfl

theorem record_mirrored (operation : Ledger.Operation) :
    (record operation : Call (World others) operation.Answer).Mirrored (record operation) := by
  have booked : ((others.books operation).inside World.store fun store (world : World others) =>
      { world with store }).Mirrored ((others.undisturbed.books operation).inside World.store
        fun store (world : World others.undisturbed) => { world with store }) := fun _ => rfl
  apply booked.attempt.bind
  intro result
  exact (Mirrored.note _).bind fun _ => .ofExcept result

theorem consult_mirrored (request : Advice.Request) :
    (consult request : Call (World others) request.Answer).Mirrored (consult request) :=
  (Mirrored.note _).bind fun _ _ => rfl

/-- What is not asked whether it was disturbed is the same undisturbed. -/
theorem paired_mirrored : @Paired others others.undisturbed Mirrored where
  pure _ _ := rfl
  fail _ _ := rfl
  bind := Mirrored.bind
  attempt := Mirrored.attempt
  note := Mirrored.note
  record := record_mirrored
  ask := ask_mirrored
  consult := consult_mirrored

end World

end RollCall
