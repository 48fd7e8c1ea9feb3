import RollCall.Proofs.Collaborators
import RollCall.Proofs.Wording

/-!
# Dealings with the collaborators

What it comes to when the indexer asks the node, has the ledger do something or turns to the agent:
which part of the world can change, and what is noted. Nothing is assumed of what the node and the
agent answer.
-/

set_option autoImplicit false

namespace RollCall

open Call

/-!
## The connection
-/

namespace Chain.Connection

variable {ν χ : Type} {provider : Provider ν χ}

/-- A relation that everything keeps which the connection does besides asking. -/
structure Steps (provider : Provider ν χ) (R : Connection ν χ → Trace → Connection ν χ → Prop) :
    Prop where
  chaining : Chaining R
  log : ∀ level source message facts, Keeps R (Call.log level source message facts)
  arrange : ∀ change : Connection ν χ → Connection ν χ,
    (∀ connection, (change connection).node = connection.node) → Keeps R (Call.modify change)
  connect : Keeps R (provider.connect.inside Connection.node fun node state => { state with node })
  close : ∀ place,
    Keeps R (byClient place (provider.close.inside Prod.snd fun client state => (state.1, client)))

section Steps

variable {R : Connection ν χ → Trace → Connection ν χ → Prop} (steps : Steps provider R)

include steps

theorem teardown_keeps : Keeps R (teardown provider) := by
  refine Keeps.bind steps.chaining (Keeps.read steps.chaining) fun connection => ?_
  cases connection.current with
  | none => exact Keeps.pure steps.chaining ()
  | some place =>
      refine Keeps.bind steps.chaining (Keeps.attempt (steps.close place)) ?_
      rintro (fault | _)
      · refine Keeps.message_bind steps.chaining fault fun cause => ?_
        exact Keeps.bind steps.chaining (steps.log _ _ _ _) fun _ => steps.arrange _ fun _ => rfl
      · exact steps.arrange _ fun _ => rfl

theorem ensure_keeps : Keeps R (ensure provider) := by
  refine Keeps.bind steps.chaining (Keeps.read steps.chaining) fun connection => ?_
  split
  · exact Keeps.pure steps.chaining _
  · refine Keeps.bind steps.chaining (teardown_keeps steps) fun _ => ?_
    refine Keeps.bind steps.chaining (Keeps.attempt steps.connect) ?_
    rintro (fault | client)
    · refine Keeps.message_bind steps.chaining fault fun cause => ?_
      exact Keeps.bind steps.chaining (steps.log _ _ _ _) fun _ => Keeps.pure steps.chaining _
    · refine Keeps.bind steps.chaining (steps.arrange _ fun _ => rfl) fun _ => ?_
      refine Keeps.bind steps.chaining (Keeps.read steps.chaining) fun _ => ?_
      dsimp only
      split
      · exact Keeps.bind steps.chaining (steps.log _ _ _ _) fun _ => Keeps.pure steps.chaining _
      · exact Keeps.pure steps.chaining _

theorem begin_keeps : Keeps R (begin provider) := by
  refine Keeps.bind steps.chaining (ensure_keeps steps) fun _ => ?_
  refine Keeps.bind steps.chaining (Keeps.read steps.chaining) fun connection => ?_
  split
  · exact Keeps.pure steps.chaining _
  · exact Keeps.fail steps.chaining _

theorem finish_keeps {α : Type} (place : Nat) (result : Except Fault α) :
    Keeps R (finish provider place result) := by
  cases result with
  | ok value => exact Keeps.pure steps.chaining value
  | error fault =>
      refine Keeps.bind steps.chaining (Keeps.read steps.chaining) fun connection => ?_
      dsimp only
      split
      · refine Keeps.message_bind steps.chaining fault fun cause => ?_
        refine Keeps.bind steps.chaining (steps.log _ _ _ _) fun _ => ?_
        split
        · exact Keeps.bind steps.chaining (teardown_keeps steps) fun _ =>
            Keeps.fail steps.chaining fault
        · exact Keeps.fail steps.chaining fault
      · exact Keeps.fail steps.chaining fault

theorem ask_keeps {question : Question} (asked : Keeps R (Call.note (.asked question)))
    (answering : ∀ place, Keeps R (byClient place (provider.ask question))) :
    Keeps R (ask provider question) := by
  refine Keeps.bind steps.chaining (begin_keeps steps) fun place => ?_
  refine Keeps.bind steps.chaining (Keeps.attempt ?_) fun result => finish_keeps steps place result
  exact Keeps.bind steps.chaining asked fun _ => answering place

end Steps

/-- The fault of a call for which there is no client. -/
def unavailable : Fault :=
  .transport "connect" "chain connection unavailable" []

theorem byClient_ends {α : Type} {place : Nat} {call : Call (ν × χ) α}
    {connection final : Connection ν χ} {result : Except Fault α} {trace : Trace}
    (ending : (byClient place call).Ends connection result trace final) :
    (connection.clients[place]? = none ∧ result = .error unavailable ∧ trace = [] ∧
        final = connection) ∨
      ∃ client done, connection.clients[place]? = some client ∧
        call.Ends (connection.node, client) result trace done ∧
        final = { connection.withClient place done.2 with node := done.1 } := by
  obtain ⟨interrupted, same⟩ := ending
  unfold byClient at same
  split at same
  · next missing =>
    cases same
    exact .inl ⟨missing, rfl, rfl, rfl⟩
  · next client found =>
    cases same
    exact .inr ⟨client, _, found, call.ends _, rfl⟩

theorem noting_byClient {α : Type} {allowed : Note → Prop} {place : Nat} {call : Call (ν × χ) α}
    (noting : Keeps (Noting allowed) call) : Keeps (Noting allowed) (byClient place call) := by
  intro connection result trace final ending
  obtain ⟨_, _, rfl, _⟩ | ⟨_, _, _, called, _⟩ := byClient_ends ending
  · simp [Noting]
  · exact noting called

theorem steps_noting {allowed : Note → Prop} (outside : ∀ note : Note, note.isOutside → allowed note)
    (connect : Keeps Quiet provider.connect) (close : Keeps Quiet provider.close) :
    Steps provider (Noting allowed) where
  chaining := Noting.chaining
  log _ _ _ _ := Noting.note (outside _ rfl)
  arrange change _ := Noting.modify change
  connect := Noting.mono (Noting.inside connect) outside
  close _ := Noting.mono (noting_byClient (Noting.inside close)) outside

/-- Asking notes that the question is asked, and otherwise what collaborators may note. -/
theorem ask_notes (question : Question) (connect : Keeps Quiet provider.connect)
    (close : Keeps Quiet provider.close) (answering : Keeps Quiet (provider.ask question)) :
    Keeps (Noting fun note => note.isOutside ∨ note = .asked question) (ask provider question) :=
  ask_keeps (steps_noting (fun _ => .inl) connect close) (Noting.note (.inr rfl)) fun _ =>
    Noting.mono (noting_byClient answering) fun _ => .inl

theorem finish_fails {α : Type} {place : Nat} {fault : Fault}
    {connection final : Connection ν χ} {value : α} {trace : Trace} :
    ¬ (finish provider place (.error fault)).Ends connection (.ok value) trace final := by
  intro ending
  have failing := ends_read_bind.mp ending
  dsimp only at failing
  have failed : ∀ {trace : Trace} {connection : Connection ν χ},
      ¬ (Call.fail fault : Call (Connection ν χ) α).Ends connection (.ok value) trace final :=
    fun ending => nomatch (ends_fail.mp ending).1
  split at failing
  · rcases ends_message_bind.mp failing with ⟨_, impossible, _⟩ | ⟨_, _, logging⟩
    · cases impossible
    · obtain ⟨_, more, _⟩ := ends_log_bind.mp logging
      split at more
      · rcases ends_bind.mp more with ⟨_, impossible, _⟩ | ⟨_, _, _, _, _, last, _⟩
        · cases impossible
        · exact failed last
      · exact failed more
  · exact failed failing

/-- What the node is heard to answer is what a client is answered. -/
theorem answered_of_ask {question : Question} {connection final : Connection ν χ}
    {answer : question.Answer} {trace : Trace}
    (ending : (ask provider question).Ends connection (.ok answer) trace final) :
    ∃ place begun client first second done,
      (begin provider).Ends connection (.ok place) first begun ∧
        (provider.ask question).Ends (begun.node, client) (.ok answer) second done := by
  rcases ends_bind.mp ending with ⟨_, impossible, _⟩ | ⟨place, begun, first, _, began, more, _⟩
  · cases impossible
  obtain ⟨inner, _, _, _, asked, finished, _⟩ := ends_attempt_bind.mp more
  cases inner with
  | error fault => exact (finish_fails finished).elim
  | ok value =>
      obtain ⟨same, _⟩ := ends_pure.mp finished
      cases same
      obtain ⟨second, called, _⟩ := ends_note_bind.mp asked
      obtain ⟨_, impossible, _⟩ | ⟨client, done, _, answered, _⟩ := byClient_ends called
      · cases impossible
      · exact ⟨place, begun, client, first, second, done, began, answered⟩

end Chain.Connection

/-!
## The world
-/

namespace World

variable {others : Collaborators}

/-- The world with a connection that has no clients yet. -/
def reconnected (world : World others) : World others :=
  { world with chain := { node := world.chain.node } }

theorem reconnected_node (world : World others) :
    world.reconnected.chain.node = world.chain.node := rfl

theorem reconnected_store (world : World others) : world.reconnected.store = world.store := rfl

/-- Asking the node touches nothing but the connection. An answer is the last thing noted. -/
theorem ask_ends (discreet : others.Discreet) {question : Chain.Question}
    {world final : World others} {result : Except Fault question.Answer} {trace : Trace}
    (ending : (ask question).Ends world result trace final) :
    final.store = world.store ∧ ∃ asking : Trace,
      (∀ note ∈ asking, note.isOutside ∨ note = .asked question) ∧
      ((∃ answer, result = .ok answer ∧ trace = asking ++ [.answered question answer]) ∨
        (∃ fault, result = .error fault) ∧ trace = asking) := by
  have noted := Chain.Connection.ask_notes question discreet.connect discreet.close
    (discreet.ask question)
  rcases ends_bind.mp ending with ⟨fault, rfl, failed⟩ | ⟨answer, middle, first, second, answered,
    continued, rfl⟩
  · obtain ⟨_, inner, rfl⟩ := ends_inside.mp failed
    exact ⟨rfl, trace, noted inner, .inr ⟨⟨fault, rfl⟩, rfl⟩⟩
  · obtain ⟨_, inner, rfl⟩ := ends_inside.mp answered
    obtain ⟨rest, returned, rfl⟩ := ends_note_bind.mp continued
    obtain ⟨rfl, rfl, rfl⟩ := ends_pure.mp returned
    exact ⟨rfl, first, noted inner, .inl ⟨answer, rfl, rfl⟩⟩

theorem answered_of_ask {question : Chain.Question} {world final : World others}
    {answer : question.Answer} {trace : Trace}
    (ending : (ask question).Ends world (.ok answer) trace final) :
    ∃ state asking done, (others.provider.ask question).Ends state (.ok answer) asking done := by
  rcases ends_bind.mp ending with ⟨_, impossible, _⟩ | ⟨_, _, _, _, asked, noted, _⟩
  · cases impossible
  obtain ⟨_, returned, _⟩ := ends_note_bind.mp noted
  cases (ends_pure.mp returned).1
  obtain ⟨_, inner, _⟩ := ends_inside.mp asked
  obtain ⟨_, begun, client, _, second, done, _, answered⟩ :=
    Chain.Connection.answered_of_ask inner
  exact ⟨_, second, done, answered⟩

/-- What the ledger is asked to do is done and noted as done, or refused and noted as refused. -/
theorem record_ends (discreet : others.Discreet) {tables : others.Store → Ledger.Tables}
    (kept : others.books.KeptIn tables) {operation : Ledger.Operation} {world final : World others}
    {result : Except Fault operation.Answer} {trace : Trace}
    (ending : (record operation).Ends world result trace final) :
    ∃ quiet : Trace, (∀ note ∈ quiet, note.isOutside) ∧
      ((result = .ok ((tables world.store).perform operation).1 ∧
          tables final.store = ((tables world.store).perform operation).2 ∧
          trace = quiet ++ [.recorded operation true]) ∨
        ((∃ fault, result = .error fault) ∧ tables final.store = tables world.store ∧
          trace = quiet ++ [.recorded operation false])) := by
  obtain ⟨inner, middle, quiet, rest, done, noted, rfl⟩ := ends_attempt_bind.mp ending
  obtain ⟨_, answered, rfl⟩ := ends_note_bind.mp noted
  obtain ⟨rfl, rfl, rfl⟩ := ends_ofExcept.mp answered
  obtain ⟨store, inBooks, rfl⟩ := ends_inside.mp done
  refine ⟨quiet, discreet.books operation inBooks, ?_⟩
  rcases kept inBooks with ⟨rfl, performed⟩ | ⟨⟨fault, rfl⟩, untouched⟩
  · exact .inl ⟨rfl, performed, rfl⟩
  · exact .inr ⟨⟨fault, rfl⟩, untouched, rfl⟩

theorem consult_ends (discreet : others.Discreet) {request : Advice.Request}
    {world final : World others} {result : Except Fault request.Answer} {trace : Trace}
    (ending : (consult request).Ends world result trace final) :
    final.store = world.store ∧
      ∃ quiet : Trace, (∀ note ∈ quiet, note.isOutside) ∧ trace = .consulted request :: quiet := by
  obtain ⟨quiet, asked, rfl⟩ := ends_note_bind.mp ending
  obtain ⟨_, answered, rfl⟩ := ends_inside.mp asked
  exact ⟨rfl, quiet, discreet.agent request answered, rfl⟩

theorem connect_ends (discreet : others.Discreet) {world final : World others}
    {result : Except Fault Bool} {trace : Trace}
    (ending : World.connect.Ends world result trace final) :
    final.store = world.store ∧ ∀ note ∈ trace, note.isOutside := by
  obtain ⟨_, connected, rfl⟩ := ends_inside.mp ending
  exact ⟨rfl, Chain.Connection.ensure_keeps
    (Chain.Connection.steps_noting (fun _ => id) discreet.connect discreet.close) connected⟩

theorem wait_ends (discreet : others.Discreet) {pause : Pause} {world final : World others}
    {result : Except Fault Unit} {trace : Trace}
    (ending : (World.wait pause).Ends world result trace final) :
    final.store = world.store ∧ ∀ note ∈ trace, note.isOutside := by
  obtain ⟨_, waited, rfl⟩ := ends_inside.mp ending
  exact ⟨rfl, discreet.pause pause waited⟩

/-!
### The connection is no one else's
-/

theorem record_chain {operation : Ledger.Operation} {world final : World others}
    {result : Except Fault operation.Answer} {trace : Trace}
    (ending : (record operation).Ends world result trace final) : final.chain = world.chain := by
  obtain ⟨_, _, _, _, done, noted, _⟩ := ends_attempt_bind.mp ending
  obtain ⟨_, answered, _⟩ := ends_note_bind.mp noted
  obtain ⟨_, _, rfl⟩ := ends_ofExcept.mp answered
  obtain ⟨_, _, rfl⟩ := ends_inside.mp done
  rfl

theorem consult_chain {request : Advice.Request} {world final : World others}
    {result : Except Fault request.Answer} {trace : Trace}
    (ending : (consult request).Ends world result trace final) : final.chain = world.chain := by
  obtain ⟨_, asked, _⟩ := ends_note_bind.mp ending
  obtain ⟨_, _, rfl⟩ := ends_inside.mp asked
  rfl

theorem wait_chain {pause : Pause} {world final : World others} {result : Except Fault Unit}
    {trace : Trace} (ending : (World.wait pause).Ends world result trace final) :
    final.chain = world.chain := by
  obtain ⟨_, _, rfl⟩ := ends_inside.mp ending
  rfl

end World

end RollCall
