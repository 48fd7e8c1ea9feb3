import RollCall.Chain.Simulated
import RollCall.Follow
import RollCall.Ledger.Refusing
import RollCall.Proofs.Collaborators

/-!
# Collaborators in memory

Everyone whom the indexer works with, in memory: a chain that is set and some of whose calls fail, a
ledger that refuses some operations that store, an agent that consents, and a clock that asks the
indexer to stop after some number of pauses. They are what runs are compared with and tried on.
-/

set_option autoImplicit false

namespace RollCall

open Call

namespace Collaborators

/-- The clock is at the number of the pause in which the indexer is asked to stop, or at zero. -/
def inMemory : Collaborators where
  Node := Chain.Simulated
  Client := Bool
  Store := Ledger.Refusing Ledger.Tables
  Agent := Unit
  Clock := Nat
  provider := Chain.Simulated.provider
  books := Ledger.Refusing.writes Ledger.Tables.books
  agent := Advice.consenting
  pause _ := do
    let left ← Call.read
    Call.modify (· - 1)
    if left = 1 then Call.interrupt

end Collaborators

/-- The world of a chain and of tables in memory, where nothing is connected yet. -/
def World.inMemory (chain : Chain.Simulated) (tables : Ledger.Tables)
    (refusals : List (String × List Fault) := []) (stop : Nat := 0) :
    World Collaborators.inMemory where
  chain := { node := chain }
  store := { refusals, ledger := tables }
  agent := ()
  clock := stop

/-- Options of a loop that starts at a height. -/
def Loop.optionsFrom (first : Nat) : FollowOptions where
  progressId := "follow"
  startHeight := .ofNat first
  withBlockEvents := true

/-- An event that makes a proposal. -/
def Event.making (index : String) : Event where
  type := "proposal"
  attributes := [⟨"proposal_index", index⟩, ⟨"proposer", "3"⟩, ⟨"proposer_address", "AA03"⟩,
    ⟨"data", "aGk="⟩, ⟨"status", "1"⟩]

/-- An event that settles a proposal. -/
def Event.settling (index : String) : Event where
  type := "settle_proposal"
  attributes := [⟨"proposal", index⟩, ⟨"state", "2"⟩]

/-- An event that makes a grant. -/
def Event.granting (validator : String) : Event where
  type := "grant"
  attributes := [⟨"validator", validator⟩, ⟨"address", "AA09"⟩, ⟨"amount", "5"⟩,
    ⟨"proposer_index", "3"⟩, ⟨"proposer_address", "AA03"⟩, ⟨"grant", "true"⟩]

/-- A height and its block, with the events of one transaction. -/
def Chain.blockOf (height : Nat) (events : List Event) : Height × Chain.BlockResults :=
  (.ofNat height, { height := .ofNat height, txResults := [{ code := 0, events }], blockEvents := [] })

/-- A signature in favour. -/
def Chain.signedBy (address : String) : Chain.Signature where
  flag := .ofNat 2
  address := address
  timestamp := none

/-!
## What they note
-/

namespace Noting

variable {σ : Type} {allowed : Note → Prop}

theorem interrupt : Keeps (Noting allowed) (Call.interrupt : Call σ Unit) := by
  intro state result trace final ending note member
  rw [← ending.trace_eq] at member
  cases member

theorem read : Keeps (Noting allowed) (Call.read : Call σ σ) :=
  Keeps.read chaining

theorem pure {α : Type} (value : α) : Keeps (Noting allowed) (Pure.pure value : Call σ α) :=
  Keeps.pure chaining value

theorem fail {α : Type} (fault : Fault) : Keeps (Noting allowed) (Call.fail fault : Call σ α) :=
  Keeps.fail chaining fault

theorem bind {α β : Type} {call : Call σ α} {next : α → Call σ β}
    (first : Keeps (Noting allowed) call) (rest : ∀ value, Keeps (Noting allowed) (next value)) :
    Keeps (Noting allowed) (call >>= next) :=
  Keeps.bind chaining first rest

end Noting

theorem Chain.Simulated.quiet_watch (question : Question) : Keeps Quiet (watch question) := by
  refine Noting.bind Noting.read fun state => ?_
  split
  · split
    · refine Noting.bind (Noting.modify _) fun _ => ?_
      split
      · exact Noting.interrupt
      · exact Noting.pure _
    · exact Noting.pure _
  · exact Noting.pure _

theorem Chain.Simulated.quiet_takeFailure (method : String) :
    Keeps Quiet (takeFailure method) := by
  refine Noting.bind Noting.read fun state => ?_
  dsimp only
  split
  · exact Noting.pure _
  · exact Noting.bind (Noting.modify _) fun _ => Noting.pure _

theorem Chain.Simulated.quiet_ask (question : Question) :
    Keeps Quiet (provider.ask question) := by
  refine Noting.bind (quiet_watch question) fun _ => Noting.bind Noting.read fun state => ?_
  dsimp only
  split
  · exact Noting.fail _
  · refine Noting.bind (quiet_takeFailure _) fun failed => ?_
    split
    · exact Noting.bind (Noting.modify _) fun _ => Noting.fail _
    · exact Noting.bind Noting.read fun _ => Noting.pure _

namespace Ledger

theorem Tables.quiet_books (operation : Operation) : Keeps Quiet (books operation) := by
  intro tables result trace final ending note member
  rw [← ending.trace_eq] at member
  cases member

theorem Refusing.quiet_writes {σ : Type} {behind : Books σ}
    (quiet : ∀ operation, Keeps Quiet (behind operation)) (operation : Operation) :
    Keeps Quiet (writes behind operation) := by
  unfold writes
  split
  · refine Noting.bind Noting.read fun state => ?_
    split
    · exact Noting.bind (Noting.modify _) fun _ => Noting.fail _
    · exact Noting.inside (quiet operation)
  · exact Noting.inside (quiet operation)

/-!
## What the ledger does
-/

theorem Tables.books_keptIn : books.KeptIn id := by
  intro operation tables result trace final ending
  exact .inl ⟨ending.result_eq.symm, ending.state_eq.symm⟩

/-- A ledger that refuses some operations is kept in the tables of the one behind it. -/
theorem Refusing.writes_keptIn {σ : Type} {behind : Books σ} {tables : σ → Tables}
    (kept : behind.KeptIn tables) : (writes behind).KeptIn (tables ·.ledger) := by
  have inside : ∀ {operation : Operation} {store final : Refusing σ}
      {result : Except Fault operation.Answer} {trace : Trace},
      ((behind operation).inside ledger fun ledger state => { state with ledger }).Ends store result
        trace final →
      (result = .ok ((tables store.ledger).perform operation).1 ∧
        tables final.ledger = ((tables store.ledger).perform operation).2) ∨
      ((∃ fault, result = .error fault) ∧ tables final.ledger = tables store.ledger) := by
    intro operation store final result trace ending
    obtain ⟨_, done, rfl⟩ := ends_inside.mp ending
    exact kept done
  intro operation store result trace final ending
  unfold writes at ending
  split at ending
  · have passing := ends_read_bind.mp ending
    split at passing
    · obtain ⟨rfl, _, rfl⟩ := ends_fail.mp (ends_modify_bind.mp passing)
      exact .inr ⟨⟨_, rfl⟩, rfl⟩
    · exact inside passing
  · exact inside ending

end Ledger

namespace Collaborators

theorem discreet_inMemory : inMemory.Discreet where
  connect := Noting.bind (Noting.modify _) fun _ => Noting.pure _
  close := Noting.modify _
  ask := Chain.Simulated.quiet_ask
  books := Ledger.Refusing.quiet_writes Ledger.Tables.quiet_books
  agent request := by cases request <;> exact Noting.pure _
  pause _ := by
    refine Noting.bind Noting.read fun left => Noting.bind (Noting.modify _) fun _ => ?_
    split
    · exact Noting.interrupt
    · exact Noting.pure _

theorem keptIn_inMemory : inMemory.books.KeptIn (·.ledger) :=
  Ledger.Refusing.writes_keptIn Ledger.Tables.books_keptIn

end Collaborators

end RollCall
