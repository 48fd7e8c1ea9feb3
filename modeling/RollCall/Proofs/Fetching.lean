import RollCall.Chain.Client
import RollCall.Network.Simulated
import RollCall.Proofs.InMemory

/-!
# What clients over a network answer

A client over a network answers what it reads from a document, or nothing. It notes what it sends and
what it logs.
-/

set_option autoImplicit false

namespace RollCall

open Call

namespace Chain

/-- The answer to a question that is read from a document. -/
def Question.read (document : Value) : (question : Question) → question.Answer
  | .status => Status.ofValue document
  | .blockResults height => BlockResults.ofValue document height
  | .commit height => Commit.ofValue document height
  | .query _ _ => QueryReply.ofValue document

/-- All that clients answer is read from documents. -/
def Provider.Parses {ν χ : Type} (provider : Provider ν χ) : Prop :=
  ∀ ⦃question state answer trace final⦄,
    (provider.ask question).Ends state (.ok answer) trace final →
      ∃ document, answer = question.read document

namespace Client

variable {ν : Type} {network : Network ν} {settings : ClientSettings}

theorem provider_parses (network : Network ν) (settings : ClientSettings) :
    (provider network settings).Parses := by
  intro question state answer trace final ending
  cases question <;>
  · rcases ends_bind.mp ending with ⟨_, impossible, _⟩ | ⟨document, _, _, _, _, read, _⟩
    · cases impossible
    · exact ⟨document, Except.ok.inj (ends_pure.mp read).1⟩

end Client

end Chain

/-- A network that leaves the indexer's notes to the indexer. -/
structure Network.Discreet {ν : Type} (network : Network ν) : Prop where
  exchange : ∀ request, Keeps Quiet (network.exchange request)
  pause : ∀ delay, Keeps Quiet (network.pause delay)
  chance : Keeps Quiet network.chance

namespace Chain.Client

variable {ν : Type} {network : Network ν} {settings : ClientSettings}

/-!
## What every question keeps
-/

theorem through_keeps {α : Type} {R : ν × Session → Trace → ν × Session → Prop}
    {S : ν → Trace → ν → Prop} (chaining : Chaining R) {call : Call ν α} (kept : Keeps S call)
    (lifted : ∀ {state trace node}, S state.1 trace node → R state trace (node, state.2))
    (closes : ∀ state, R state [] (state.1, state.2.close)) : Keeps R (through call) := by
  refine Keeps.bind chaining (Keeps.watch (Keeps.inside kept lifted)) ?_
  rintro ⟨result, closed⟩
  have ended := Keeps.ofExcept chaining result
  cases closed with
  | true => exact Keeps.bind chaining (Keeps.modify closes) fun _ => ended
  | false => exact ended

section Keeping

variable {C : {α : Type} → Call (ν × Session) α → Prop} (closed : Closed C)

include closed

theorem attempt_keeps (sends : ∀ request, C (through (network.send request)))
    (method url : String) : C (attempt network method url) := by
  refine closed.bind (sends _) fun response => ?_
  exact closed.bind (closed.ofExcept _) fun _ => closed.ofExcept _

theorem wait_keeps (pauses : ∀ delay, C (through (network.pause delay)))
    (rolls : C (through network.chance)) (logs : ∀ message, C (Call.log .debug .client message))
    (method : String) (attempts : Nat) : C (wait network settings method attempts) := by
  unfold wait
  split
  · exact closed.bind rolls fun random => closed.bind (logs _) fun _ => pauses _
  · exact closed.pure ()

variable (reads : C Call.read) (sends : ∀ request, C (through (network.send request)))
  (pauses : ∀ delay, C (through (network.pause delay))) (rolls : C (through network.chance))
  (logs : ∀ message, C (Call.log .debug .client message))

include reads sends pauses rolls logs

theorem attemptAll_keeps (method url : String) (left attempts : Nat) (last : Option Fault) :
    C (attemptAll network settings method url left attempts last) := by
  induction left generalizing attempts last with
  | zero => exact closed.pure _
  | succ left ih =>
      refine closed.bind reads ?_
      rintro ⟨_, session⟩
      dsimp only
      split
      · exact closed.pure _
      · refine closed.bind (wait_keeps closed pauses rolls logs method attempts) fun _ => ?_
        refine closed.bind (closed.attempt (attempt_keeps closed sends method url)) ?_
        rintro (fault | result)
        · dsimp only
          split
          · exact closed.fail _
          · exact ih _ _
        · exact closed.pure _

theorem fetch_keeps
    (ails : C (Call.modify fun state => (state.1, { state.2 with healthy := false })))
    (method : String) (parameters : Members) : C (fetch network settings method parameters) := by
  refine closed.bind (closed.ofExcept _) fun url => ?_
  refine closed.bind (attemptAll_keeps closed reads sends pauses rolls logs method _ _ _ _) ?_
  rintro (last | result)
  · refine closed.bind ails fun _ => ?_
    exact closed.bind (closed.ofExcept _) fun _ => closed.fail _
  · exact closed.pure _

end Keeping

theorem quiet_ask (discreet : network.Discreet) (question : Question) :
    Keeps Quiet (ask network settings question) := by
  have through {α : Type} {call : Call ν α} (quiet : Keeps Quiet call) :
      Keeps Quiet (through call) :=
    through_keeps Noting.chaining quiet (fun noted => noted) fun _ _ member => by cases member
  have fetches (method : String) (parameters : Members) :
      Keeps Quiet (fetch network settings method parameters) := by
    refine fetch_keeps (closed_keeping Noting.chaining) Noting.read (fun request => ?_)
      (fun delay => through (discreet.pause delay)) (through discreet.chance)
      (fun message => quiet_log _ _ _ _) (Noting.modify _) method parameters
    exact through (Noting.bind (Noting.note rfl) fun _ => discreet.exchange request)
  cases question <;> exact Noting.bind (fetches _ _) fun _ => Noting.pure _

end Chain.Client

/-!
## A network that answers by script
-/

namespace Network

theorem quiet_wait : Keeps Quiet Queue.wait := by
  refine Noting.bind Noting.read fun state => ?_
  split
  · exact Noting.bind (Noting.modify _) fun _ => Noting.interrupt
  · exact Noting.pure ()

theorem quiet_conclude (reply : Reply) : Keeps Quiet (reply.conclude : Call Queue _) := by
  cases reply with
  | response => exact Noting.pure _
  | fault => exact Noting.fail _
  | silence => exact Noting.fail _

theorem discreet_queue : queue.Discreet where
  exchange _ := by
    refine Noting.bind Noting.read fun state => ?_
    split
    · exact Noting.fail _
    · refine Noting.bind (Noting.modify _) fun _ => ?_
      split
      · exact Noting.bind Noting.interrupt fun _ => quiet_conclude _
      · split
        · exact Noting.bind quiet_wait fun _ => quiet_conclude _
        · exact Noting.bind (Noting.pure ()) fun _ => quiet_conclude _
  pause delay := by
    change Keeps Quiet (if delay.atMost 0 then pure () else Queue.wait)
    split
    · exact Noting.pure ()
    · exact quiet_wait
  chance := Noting.bind Noting.read fun _ => Noting.pure _

end Network

namespace Collaborators

/-- A node that is asked over a network whose replies are set, and everyone else in memory. -/
def overNetwork : Collaborators where
  Node := Network.Queue
  Client := Chain.Session
  Store := inMemory.Store
  Agent := inMemory.Agent
  Clock := inMemory.Clock
  provider := Chain.Client.provider Network.queue
    { rpcUrl := "http://[::1]:26657", retries := 0, backoff := 0, jitter := 0 }
  books := inMemory.books
  agent := inMemory.agent
  pause := inMemory.pause

theorem discreet_overNetwork : overNetwork.Discreet where
  connect := Noting.pure _
  close := Noting.modify _
  ask := Chain.Client.quiet_ask Network.discreet_queue
  books := discreet_inMemory.books
  agent := discreet_inMemory.agent
  pause := discreet_inMemory.pause

end Collaborators

end RollCall
