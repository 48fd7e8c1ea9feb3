import RollCall.Proofs.Finishing
import RollCall.Proofs.Telling

/-!
# Where nothing fails

In a world in memory without failures and refusals every question is answered, everything is recorded
and no one asks to stop. There a pass can only fail for want of an account.
-/

set_option autoImplicit false

namespace RollCall

open Call

namespace Call

variable {σ τ α β : Type} {allowed : Note → Prop} {P : σ → Prop}

/-!
## Calls that are left alone
-/

/-- What holds before a call holds after it, no one asks its caller to stop meanwhile, and only
allowed notes are taken. -/
def Calm (allowed : Note → Prop) (P : σ → Prop) (call : Call σ α) : Prop :=
  ∀ state, P state → P (call state).state ∧ (call state).interrupted = false ∧
    ∀ note ∈ (call state).trace, allowed note

theorem closed_calm : Closed (Calm allowed P) where
  pure _ state holds := ⟨holds, rfl, fun note member => by cases member⟩
  fail _ state holds := ⟨holds, rfl, fun note member => by cases member⟩
  bind := by
    intro α β call next first rest state holds
    obtain ⟨holds', calm, notes⟩ := first state holds
    cases ended : (call state).result with
    | error fault =>
        rw [bind_of_error ended]
        exact ⟨holds', calm, notes⟩
    | ok value =>
        obtain ⟨holds'', calm', notes'⟩ := rest value _ holds'
        rw [bind_of_ok ended]
        refine ⟨holds'', ?_, List.forall_mem_append.mpr ⟨notes, notes'⟩⟩
        simp [calm, calm']
  attempt := id
  watch calm state holds := ⟨(calm state holds).1, rfl, (calm state holds).2.2⟩

theorem Calm.note {entry : Note} (may : allowed entry) :
    Calm allowed P (Call.note entry : Call σ Unit) := by
  intro state holds
  refine ⟨holds, rfl, fun note member => ?_⟩
  rw [List.mem_singleton.mp member]
  exact may

theorem Calm.ends {call : Call σ α} {state final : σ} {result : Except Fault α} {trace : Trace}
    (calm : Calm allowed P call) (holds : P state) (ending : call.Ends state result trace final) :
    P final ∧ ∀ note ∈ trace, allowed note := by
  obtain ⟨holds', _, notes⟩ := calm state holds
  rw [ending.state_eq] at holds'
  rw [ending.trace_eq] at notes
  exact ⟨holds', notes⟩

/-!
## Calls that succeed
-/

/-- A call made where something holds succeeds, undisturbed and with allowed notes only, and then
something holds of its value and the state. -/
def Serves (allowed : Note → Prop) (P : σ → Prop) (call : Call σ α) (Q : α → σ → Prop) : Prop :=
  ∀ state, P state → ∃ value, (call state).result = .ok value ∧ Q value (call state).state ∧
    (call state).interrupted = false ∧ ∀ note ∈ (call state).trace, allowed note

namespace Serves

variable {Q : α → σ → Prop} {S : β → σ → Prop}

theorem calm {call : Call σ α} (serves : Serves allowed P call Q)
    (kept : ∀ value state, Q value state → P state) : Calm allowed P call := by
  intro state holds
  obtain ⟨value, _, holds', calm, notes⟩ := serves state holds
  exact ⟨kept value _ holds', calm, notes⟩

theorem ends {call : Call σ α} {state final : σ} {result : Except Fault α} {trace : Trace}
    (serves : Serves allowed P call Q) (holds : P state)
    (ending : call.Ends state result trace final) : ∃ value, result = .ok value ∧ Q value final := by
  obtain ⟨value, succeeded, holds', _⟩ := serves state holds
  rw [ending.result_eq] at succeeded
  rw [ending.state_eq] at holds'
  exact ⟨value, succeeded, holds'⟩

theorem mono {call : Call σ α} {R : σ → Prop} {S : α → σ → Prop}
    (serves : Serves allowed P call Q) (before : ∀ state, R state → P state)
    (after : ∀ value state, Q value state → S value state) : Serves allowed R call S := by
  intro state holds
  obtain ⟨value, succeeded, holds', rest⟩ := serves state (before state holds)
  exact ⟨value, succeeded, after value _ holds', rest⟩

theorem pure (value : α) (holds : ∀ state, P state → Q value state) :
    Serves allowed P (Pure.pure value : Call σ α) Q :=
  fun state start => ⟨value, rfl, holds state start, rfl, fun note member => by cases member⟩

theorem read : Serves allowed P (Call.read : Call σ σ) fun value state => value = state ∧ P state :=
  fun state start => ⟨state, rfl, ⟨rfl, start⟩, rfl, fun note member => by cases member⟩

theorem modify {change : σ → σ} {Q : Unit → σ → Prop}
    (holds : ∀ state, P state → Q () (change state)) : Serves allowed P (Call.modify change) Q :=
  fun state start => ⟨(), rfl, holds state start, rfl, fun note member => by cases member⟩

theorem note {entry : Note} (may : allowed entry) :
    Serves allowed P (Call.note entry : Call σ Unit) fun _ => P := by
  intro state start
  obtain ⟨holds, calm, notes⟩ := Calm.note (P := P) may state start
  exact ⟨(), rfl, holds, calm, notes⟩

theorem bind {call : Call σ α} {next : α → Call σ β} (first : Serves allowed P call Q)
    (rest : ∀ value, Serves allowed (Q value) (next value) S) :
    Serves allowed P (call >>= next) S := by
  intro state holds
  obtain ⟨value, succeeded, holds', calm, notes⟩ := first state holds
  obtain ⟨value', succeeded', holds'', calm', notes'⟩ := rest value _ holds'
  rw [bind_of_ok succeeded]
  refine ⟨value', succeeded', holds'', ?_, List.forall_mem_append.mpr ⟨notes, notes'⟩⟩
  simp [calm, calm']

theorem attempt {call : Call σ α} (serves : Serves allowed P call Q) :
    Serves allowed P call.attempt fun answer state => ∃ value, answer = .ok value ∧ Q value state := by
  intro state holds
  obtain ⟨value, succeeded, holds', calm, notes⟩ := serves state holds
  exact ⟨.ok value, congrArg _ succeeded, ⟨value, rfl, holds'⟩, calm, notes⟩

theorem inside {part : τ → σ} {replace : σ → τ → τ} {call : Call σ α} {R : τ → Prop}
    {S : α → τ → Prop} (serves : Serves allowed P call Q) (before : ∀ state, R state → P (part state))
    (after : ∀ value inner state, R state → Q value inner → S value (replace inner state)) :
    Serves allowed R (call.inside part replace) S := by
  intro state holds
  obtain ⟨value, succeeded, holds', calm, notes⟩ := serves (part state) (before state holds)
  exact ⟨value, succeeded, after value _ state holds holds', calm, notes⟩

end Serves

end Call

/-!
## Votes where nothing fails
-/

namespace World

variable {others : Collaborators} {content : Chain.Content} {P : World others → Prop}

/-- Worlds in which the node answers as a chain does and the ledger does what it is asked. -/
structure Serving (content : Chain.Content) (P : World others → Prop) : Prop where
  ask : ∀ question, Serves Note.IsFirm P (World.ask question)
    fun answer world => answer = content question ∧ P world
  record : ∀ operation, Serves Note.IsFirm P (World.record operation) fun _ => P

variable (serving : Serving content P)

include serving

theorem Serving.parts : Parts (Calm Note.IsFirm P : {α : Type} → Call (World others) α → Prop)
    (fun _ => True) (fun _ => True) where
  sequential := closed_calm.toSequential
  record operation _ := (serving.record operation).calm fun _ _ => id
  ask question _ := (serving.ask question).calm fun _ _ => And.right
  log _ _ _ _ := Calm.note trivial

theorem resolve_serves {address : String} {account : Account}
    (known : content.account? address = some account) : Serves Note.IsFirm P
      (World.resolve address) fun found world => found = account ∧ P world := by
  obtain ⟨bytes, decoded, told⟩ := Option.bind_eq_some_iff.mp known
  unfold resolve
  rw [decoded]
  refine .bind (serving.ask _) fun reply => ?_
  rintro world ⟨rfl, ready⟩
  refine ⟨account, ?_, ⟨rfl, ready⟩, rfl, fun note member => by cases member⟩
  cases read : accountOf address (content (.query accountsPath (Hex.encode bytes))) with
  | error fault =>
      rw [read] at told
      cases told
  | ok found =>
      rw [read] at told
      cases told
      rfl

theorem signers_serve {signatures : List Chain.Signature} {found : List Signer}
    (known : content.signersOf? signatures = some found) : Serves Note.IsFirm P
      (World.signers signatures) fun signers world => signers = found ∧ P world := by
  induction signatures generalizing found with
  | nil =>
      cases known
      exact .pure _ fun _ ready => ⟨rfl, ready⟩
  | cons signature rest ih =>
      obtain ⟨account, resolved, others⟩ := Option.bind_eq_some_iff.mp known
      obtain ⟨later, known', rfl⟩ := Option.map_eq_some_iff.mp others
      refine .bind (resolve_serves serving resolved) fun account' => .bind (Q := fun later' world =>
        later' = later ∧ account' = account ∧ P world) ?_ fun later' => .pure _ ?_
      · rintro world ⟨rfl, ready⟩
        obtain ⟨_, succeeded, ⟨rfl, ready'⟩, rest⟩ := ih known' world ready
        exact ⟨_, succeeded, ⟨rfl, rfl, ready'⟩, rest⟩
      · rintro world ⟨rfl, rfl, ready⟩
        exact ⟨rfl, ready⟩

theorem hasVote_serves (target : Target) (height : Height) (signer : Signer) :
    Serves Note.IsFirm P (World.hasVote target height signer) fun _ => P := by
  cases target <;> exact serving.record _

theorem storeVote_serves (target : Target) (height : Height) (signer : Signer) :
    Serves Note.IsFirm P (World.storeVote target height signer) fun _ => P := by
  cases target <;> exact .bind (serving.record _) fun _ => .pure () fun _ => id

theorem storeVotes_serves (target : Target) (height : Height) (signers : List Signer) :
    Serves Note.IsFirm P (World.storeVotes target height signers) fun _ => P := by
  induction signers with
  | nil => exact .pure 0 fun _ => id
  | cons signer rest ih =>
      refine .bind (hasVote_serves serving target height signer) fun has => ?_
      split
      · exact ih
      · refine .bind (storeVote_serves serving target height signer) fun _ => ?_
        exact .bind ih fun _ => .pure _ fun _ => id

theorem reconcileTarget_serves {height : Height} {found : List Signer}
    (known : content.signers? height = some found) (target : Target) :
    Serves Note.IsFirm P (World.reconcileTarget target height) fun _ => P := by
  refine .bind (serving.ask _) fun commit => .bind (Q := fun _ => P) ?_ fun signers => ?_
  · rintro world ⟨rfl, ready⟩
    obtain ⟨_, succeeded, ⟨_, ready'⟩, rest⟩ := signers_serve serving known world ready
    exact ⟨_, succeeded, ready', rest⟩
  · refine .bind (storeVotes_serves serving target height signers) fun _ => ?_
    exact .bind (.note trivial) fun _ => .pure _ fun _ => id

theorem reconcile_serves (discreet : others.Discreet) {tables : others.Store → Ledger.Tables}
    (kept : others.books.KeptIn tables) {height : Height} {signers : List Signer}
    {world final : World others} {result : Except Fault Reconciliation} {trace : Trace}
    (ready : P world) (complete : content.IsComplete height (tables world.store) signers)
    (ending : (World.reconcile height).Ends world result trace final) :
    ∃ reconciliation, result = .ok reconciliation := by
  have calm : Calm Note.IsFirm P (World.target? height) :=
    target_keeps serving.parts fun _ _ => trivial
  have closing : ∀ reconciliation : Reconciliation, Serves Note.IsFirm P
      (do
        Call.note (.reconciled height)
        return reconciliation) fun _ => P :=
    fun reconciliation => .bind (.note trivial) fun _ => .pure reconciliation fun _ => id
  rcases ends_bind.mp ending with ⟨_, _, failed⟩ | ⟨found, middle, _, _, looked, more, _⟩
  · cases (target_ends discreet kept failed (calm.ends ready failed).2).1
  obtain ⟨ready', firm⟩ := calm.ends ready looked
  obtain ⟨same, _⟩ := target_ends discreet kept looked firm
  cases Except.ok.inj same
  rcases complete with nothing | known
  · rw [nothing] at more
    obtain ⟨reconciliation, succeeded, _⟩ := (closing _).ends ready' (ends_pure_bind.mp more)
    exact ⟨reconciliation, succeeded⟩
  · cases decided : (tables world.store).target? height with
    | none =>
        rw [decided] at more
        obtain ⟨reconciliation, succeeded, _⟩ := (closing _).ends ready' (ends_pure_bind.mp more)
        exact ⟨reconciliation, succeeded⟩
    | some target =>
        rw [decided] at more
        obtain ⟨reconciliation, succeeded, _⟩ :=
          (Serves.bind (reconcileTarget_serves serving known target) closing).ends ready' more
        exact ⟨reconciliation, succeeded⟩

end World

/-!
## The connection to a chain that answers
-/

namespace Chain

/-- The chain has all answers, nothing fails and no one watches. -/
structure Simulated.Ready (content : Content) (chain : Simulated) : Prop where
  answers : chain.answer = content
  unfailing : chain.failures = []
  unwatched : chain.watched = none

variable (content : Content)

theorem Simulated.connect_serves : Serves Note.IsFirm (Ready content) provider.connect
    fun client chain => client = true ∧ Ready content chain := by
  refine .bind (.modify fun chain ready => ?_) fun _ => .pure true fun chain ready => ⟨rfl, ready⟩
  exact ⟨(answer_of_set chain _ _ _).trans ready.answers, ready.unfailing, ready.unwatched⟩

theorem Simulated.ask_serves (question : Question) :
    Serves Note.IsFirm (fun state => Ready content state.1 ∧ state.2 = true) (provider.ask question)
      fun answer state => answer = content question ∧ Ready content state.1 ∧ state.2 = true := by
  rintro ⟨⟨head, blocks, commits, accounts, failures, built, watched⟩, healthy⟩ ⟨ready, rfl⟩
  cases ready.unfailing
  cases ready.unwatched
  have answered := congrFun ready.answers question
  exact ⟨_, rfl, ⟨answered, ready, rfl⟩, rfl, fun note member => by cases member⟩

namespace Connection

/-- The node is ready, and the client in use is healthy. -/
structure Ready (content : Content) (connection : Connection Simulated Bool) : Prop where
  node : connection.node.Ready content
  healthy : ∀ place, connection.current = some place → connection.clients[place]? = some true

theorem teardown_serves : Serves Note.IsFirm
    (fun connection => Ready content connection ∧ connection.current = none)
    (teardown Simulated.provider) fun _ connection => Ready content connection := by
  refine .bind .read fun connection => ?_
  cases current : connection.current with
  | none => exact .pure _ fun _ holds => holds.2.1
  | some place =>
      rintro _ ⟨rfl, _, impossible⟩
      rw [current] at impossible
      cases impossible

theorem ensure_serves : Serves Note.IsFirm (Ready content) (ensure Simulated.provider)
    fun connected connection =>
      connected = true ∧ Ready content connection ∧ connection.current ≠ none := by
  refine .bind .read fun connection => ?_
  cases current : connection.current with
  | some place =>
      by_cases found : connection.clients[place]? = some true
      · have usable : connection.isHealthy Simulated.provider = true := by
          simp [isHealthy, client?, current, found, Simulated.provider]
        rw [if_pos usable]
        refine .pure _ ?_
        rintro _ ⟨rfl, ready⟩
        exact ⟨rfl, ready, by simp [current]⟩
      · rintro _ ⟨rfl, ready⟩
        exact absurd (ready.healthy _ current) found
  | none =>
      have unusable : ¬ connection.isHealthy Simulated.provider = true := by
        simp [isHealthy, client?, current]
      rw [if_neg unusable]
      refine .bind ((teardown_serves content).mono ?_ fun _ _ => id) fun _ => ?_
      · rintro _ ⟨rfl, ready⟩
        exact ⟨ready, current⟩
      refine .bind ((Simulated.connect_serves content).inside (S := fun client connection =>
        client = true ∧ Ready content connection) (fun _ => Ready.node) ?_).attempt fun answer => ?_
      · intro client chain connection ready ⟨healthy, ready'⟩
        exact ⟨healthy, ready', ready.healthy⟩
      rcases answer with fault | client
      · rintro _ ⟨_, impossible, _⟩
        cases impossible
      refine .bind (Q := fun _ connection => Ready content connection ∧ connection.current ≠ none)
        (.modify ?_) fun _ => .bind .read fun connection => ?_
      · rintro connection ⟨_, same, rfl, ready⟩
        cases same
        refine ⟨⟨ready.node, ?_⟩, by simp⟩
        rintro _ ⟨⟩
        simp
      · dsimp only
        split
        · exact .bind (.note trivial) fun _ => .pure _ fun _ holds => ⟨rfl, holds.2⟩
        · exact .pure _ fun _ holds => ⟨rfl, holds.2⟩

theorem ask_serves (question : Question) :
    Serves Note.IsFirm (Ready content) (ask Simulated.provider question)
      fun answer connection => answer = content question ∧ Ready content connection := by
  have answering : ∀ place, Serves Note.IsFirm
      (fun connection => Ready content connection ∧ connection.current = some place)
      (byClient place (Simulated.provider.ask question))
      fun answer connection => answer = content question ∧ Ready content connection := by
    intro place connection ⟨ready, current⟩
    obtain ⟨answer, succeeded, ⟨same, ready', healthy⟩, calm, notes⟩ :=
      Simulated.ask_serves content question (connection.node, true) ⟨ready.node, rfl⟩
    unfold byClient
    rw [ready.healthy place current]
    refine ⟨answer, succeeded, ⟨same, ready', fun other used => ?_⟩, calm, notes⟩
    cases current.symm.trans used
    have present := (List.getElem?_eq_some_iff.mp (ready.healthy place current)).1
    simpa [withClient, present] using healthy
  refine .bind (Q := fun place connection => Ready content connection ∧ connection.current = some place)
    ?_ fun place => ?_
  · refine .bind (ensure_serves content) fun _ => .bind .read fun connection => ?_
    cases current : connection.current with
    | some place =>
        refine .pure _ ?_
        rintro _ ⟨rfl, _, ready, _⟩
        exact ⟨ready, current⟩
    | none =>
        rintro _ ⟨rfl, _, _, impossible⟩
        exact absurd current impossible
  · refine .bind (Serves.attempt (.bind (.note trivial) fun _ => answering place)) fun answer => ?_
    rcases answer with fault | value
    · rintro _ ⟨_, impossible, _⟩
      cases impossible
    · refine .pure _ ?_
      rintro connection ⟨_, same, holds⟩
      cases same
      exact holds

end Connection

end Chain

/-!
## A ledger that refuses nothing
-/

theorem Ledger.Refusing.writes_serve (operation : Operation) :
    Serves Note.IsFirm (fun store => store.refusals = []) (writes Tables.books operation)
      fun _ store => store.refusals = [] := by
  rintro ⟨refusals, ledger⟩ unrefusing
  cases unrefusing
  refine ⟨(ledger.perform operation).1, ?_⟩
  unfold writes
  split <;> exact ⟨rfl, rfl, rfl, fun note member => by cases member⟩

/-!
## The world
-/

namespace World

/-- The chain is ready, the ledger refuses nothing and the clock asks no one to stop. -/
structure Ready (content : Chain.Content) (world : World Collaborators.inMemory) : Prop where
  chain : world.chain.Ready content
  unrefusing : world.store.refusals = []
  unhurried : world.clock = (0 : Nat)

variable (content : Chain.Content)

theorem connect_serves : Serves Note.IsFirm (Ready content) World.connect
    fun connected world => connected = true ∧ Ready content world := by
  refine (Chain.Connection.ensure_serves content).inside (fun _ => Ready.chain) ?_
  intro connected chain world ready ⟨same, ready', _⟩
  exact ⟨same, ready', ready.unrefusing, ready.unhurried⟩

theorem ask_serves (question : Chain.Question) : Serves Note.IsFirm (Ready content)
    (World.ask question) fun answer world => answer = content question ∧ Ready content world := by
  refine .bind (Q := fun answer world => answer = content question ∧ Ready content world) ?_
    fun answer => .bind (.note trivial) fun _ => .pure answer fun _ => id
  refine (Chain.Connection.ask_serves content question).inside (fun _ => Ready.chain) ?_
  intro answer chain world ready ⟨same, ready'⟩
  exact ⟨same, ready', ready.unrefusing, ready.unhurried⟩

theorem record_serves (operation : Ledger.Operation) : Serves Note.IsFirm (Ready content)
    (World.record operation) fun _ => Ready content := by
  refine .bind ((Ledger.Refusing.writes_serve operation).inside (fun _ => Ready.unrefusing) (S := fun _ => Ready content) ?_).attempt
    fun answer => ?_
  · intro _ store world ready unrefusing
    exact ⟨ready.chain, unrefusing, ready.unhurried⟩
  · rcases answer with fault | value
    · rintro _ ⟨_, impossible, _⟩
      cases impossible
    · refine .bind (.note trivial) fun _ => .pure value ?_
      rintro world ⟨_, _, ready⟩
      exact ready

theorem consult_serves (request : Advice.Request) : Serves Note.IsFirm (Ready content)
    (World.consult request) fun _ => Ready content := by
  refine .bind (.note trivial) fun _ => ?_
  intro world ready
  cases request <;> exact ⟨_, rfl, ready, rfl, fun note member => by cases member⟩

theorem wait_serves (pause : Pause) : Serves Note.IsFirm (Ready content)
    (World.wait pause) fun _ => Ready content := by
  rintro ⟨chain, store, agent, clock⟩ ready
  cases ready.unhurried
  exact ⟨(), rfl, ready, rfl, fun note member => by cases member⟩

theorem steps_calm : Steps (Calm Note.IsFirm (Ready content)) (fun _ => True) (fun _ => True)
    Note.IsFirm where
  closed := closed_calm
  record operation _ := (record_serves content operation).calm fun _ _ => id
  ask question _ := (ask_serves content question).calm fun _ _ => And.right
  consult request := (consult_serves content request).calm fun _ _ => id
  note _ := Calm.note

theorem serving_ready : Serving content (Ready content) where
  ask := ask_serves content
  record := record_serves content

end World

namespace Loop

variable {content : Chain.Content} {options : FollowOptions} {height : Height}
  {world final : World Collaborators.inMemory} {result : Except Fault Unit} {trace : Trace}

theorem ready_inMemory (chain : Chain.Simulated) (tables : Ledger.Tables) :
    World.Ready chain.answer (World.inMemory { chain with failures := [], watched := none } tables) where
  chain := ⟨⟨Chain.Simulated.answer_of_set chain _ _ _, rfl, rfl⟩, fun _ none => by cases none⟩
  unrefusing := rfl
  unhurried := rfl

theorem process_calm : Calm Note.IsFirm (World.Ready content) (process options height) :=
  World.process_keeps (World.steps_calm content) (fun _ => trivial) (fun _ _ => trivial) trivial
    (fun _ _ => trivial) (fun _ _ _ _ => trivial) trivial

/-- A pass over a height that can be done does it. -/
theorem process_serves (ready : World.Ready content world)
    (can : world.store.ledger.CanFinish content options height)
    (ending : (process options height).Ends world result trace final) : result = .ok () := by
  obtain ⟨signers, complete⟩ := can
  have firm := (process_calm.ends ready ending).2
  rcases process_ends ending with ⟨_, rfl, failed⟩ | ⟨_, _, _, _, rfl, _, failed, rfl⟩ |
    ⟨results, fetched, asking, handled, dispatched, dispatching, rest, asked, done, rfl, ended⟩
  · obtain ⟨_, impossible, _⟩ := (World.ask_serves content _).ends ready failed
    cases impossible
  · obtain ⟨_, impossible⟩ := World.dispatchAll_succeeds failed fun note member =>
      firm note (List.mem_append_right _ member)
    cases impossible
  obtain ⟨_, same, rfl, ready'⟩ := (World.ask_serves content _).ends ready asked
  cases same
  have calm : Calm Note.IsFirm (World.Ready content) (dispatchAll height
      ((content (.blockResults height)).events options.withBlockEvents) 0) :=
    World.dispatchAll_keeps (World.steps_calm content) (fun _ => trivial) (fun _ _ => trivial)
      (fun _ _ _ _ => trivial) _ _
  obtain ⟨ready'', firm'⟩ := calm.ends ready' done
  have absorbs := (World.dispatchAll_ends Collaborators.discreet_inMemory
    Collaborators.keptIn_inMemory done firm').1
  have untouched := (World.ask_ends Collaborators.discreet_inMemory asked).1
  rw [untouched] at absorbs
  have complete' : content.IsComplete height dispatched.store.ledger signers := by
    rw [absorbs]
    exact complete
  rcases ended with ⟨_, rfl, failed⟩ | ⟨_, _, reconciled, _, _, came, saved, _⟩
  · obtain ⟨_, impossible⟩ := World.reconcile_serves (World.serving_ready content)
      Collaborators.discreet_inMemory Collaborators.keptIn_inMemory ready'' complete' failed
    cases impossible
  · have calm' : Calm Note.IsFirm (World.Ready content) (World.reconcile height) :=
      World.reconcile_keeps ((World.steps_calm content).parts fun _ => trivial)
        (fun _ _ => trivial) (fun _ _ => trivial) (fun _ _ => trivial)
        ((World.steps_calm content).note _ trivial)
    obtain ⟨_, succeeded, _⟩ :=
      (World.record_serves content _).ends (calm'.ends ready'' came).1 saved
    exact succeeded

end Loop

end RollCall
