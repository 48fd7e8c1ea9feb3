import RollCall.Follow
import RollCall.Proofs.Interactions

/-!
# What every part of a pass keeps

A pass over a height asks the node, has the ledger do something, turns to the agent and takes notes,
each in a few ways only. A property that all of these have is one of every handler, of bringing the
votes up to date and of the whole pass. Above all, what all of them keep is kept, however they end.
-/

set_option autoImplicit false

namespace RollCall

open Call

/-!
## What the parts of a pass can do
-/

/-- Whether the handlers of the events of a height can ask the ledger for an operation. -/
def Ledger.Operation.IsHandlersAt (height : Height) : Ledger.Operation → Prop
  | .upsertGrant row => row.height = height
  | .upsertValidator _ => True
  | .discussionAt asked _ => asked = height
  | .insertDiscussion row => row.height = height
  | .proposal _ => True
  | .upsertProposal _ => True
  | _ => False

/-- Whether an operation looks up what the votes of a height are about. -/
def Ledger.Operation.IsLookupAt (height : Height) : Ledger.Operation → Prop
  | .proposalCreatedAt asked => asked = height
  | .proposalSettledAt asked => asked = height
  | .grantAt asked => asked = height
  | _ => False

/-- Whether casting the votes of a height can ask the ledger for an operation. -/
def Ledger.Operation.IsCastingAt (height : Height) : Ledger.Operation → Prop
  | .hasProposalVote asked _ => asked = height
  | .hasGrantVote asked _ => asked = height
  | .insertProposalVote row => row.height = height
  | .insertGrantVote row => row.height = height
  | _ => False

/-- Whether a pass over a height can ask the ledger for an operation. -/
def Ledger.Operation.IsOfPass (options : FollowOptions) (height : Height)
    (operation : Ledger.Operation) : Prop :=
  operation.IsHandlersAt height ∨ operation.IsLookupAt height ∨ operation.IsCastingAt height ∨
    operation = .saveProgress options.progressId height

def Ledger.Tables.withoutVotes (tables : Ledger.Tables) : Ledger.Tables :=
  { tables with proposalVotes := [], grantVotes := [] }

/-- Whether bringing the votes of a height up to date can ask the node a question. -/
def Chain.Question.IsVotingAt (height : Height) : Chain.Question → Prop
  | .commit asked => asked = height
  | .query _ _ => True
  | _ => False

namespace World

variable {others : Collaborators}

/-- A property of some operations, some questions and some notes, and of everything that touches
neither the ledger nor what the indexer notes of itself. -/
structure Steps (C : {α : Type} → Call (World others) α → Prop)
    (operations : Ledger.Operation → Prop) (questions : Chain.Question → Prop)
    (notes : Note → Prop) : Prop where
  closed : Closed C
  record : ∀ operation, operations operation → C (record operation)
  ask : ∀ question, questions question → C (ask question)
  consult : ∀ request, C (consult request)
  note : ∀ note, notes note → C (Call.note note)

variable {C : {α : Type} → Call (World others) α → Prop} {operations : Ledger.Operation → Prop}
  {questions : Chain.Question → Prop} {notes : Note → Prop}

theorem Steps.log (steps : Steps C operations questions notes)
    (logged : ∀ line, notes (.logged line)) (level : Log.Level) (source : Log.Source)
    (message : String) (facts : Option Members) :
    C (Call.log level source message facts) :=
  steps.note _ (logged _)

/-!
## Handlers
-/

/-- A property of what handlers and the casting of votes are made of, save for turning to the agent:
only handlers do that. -/
structure Parts (C : {α : Type} → Call (World others) α → Prop)
    (operations : Ledger.Operation → Prop) (questions : Chain.Question → Prop) : Prop where
  sequential : Sequential C
  record : ∀ operation, operations operation → C (record operation)
  ask : ∀ question, questions question → C (ask question)
  log : ∀ level source message facts, C (Call.log level source message facts)

theorem advise_keeps (steps : Steps C operations questions notes)
    (logged : ∀ line, notes (.logged line)) (request : Advice.Request) : C (advise request) := by
  refine steps.closed.bind (steps.closed.attempt (steps.consult request)) ?_
  rintro (fault | answer)
  · refine steps.closed.bind (steps.closed.ofExcept _) fun cause => ?_
    exact steps.closed.bind (steps.log logged _ _ _ _) fun _ => steps.closed.pure _
  · exact steps.closed.pure _

theorem Steps.parts (steps : Steps C operations questions notes)
    (logged : ∀ line, notes (.logged line)) : Parts C operations questions where
  sequential := steps.closed.toSequential
  record := steps.record
  ask := steps.ask
  log := steps.log logged

theorem Parts.weaken {D : {α : Type} → Call (World others) α → Prop}
    (parts : Parts C operations questions) (sequential : Sequential D)
    (weaker : ∀ {α : Type} {call : Call (World others) α}, C call → D call) :
    Parts D operations questions where
  sequential := sequential
  record operation may := weaker (parts.record operation may)
  ask question may := weaker (parts.ask question may)
  log level source message facts := weaker (parts.log level source message facts)

section Handlers

variable (parts : Parts C operations questions) {height : Height}

include parts

theorem onGrant_keeps (event : Event.Grant) (grant : operations (.upsertGrant (event.row height)))
    (validator : operations (.upsertValidator event.validatorRow)) : C (onGrant event height) := by
  refine parts.sequential.bind (parts.record _ grant) fun _ => ?_
  refine parts.sequential.bind (parts.record _ validator) fun _ => ?_
  exact parts.log _ _ _ _

theorem onSettlement_keeps (event : Event.Settlement)
    (lookup : operations (.proposal (.ofNat event.proposal)))
    (upsert : ∀ proposal, operations (.upsertProposal (event.row height proposal))) :
    C (onSettlement event height) := by
  refine parts.sequential.bind (parts.record _ lookup) fun stored => ?_
  cases stored with
  | none => exact parts.sequential.fail _
  | some proposal =>
      dsimp only
      split
      · exact parts.sequential.fail _
      · exact parts.sequential.bind (parts.record _ (upsert proposal)) fun _ => parts.log _ _ _ _

theorem onProposal_of_store (event : Event.Proposal)
    (lookup : operations (.proposal (.ofNat event.index))) (stores : C (storeProposal event height)) :
    C (onProposal event height) := by
  refine parts.sequential.bind (parts.record _ lookup) fun stored => ?_
  split
  · exact parts.sequential.fail _
  · exact stores

variable (advises : ∀ request, C (advise request))

include advises

theorem onDiscussion_keeps (event : Event.Discussion) (ordinal : Number)
    (lookup : operations (.discussionAt height ordinal))
    (insert : operations (.insertDiscussion (event.row height ordinal))) :
    C (onDiscussion event height ordinal) := by
  refine parts.sequential.bind (parts.record _ lookup) fun stored => ?_
  cases stored with
  | some id => exact parts.log _ _ _ _
  | none =>
      refine parts.sequential.bind (parts.record _ insert) fun id => ?_
      refine parts.sequential.bind (parts.log _ _ _ _) fun _ => ?_
      exact parts.sequential.bind (advises _) fun _ => parts.sequential.pure _

theorem storeProposal_keeps (event : Event.Proposal)
    (upsert : operations (.upsertProposal (event.row height))) : C (storeProposal event height) := by
  refine parts.sequential.bind (parts.record _ upsert) fun _ => ?_
  refine parts.sequential.bind (parts.log _ _ _ _) fun _ => ?_
  refine parts.sequential.bind (advises _) fun _ => ?_
  refine parts.sequential.bind (advises _) fun comment => ?_
  cases comment with
  | none => exact parts.sequential.pure _
  | some comment =>
      dsimp only
      split
      · exact parts.log _ _ _ _
      · exact parts.sequential.pure _

theorem onProposal_keeps (event : Event.Proposal)
    (lookup : operations (.proposal (.ofNat event.index)))
    (upsert : operations (.upsertProposal (event.row height))) : C (onProposal event height) :=
  onProposal_of_store parts event lookup (storeProposal_keeps parts advises event upsert)

theorem handler_keeps (handled : ∀ operation, operation.IsHandlersAt height → operations operation)
    (ordinal : Number) (kind : Event.Kind) (content : kind.Content) :
    C (handler height ordinal kind content) := by
  cases kind with
  | grant => exact onGrant_keeps parts _ (handled _ rfl) (handled _ trivial)
  | discussion => exact onDiscussion_keeps parts advises _ _ (handled _ rfl) (handled _ rfl)
  | proposal => exact onProposal_keeps parts advises _ (handled _ trivial) (handled _ trivial)
  | settlement => exact onSettlement_keeps parts _ (handled _ trivial) fun _ => handled _ trivial

end Handlers

theorem Steps.handler (steps : Steps C operations questions notes)
    (logged : ∀ line, notes (.logged line)) {height : Height}
    (handled : ∀ operation, operation.IsHandlersAt height → operations operation)
    (ordinal : Number) (kind : Event.Kind) (content : kind.Content) :
    C (World.handler height ordinal kind content) :=
  handler_keeps (steps.parts logged) (advise_keeps steps logged) handled ordinal kind content

/-!
## Dispatching
-/

section Dispatching

variable {height : Height} {ordinal : Number} {tag : String} {event : Event}

theorem outcomeOf_of_handler (closed : Closed C)
    (log : ∀ level source message facts, C (Call.log level source message facts))
    (handlers : ∀ kind content, Event.Kind.named? tag = some kind →
      event.decode? kind = some content → C (handler height ordinal kind content)) :
    C (outcomeOf tag event height ordinal) := by
  unfold outcomeOf
  split
  · exact closed.pure _
  · next kind named =>
    refine closed.bind (closed.attempt ?_) ?_
    · unfold handle
      split
      · next content decoded =>
        exact closed.bind (handlers kind content named decoded) fun _ => closed.pure _
      · exact closed.bind (log _ _ _ _) fun _ => closed.pure _
    · rintro (fault | outcome)
      · refine closed.bind (closed.ofExcept _) fun cause => ?_
        exact closed.bind (log _ _ _ _) fun _ => closed.pure _
      · exact closed.pure _

/-- What the handler of an event has, dispatching it has. -/
theorem dispatch_of_handler (closed : Closed C)
    (log : ∀ level source message facts, C (Call.log level source message facts))
    (handlers : ∀ kind content, Event.Kind.named? tag = some kind →
      event.decode? kind = some content → C (handler height ordinal kind content))
    (dispatched : ∀ outcome, C (Call.note (.dispatched tag height ordinal event outcome))) :
    C (dispatch tag event height ordinal) := by
  refine closed.bind (closed.attempt (outcomeOf_of_handler closed log handlers)) fun outcome => ?_
  exact closed.bind (dispatched outcome.toOption) fun _ => closed.ofExcept outcome

theorem dispatchAll_of_dispatch (sequential : Sequential C)
    (dispatches : ∀ event ordinal, C (dispatch event.type event height ordinal))
    (events : List Event) (ordinal : Nat) : C (Loop.dispatchAll height events ordinal) := by
  induction events generalizing ordinal with
  | nil => exact sequential.pure _
  | cons event rest ih =>
      refine sequential.bind (dispatches event _) fun outcome => ?_
      exact sequential.bind (ih (ordinal + 1)) fun _ => sequential.pure _

variable (steps : Steps C operations questions notes) (logged : ∀ line, notes (.logged line))
  (handled : ∀ operation, operation.IsHandlersAt height → operations operation)

include steps logged handled

theorem dispatch_keeps (tag : String) (event : Event) (ordinal : Number)
    (dispatched : ∀ outcome, notes (.dispatched tag height ordinal event outcome)) :
    C (dispatch tag event height ordinal) :=
  dispatch_of_handler steps.closed (steps.log logged)
    (fun kind content _ _ => steps.handler logged handled ordinal kind content)
    fun outcome => steps.note _ (dispatched outcome)

theorem dispatchAll_keeps
    (dispatched : ∀ tag ordinal event outcome,
      notes (.dispatched tag height ordinal event outcome))
    (events : List Event) (ordinal : Nat) :
    C (Loop.dispatchAll height events ordinal) :=
  dispatchAll_of_dispatch steps.closed.toSequential
    (fun event ordinal => dispatch_keeps steps logged handled _ event ordinal (dispatched _ _ _))
    events ordinal

end Dispatching

/-!
## Votes
-/

section Votes

theorem storeVotes_of_votes (sequential : Sequential C) {target : Target} {height : Height}
    (signers : List Signer) (asks : ∀ signer ∈ signers, C (hasVote target height signer))
    (casts : ∀ signer ∈ signers, C (storeVote target height signer)) :
    C (storeVotes target height signers) := by
  induction signers with
  | nil => exact sequential.pure _
  | cons signer rest ih =>
      have later := ih (fun other member => asks other (List.mem_cons_of_mem _ member))
        fun other member => casts other (List.mem_cons_of_mem _ member)
      refine sequential.bind (asks signer List.mem_cons_self) fun has => ?_
      split
      · exact later
      · refine sequential.bind (casts signer List.mem_cons_self) fun _ => ?_
        exact sequential.bind later fun _ => sequential.pure _

variable (parts : Parts C operations questions)

include parts

theorem resolve_keeps (asked : ∀ path data, questions (.query path data)) (address : String) :
    C (resolve address) := by
  unfold resolve
  split
  · exact parts.sequential.fail _
  · exact parts.sequential.bind (parts.ask _ (asked _ _)) fun _ =>
      parts.sequential.ofExcept _

theorem signers_keeps (asked : ∀ path data, questions (.query path data))
    (signatures : List Chain.Signature) : C (signers signatures) := by
  induction signatures with
  | nil => exact parts.sequential.pure _
  | cons signature rest ih =>
      refine parts.sequential.bind (resolve_keeps parts asked _) fun _ => ?_
      exact parts.sequential.bind ih fun _ => parts.sequential.pure _

variable {height : Height}

theorem target_keeps (lookup : ∀ operation, operation.IsLookupAt height → operations operation) :
    C (target? height) := by
  refine parts.sequential.bind (parts.record _ (lookup _ rfl)) fun created => ?_
  cases created with
  | some proposal => exact parts.sequential.pure _
  | none =>
      refine parts.sequential.bind (parts.record _ (lookup _ rfl)) fun settled => ?_
      cases settled with
      | some proposal => exact parts.sequential.pure _
      | none =>
          exact parts.sequential.bind (parts.record _ (lookup _ rfl)) fun _ =>
            parts.sequential.pure _

theorem reconcileTarget_of_casting {target : Target}
    (asked : ∀ question, question.IsVotingAt height → questions question)
    (casts : ∀ signers, C (storeVotes target height signers)) : C (reconcileTarget target height) := by
  refine parts.sequential.bind (parts.ask _ (asked _ rfl)) fun commit => ?_
  refine parts.sequential.bind
    (signers_keeps parts (fun _ _ => asked _ trivial) _) fun signers => ?_
  refine parts.sequential.bind (casts signers) fun _ => ?_
  exact parts.sequential.bind (parts.log _ _ _ _) fun _ => parts.sequential.pure _

variable (casting : ∀ operation, operation.IsCastingAt height → operations operation)

include casting

theorem hasVote_keeps (target : Target) (signer : Signer) :
    C (hasVote target height signer) := by
  cases target with
  | created => exact parts.record _ (casting _ rfl)
  | settled => exact parts.record _ (casting _ rfl)
  | granted => exact parts.record _ (casting _ rfl)

theorem storeVote_keeps (target : Target) (signer : Signer) :
    C (storeVote target height signer) := by
  cases target with
  | created =>
      exact parts.sequential.bind (parts.record _ (casting _ rfl)) fun _ =>
        parts.sequential.pure _
  | settled =>
      exact parts.sequential.bind (parts.record _ (casting _ rfl)) fun _ =>
        parts.sequential.pure _
  | granted =>
      exact parts.sequential.bind (parts.record _ (casting _ rfl)) fun _ =>
        parts.sequential.pure _

theorem storeVotes_keeps (target : Target) (signers : List Signer) :
    C (storeVotes target height signers) :=
  storeVotes_of_votes parts.sequential signers
    (fun signer _ => hasVote_keeps parts casting target signer)
    fun signer _ => storeVote_keeps parts casting target signer

theorem reconcileTarget_keeps (asked : ∀ question, question.IsVotingAt height → questions question)
    (target : Target) : C (reconcileTarget target height) :=
  reconcileTarget_of_casting parts asked fun signers => storeVotes_keeps parts casting target signers

theorem reconcile_keeps (lookup : ∀ operation, operation.IsLookupAt height → operations operation)
    (asked : ∀ question, question.IsVotingAt height → questions question)
    (reconciled : C (Call.note (.reconciled height))) :
    C (reconcile height) := by
  refine parts.sequential.bind (target_keeps parts lookup) fun target => ?_
  have ending : ∀ reconciliation : Reconciliation, C (do
      Call.note (.reconciled height)
      return reconciliation) := fun _ =>
    parts.sequential.bind reconciled fun _ => parts.sequential.pure _
  cases target with
  | none => exact ending _
  | some target =>
      exact parts.sequential.bind (reconcileTarget_keeps parts casting asked target)
        ending

end Votes

/-!
## The whole pass
-/

theorem process_of_stages (sequential : Sequential C)
    (log : ∀ level source message facts, C (Call.log level source message facts))
    {options : FollowOptions} {height : Height} (fetch : C (ask (.blockResults height)))
    (dispatches : ∀ events, C (Loop.dispatchAll height events 0)) (votes : C (reconcile height))
    (save : C (record (.saveProgress options.progressId height))) :
    C (Loop.process options height) := by
  refine sequential.bind fetch fun results => ?_
  refine sequential.bind (dispatches _) fun handled => ?_
  refine sequential.bind votes fun votes => ?_
  refine sequential.bind save fun _ => ?_
  split
  · exact log _ _ _ _
  · exact log _ _ _ _

theorem process_keeps (steps : Steps C operations questions notes)
    (logged : ∀ line, notes (.logged line)) {options : FollowOptions} {height : Height}
    (may : ∀ operation, operation.IsOfPass options height → operations operation)
    (block : questions (.blockResults height))
    (asked : ∀ question, question.IsVotingAt height → questions question)
    (dispatched : ∀ tag ordinal event outcome,
      notes (.dispatched tag height ordinal event outcome))
    (reconciled : notes (.reconciled height)) : C (Loop.process options height) := by
  refine process_of_stages steps.closed.toSequential (steps.log logged) (steps.ask _ block) ?_ ?_ ?_
  · intro events
    exact dispatchAll_keeps steps logged (fun _ at_height => may _ (.inl at_height)) dispatched
      events 0
  · exact reconcile_keeps (steps.parts logged)
      (fun _ at_height => may _ (.inr (.inr (.inl at_height))))
      (fun _ at_height => may _ (.inr (.inl at_height))) asked (steps.note _ reconciled)
  · exact steps.record _ (may _ (.inr (.inr (.inr rfl))))

end World

/-!
## A whole round
-/

namespace Loop

variable {others : Collaborators} {C : {α : Type} → Call (World others) α → Prop}

theorem heed_keeps {α : Type} (closed : Closed C) (loop : Loop) {call : Call (World others) α}
    (kept : C call) : C (loop.heed call) :=
  closed.bind (closed.watch kept) fun _ => closed.pure _

/-- A property of what a round does besides its passes. -/
structure Around (C : {α : Type} → Call (World others) α → Prop) (options : FollowOptions) :
    Prop where
  closed : Closed C
  log : ∀ level source message facts, C (Call.log level source message facts)
  connect : C World.connect
  wait : ∀ pause, C (World.wait pause)
  status : C (World.ask .status)
  progress : C (World.record (.progress options.progressId))

section Around

variable {options : FollowOptions} (around : Around C options)

include around

theorem failed_keeps (loop : Loop) (processed : Nat) (head : Option Height) (height : Height)
    (fault : Fault) : C (loop.failed processed head height fault) := by
  unfold failed
  split
  · exact around.closed.pure _
  · dsimp only
    split <;> exact around.closed.bind (around.log _ _ _ _) fun _ => around.closed.pure _

theorem resumePoint_keeps : C (resumePoint options) := by
  refine around.closed.bind around.progress fun last => ?_
  exact around.closed.bind (around.log _ _ _ _) fun _ => around.closed.pure _

theorem resume_keeps (loop : Loop) : C (loop.resume options) := by
  refine around.closed.bind (heed_keeps around.closed _ (resumePoint_keeps around)) ?_
  rintro ⟨fault | next, loop⟩
  · exact around.closed.pure _
  · exact around.closed.pure _

variable (passes : ∀ height, C (process options height))

include passes

theorem catchUp_keeps (head : Height) (left : Nat) (height : Height) (processed : Nat)
    (loop : Loop) : C (catchUp options head left height processed loop) := by
  induction left generalizing height processed loop with
  | zero => exact around.closed.pure _
  | succ left ih =>
      unfold catchUp
      split
      · exact around.closed.pure _
      · refine around.closed.bind (heed_keeps around.closed _ (around.wait _)) ?_
        rintro ⟨_, loop⟩
        dsimp only
        split
        · exact around.closed.pure _
        · refine around.closed.bind (heed_keeps around.closed _ (passes height)) ?_
          rintro ⟨fault | _, loop⟩
          · exact failed_keeps around _ _ _ _ _
          · exact ih _ _ _

theorem round_keeps (loop : Loop) (height : Height) : C (round options loop height) := by
  unfold round
  split
  · exact around.closed.pure _
  · refine around.closed.bind (heed_keeps around.closed _ around.connect) ?_
    rintro ⟨fault | _ | _, loop⟩
    · exact around.closed.pure _
    · exact failed_keeps around _ _ _ _ _
    · refine around.closed.bind (heed_keeps around.closed _ around.status) ?_
      rintro ⟨fault | status, loop⟩
      · exact failed_keeps around _ _ _ _ _
      · exact catchUp_keeps around passes _ _ _ _ _

/-- What the passes of a round have, and what else it does, the round has. -/
theorem tick_keeps (loop : Loop) : C (loop.tick options) := by
  unfold tick
  split
  · exact round_keeps around passes _ _
  · refine around.closed.bind (resume_keeps around _) ?_
    rintro ⟨fault | height, loop⟩
    · exact failed_keeps around _ _ _ _ _
    · exact round_keeps around passes _ _

end Around

end Loop

namespace World

variable {others : Collaborators}

/-!
## What is kept
-/

variable (discreet : others.Discreet) {tables : others.Store → Ledger.Tables}
  (kept : others.books.KeptIn tables)

include discreet

theorem steps_sameStore :
    Steps (Keeping fun (world : World others) _ (final : World others) => final.store = world.store)
      (fun _ => False) (fun _ => True) (fun _ => True) where
  closed := closed_keeping ⟨fun _ => rfl, fun first second => second.trans first⟩
  record _ impossible := impossible.elim
  ask _ _ _ _ _ _ ending := (ask_ends discreet ending).1
  consult _ _ _ _ _ ending := (consult_ends discreet ending).1
  note _ _ := Keeps.note fun _ => rfl

include kept

theorem steps_untouched {γ : Type} (part : Ledger.Tables → γ) :
    Steps (Keeping fun (world : World others) _ (final : World others) =>
        part (tables final.store) = part (tables world.store))
      (fun operation => ∀ tables : Ledger.Tables, part (tables.perform operation).2 = part tables)
      (fun _ => True) (fun _ => True) where
  closed := closed_keeping ⟨fun _ => rfl, fun first second => second.trans first⟩
  record := by
    intro operation untouched world result trace final ending
    obtain ⟨_, _, ⟨_, performed, _⟩ | ⟨_, same, _⟩⟩ := record_ends discreet kept ending
    · rw [performed, untouched]
    · rw [same]
  ask _ _ _ _ _ _ ending := congrArg (part <| tables ·) (ask_ends discreet ending).1
  consult _ _ _ _ _ ending := congrArg (part <| tables ·) (consult_ends discreet ending).1
  note _ _ := Keeps.note fun _ => rfl

theorem reconcile_untouched (height : Height) :
    Keeps (fun (world : World others) _ (final : World others) =>
        (tables final.store).withoutVotes = (tables world.store).withoutVotes)
      (reconcile height) := by
  have steps := steps_untouched discreet kept Ledger.Tables.withoutVotes
  refine reconcile_keeps (steps.parts fun _ => trivial) ?_ ?_ (fun _ _ => trivial)
    (steps.note _ trivial)
  · intro operation casting tables
    cases operation <;> first | rfl | exact casting.elim
  · intro operation lookup tables
    cases operation <;> first | rfl | exact lookup.elim

theorem parts_noting (allowed : Note → Prop) (operations : Ledger.Operation → Prop)
    (questions : Chain.Question → Prop) (outside : ∀ note : Note, note.isOutside → allowed note)
    (recorded : ∀ operation, operations operation → ∀ succeeded,
      allowed (.recorded operation succeeded))
    (asked : ∀ question, questions question →
      allowed (.asked question) ∧ ∀ answer, allowed (.answered question answer)) :
    Parts (Keeping (Noting allowed : World others → Trace → World others → Prop)) operations
      questions where
  sequential := (closed_keeping Noting.chaining).toSequential
  record := by
    intro operation may world result trace final ending note member
    obtain ⟨quiet, allQuiet, ⟨_, _, rfl⟩ | ⟨_, _, rfl⟩⟩ := record_ends discreet kept ending
    all_goals
      rcases List.mem_append.mp member with quietly | last
      · exact outside note (allQuiet note quietly)
      · exact List.mem_singleton.mp last ▸ recorded operation may _
  ask := by
    intro question may world result trace final ending note member
    obtain ⟨_, asking, noted, ⟨answer, _, rfl⟩ | ⟨_, rfl⟩⟩ := ask_ends discreet ending
    · rcases List.mem_append.mp member with earlier | last
      · rcases noted note earlier with quiet | rfl
        · exact outside note quiet
        · exact (asked question may).1
      · exact List.mem_singleton.mp last ▸ (asked question may).2 answer
    · rcases noted note member with quiet | rfl
      · exact outside note quiet
      · exact (asked question may).1
  log _ _ _ _ := Noting.note (outside _ rfl)

theorem steps_noting (allowed : Note → Prop) (operations : Ledger.Operation → Prop)
    (questions : Chain.Question → Prop) (outside : ∀ note : Note, note.isOutside → allowed note)
    (consulted : ∀ request, allowed (.consulted request))
    (recorded : ∀ operation, operations operation → ∀ succeeded,
      allowed (.recorded operation succeeded))
    (asked : ∀ question, questions question →
      allowed (.asked question) ∧ ∀ answer, allowed (.answered question answer)) :
    Steps (Keeping (Noting allowed : World others → Trace → World others → Prop)) operations questions
      allowed := by
  have parts := parts_noting discreet kept allowed operations questions outside recorded asked
  refine ⟨closed_keeping Noting.chaining, parts.record, parts.ask, ?_, fun _ => Noting.note⟩
  intro request world result trace final ending note member
  obtain ⟨_, quiet, allQuiet, rfl⟩ := consult_ends discreet ending
  rcases List.mem_cons.mp member with rfl | quietly
  · exact consulted request
  · exact outside note (allQuiet note quietly)

end World

/-- A note tells of no operation that was done. -/
def Note.IsUndone (note : Note) : Prop :=
  ∀ operation, note ≠ .recorded operation true

theorem Note.undone_of_outside {note : Note} (outside : note.isOutside) : note.IsUndone := by
  rintro operation rfl
  cases outside

theorem Note.undone_of_logged (line : Log.Line) : (Note.logged line).IsUndone :=
  Note.undone_of_outside rfl

theorem Trace.operations_of_undone {trace : Trace} (undone : ∀ note ∈ trace, note.IsUndone) :
    trace.operations = [] := by
  refine List.filterMap_eq_nil_iff.mpr fun note member => ?_
  split
  · exact (undone _ member _ rfl).elim
  · rfl

/-- The tables come to what the ledger was asked to do and did. -/
def Replays {others : Collaborators} (tables : others.Store → Ledger.Tables) (world : World others)
    (trace : Trace) (final : World others) : Prop :=
  tables final.store = (tables world.store).replay trace.operations

theorem replays_chaining {others : Collaborators} {tables : others.Store → Ledger.Tables} :
    Chaining (Replays tables : World others → Trace → World others → Prop) where
  refl _ := rfl
  trans first second := by
    rw [Replays, Trace.operations_append, Ledger.Tables.replay_append, ← first]
    exact second

theorem replays_of_undone {others : Collaborators} {tables : others.Store → Ledger.Tables}
    {world final : World others} {trace : Trace} (same : tables final.store = tables world.store)
    (undone : ∀ note ∈ trace, note.IsUndone) : Replays tables world trace final := by
  rw [Replays, Trace.operations_of_undone undone]
  exact same

namespace World

variable {others : Collaborators} (discreet : others.Discreet)
  {tables : others.Store → Ledger.Tables} (kept : others.books.KeptIn tables)

include discreet kept

theorem steps_undone : Steps
    (Keeping (Noting Note.IsUndone : World others → Trace → World others → Prop)) (fun _ => False)
    (fun _ => True) Note.IsUndone :=
  steps_noting discreet kept _ _ _ (fun _ => Note.undone_of_outside) (by simp [Note.IsUndone])
    (fun _ impossible => impossible.elim) (by simp [Note.IsUndone])

theorem steps_replays : Steps (Keeping (Replays tables)) (fun _ => True) (fun _ => True)
    Note.IsUndone where
  closed := closed_keeping replays_chaining
  record := by
    intro operation _ world result trace final ending
    obtain ⟨quiet, allQuiet, ⟨_, performed, rfl⟩ | ⟨_, untouched, rfl⟩⟩ :=
      record_ends discreet kept ending
    · rw [Replays, Trace.operations_append, Trace.operations_of_quiet allQuiet, performed]
      rfl
    · rw [Replays, Trace.operations_append, Trace.operations_of_quiet allQuiet, untouched]
      rfl
  ask question _ _ _ _ _ ending :=
    replays_of_undone (congrArg tables (ask_ends discreet ending).1)
      ((steps_undone discreet kept).ask question trivial ending)
  consult request _ _ _ _ ending :=
    replays_of_undone (congrArg tables (consult_ends discreet ending).1)
      ((steps_undone discreet kept).consult request ending)
  note note undone := Keeps.note fun _ => replays_of_undone rfl (by simpa using undone)

end World

end RollCall
