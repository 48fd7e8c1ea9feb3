import RollCall.Proofs.InMemory
import RollCall.Proofs.Sessions

/-!
# Advice

What the advisory agent answers, or that it does not, changes nothing in the index. Two runs in worlds
that are the same but for the agent are followed side by side: all that the indexer asks the node and
the ledger is the same in both, and so is what comes of every round. An agent in another state may
answer anything else, so the two runs may as well be those of two agents. An agent that raises
something without words ends the handler that turned to it. Where neither agent does, the outcomes of
dispatches and what the agent is asked are the same as well.
-/

set_option autoImplicit false

namespace RollCall

open Call

/-!
## What is compared
-/

/-- A note that the indexer takes itself. -/
def Note.own? (note : Note) : Option Note :=
  if note.isOutside then none else some note

/-- What of such a note no agent has a say in: neither what it is asked nor what becomes of an event. -/
def Note.unadvised? : Note → Option Note
  | .consulted _ => none
  | .dispatched tag height ordinal event _ => some (.dispatched tag height ordinal event none)
  | note => note.own?

theorem Note.own?_of_outside {note : Note} (outside : note.isOutside) : note.own? = none :=
  if_pos outside

theorem Note.unadvised?_of_outside {note : Note} (outside : note.isOutside) :
    note.unadvised? = none := by
  cases note with
  | logged | requested | executed => rfl
  | _ => cases outside

namespace Trace

def own (trace : Trace) : Trace :=
  trace.filterMap Note.own?

def unadvised (trace : Trace) : Trace :=
  trace.filterMap Note.unadvised?

theorem operations_unadvised (trace : Trace) : trace.unadvised.operations = trace.operations := by
  rw [unadvised, operations, List.filterMap_filterMap]
  refine List.filterMap_congr fun note _ => ?_
  cases note with
  | recorded operation succeeded => cases succeeded <;> rfl
  | _ => rfl

end Trace

variable {others : Collaborators} {α β : Type} {view : Note → Option Note}

/-- Two worlds are the same but for the agent. -/
structure World.SameButAgent (world world' : World others) : Prop where
  chain : world.chain = world'.chain
  store : world.store = world'.store
  clock : world.clock = world'.clock

/-- Two results are values that are related, or the same fault. -/
inductive Agree (related : α → α → Prop) : Except Fault α → Except Fault α → Prop where
  | values {value value' : α} (alike : related value value') : Agree related (.ok value) (.ok value')
  | faults (fault : Fault) : Agree related (.error fault) (.error fault)

namespace Agree

variable {result result' : Except Fault α} {related weaker : α → α → Prop}

theorem refl (result : Except Fault α) : Agree Eq result result := by
  cases result with
  | error fault => exact .faults fault
  | ok value => exact .values rfl

theorem eq (agree : Agree Eq result result') : result = result' := by
  cases agree with
  | values same => rw [same]
  | faults fault => rfl

theorem mono (agree : Agree related result result')
    (weaken : ∀ value value', related value value' → weaker value value') :
    Agree weaker result result' := by
  cases agree with
  | values alike => exact .values (weaken _ _ alike)
  | faults fault => exact .faults fault

end Agree

/-- Two calls have come to results that are related and else to the same, as far as a view of what is
noted shows it and but for what is left of the agent. -/
structure Completion.Alike (view : Note → Option Note)
    (related : Except Fault α → Except Fault α → Prop)
    (first second : Completion (World others) α) : Prop where
  result : related first.result second.result
  state : first.state.SameButAgent second.state
  seen : first.trace.filterMap view = second.trace.filterMap view
  interrupted : first.interrupted = second.interrupted

namespace Call

/-- Two calls come to the same in worlds that are the same but for the agent. -/
def Alike (view : Note → Option Note) (related : Except Fault α → Except Fault α → Prop)
    (call call' : Call (World others) α) : Prop :=
  ∀ ⦃world world'⦄, world.SameButAgent world' → (call world).Alike view related (call' world')

/-- The agent has no say in what a call comes to. -/
def Unadvised (view : Note → Option Note) (call : Call (World others) α) : Prop :=
  call.Alike view (Agree Eq) call

namespace Alike

variable {call call' : Call (World others) α} {related weaker : Except Fault α → Except Fault α → Prop}

theorem mono (alike : call.Alike view related call')
    (weaken : ∀ result result', related result result' → weaker result result') :
    call.Alike view weaker call' :=
  fun _ _ same => { alike same with result := weaken _ _ (alike same).result }

theorem pure {related : α → α → Prop} {value value' : α} (alike : related value value') :
    (Pure.pure value : Call (World others) α).Alike view (Agree related) (Pure.pure value') :=
  fun _ _ same => ⟨.values alike, same, rfl, rfl⟩

theorem note {entry entry' : Note} (same : view entry = view entry') :
    (Call.note entry : Call (World others) Unit).Alike view (Agree Eq) (Call.note entry') :=
  fun _ _ worlds =>
    ⟨.values rfl, worlds, by simp [Call.note, List.filterMap_cons, same], rfl⟩

theorem attempt (alike : call.Alike view related call') :
    call.attempt.Alike view (Agree related) call'.attempt := by
  intro world world' same
  have ended := alike same
  exact ⟨.values ended.result, ended.state, ended.seen, ended.interrupted⟩

theorem watch (alike : call.Alike view related call') :
    call.watch.Alike view (Agree fun done done' => related done.1 done'.1 ∧ done.2 = done'.2)
      call'.watch := by
  intro world world' same
  have ended := alike same
  exact ⟨.values ⟨ended.result, ended.interrupted⟩, ended.state, ended.seen, rfl⟩

theorem bind {related : α → α → Prop} {ends : Except Fault β → Except Fault β → Prop}
    {next next' : α → Call (World others) β} (faults : ∀ fault, ends (.error fault) (.error fault))
    (first : call.Alike view (Agree related) call')
    (rest : ∀ value value', related value value' → (next value).Alike view ends (next' value')) :
    (call >>= next).Alike view ends (call' >>= next') := by
  intro world world' same
  have before := first same
  have agree := before.result
  generalize ended : (call world).result = result, ended' : (call' world').result = result' at agree
  cases agree with
  | faults fault =>
      rw [bind_of_error ended, bind_of_error ended']
      exact ⟨faults fault, before.state, before.seen, before.interrupted⟩
  | values alike =>
      rw [bind_of_ok ended, bind_of_ok ended']
      have after := rest _ _ alike before.state
      constructor
      case result => exact after.result
      case state => exact after.state
      case seen => rw [List.filterMap_append, List.filterMap_append, before.seen, after.seen]
      case interrupted => rw [before.interrupted, after.interrupted]

/-- After the same value the same call goes on. -/
theorem andThen {ends : Except Fault β → Except Fault β → Prop} {next : α → Call (World others) β}
    (faults : ∀ fault, ends (.error fault) (.error fault)) (first : call.Alike view (Agree Eq) call')
    (rest : ∀ value, (next value).Alike view ends (next value)) :
    (call >>= next).Alike view ends (call' >>= next) :=
  bind faults first fun value _ same => same ▸ rest value

end Alike

theorem closed_unadvised :
    Closed (Unadvised view : {α : Type} → Call (World others) α → Prop) where
  pure _ := .pure rfl
  fail fault _ _ same := ⟨.faults fault, same, rfl, rfl⟩
  bind first rest := .andThen .faults first rest
  attempt unadvised := (unadvised.mono fun _ _ => Agree.eq).attempt
  watch unadvised := by
    refine (unadvised.mono fun _ _ => Agree.eq).watch.mono fun _ _ agree => ?_
    exact agree.mono fun _ _ same => Prod.ext same.1 same.2

theorem unadvised_inside {σ : Type} {part : World others → σ}
    {replace : σ → World others → World others} (call : Call σ α)
    (agrees : ∀ {world world'}, world.SameButAgent world' → part world = part world')
    (replaced : ∀ {world world'} inner, world.SameButAgent world' →
      (replace inner world).SameButAgent (replace inner world')) :
    (call.inside part replace).Unadvised view := by
  intro world world' same
  unfold inside
  rw [agrees same]
  exact ⟨.refl _, replaced _ same, rfl, rfl⟩

/-- A call that comes to a value and does nothing but log. -/
def OnlyLogs (call : Call (World others) α) : Prop :=
  ∀ world, ∃ value, ∃ quiet : Trace, (∀ note ∈ quiet, note.isOutside) ∧
    call world = { result := .ok value, state := world, trace := quiet }

theorem onlyLogs_pure (value : α) : (Pure.pure value : Call (World others) α).OnlyLogs :=
  fun _ => ⟨value, [], by simp, rfl⟩

theorem onlyLogs_log (level : Log.Level) (source : Log.Source) (message : String)
    (facts : Option Members) : (Call.log level source message facts : Call (World others) Unit).OnlyLogs :=
  fun _ => ⟨(), _, by simp [Note.isOutside], rfl⟩

theorem OnlyLogs.bind {call : Call (World others) α} {next : α → Call (World others) β}
    (logs : call.OnlyLogs) (rest : ∀ value, (next value).OnlyLogs) : (call >>= next).OnlyLogs := by
  intro world
  obtain ⟨value, quiet, allQuiet, ended⟩ := logs world
  obtain ⟨value', quiet', allQuiet', ended'⟩ := rest value world
  refine ⟨value', quiet ++ quiet', List.forall_mem_append.mpr ⟨allQuiet, allQuiet'⟩, ?_⟩
  rw [bind_of_ok (congrArg Completion.result ended), ended, ended']
  rfl

theorem OnlyLogs.message_bind {fault : Fault} {next : String → Call (World others) α}
    (worded : fault.words? ≠ none) (logs : ∀ words, (next words).OnlyLogs) :
    (Call.ofExcept fault.message >>= next).OnlyLogs := by
  obtain ⟨words, worded⟩ := Option.ne_none_iff_exists'.mp worded
  rw [Fault.message_of_some worded]
  exact logs words

theorem OnlyLogs.alike {call call' : Call (World others) α}
    (hides : ∀ note : Note, note.isOutside → view note = none) (logs : call.OnlyLogs)
    (logs' : call'.OnlyLogs) : call.Alike view (Agree fun _ _ => True) call' := by
  have unseen : ∀ {quiet : Trace}, (∀ note ∈ quiet, note.isOutside) → quiet.filterMap view = [] :=
    fun allQuiet => List.filterMap_eq_nil_iff.mpr fun note member => hides note (allQuiet note member)
  intro world world' same
  obtain ⟨value, quiet, allQuiet, ended⟩ := logs world
  obtain ⟨value', quiet', allQuiet', ended'⟩ := logs' world'
  rw [ended, ended']
  exact ⟨.values trivial, same, (unseen allQuiet).trans (unseen allQuiet').symm, rfl⟩

/-- Two calls that only log and come to no value of interest are alike. -/
theorem OnlyLogs.same {call call' : Call (World others) Unit}
    (hides : ∀ note : Note, note.isOutside → view note = none) (logs : call.OnlyLogs)
    (logs' : call'.OnlyLogs) : call.Alike view (Agree Eq) call' :=
  (logs.alike hides logs').mono fun _ _ agree => agree.mono fun _ _ _ => rfl

end Call

/-!
## What is done without the agent
-/

namespace World

theorem record_unadvised (operation : Ledger.Operation) :
    (record operation : Call (World others) operation.Answer).Unadvised view := by
  refine closed_unadvised.bind (closed_unadvised.attempt ?_) fun result => ?_
  · exact unadvised_inside _ (fun same => same.store) fun _ same => ⟨same.chain, rfl, same.clock⟩
  · exact closed_unadvised.bind (.note rfl) fun _ => closed_unadvised.ofExcept result

theorem ask_unadvised (question : Chain.Question) :
    (ask question : Call (World others) question.Answer).Unadvised view := by
  refine closed_unadvised.bind ?_ fun answer => ?_
  · exact unadvised_inside _ (fun same => same.chain) fun _ same => ⟨rfl, same.store, same.clock⟩
  · exact closed_unadvised.bind (.note rfl) fun _ => closed_unadvised.pure answer

theorem parts_unadvised : Parts (Unadvised view : {α : Type} → Call (World others) α → Prop)
    (fun _ => True) fun _ => True where
  sequential := closed_unadvised.toSequential
  record operation _ := record_unadvised operation
  ask question _ := ask_unadvised question
  log _ _ _ _ := .note rfl

theorem around_unadvised (options : FollowOptions) :
    Loop.Around (Unadvised view : {α : Type} → Call (World others) α → Prop) options where
  closed := closed_unadvised
  log := parts_unadvised.log
  connect := unadvised_inside _ (fun same => same.chain) fun _ same => ⟨rfl, same.store, same.clock⟩
  wait _ := unadvised_inside _ (fun same => same.clock) fun _ same => ⟨same.chain, same.store, rfl⟩
  status := ask_unadvised _
  progress := record_unadvised _

theorem reconcile_unadvised (height : Height) :
    (reconcile height : Call (World others) Reconciliation).Unadvised view :=
  reconcile_keeps parts_unadvised (fun _ _ => trivial) (fun _ _ => trivial) (fun _ _ => trivial)
    (.note rfl)

theorem reconnected_unadvised :
    (Call.modify reconnected : Call (World others) Unit).Unadvised view := by
  intro world world' same
  have anew : world.reconnected.chain = world'.reconnected.chain := by
    rw [reconnected, reconnected, same.chain]
  exact ⟨.values rfl, ⟨anew, same.store, same.clock⟩, rfl, rfl⟩

end World

/-!
## What is done with its advice
-/

/-- An agent that leaves the indexer's notes to the indexer and does not ask it to stop. It may answer
or fail as it likes. -/
structure Advice.Agent.Aloof {σ : Type} (agent : Advice.Agent σ) : Prop where
  quiet : ∀ request, Keeps Quiet (agent request)
  patient : ∀ request state, (agent request state).interrupted = false

/-- An agent that raises nothing without words. -/
def Advice.Agent.Speaks {σ : Type} (agent : Advice.Agent σ) : Prop :=
  ∀ request state, IsTold (agent request state).result

namespace World

variable (aloof : others.agent.Aloof)

include aloof

theorem advise_completes (request : Advice.Request) (world : World others) :
    ∃ result agent, ∃ quiet : Trace, (∀ note ∈ quiet, note.isOutside) ∧ IsTold result ∧
      (others.agent.Speaks → ∃ answer, result = .ok answer) ∧ advise request world =
        { result, state := { world with agent }, trace := .consulted request :: quiet } := by
  have quiet := aloof.quiet request ((others.agent request).ends world.agent)
  have patient := aloof.patient request world.agent
  have speaks : others.agent.Speaks → IsTold (others.agent request world.agent).result :=
    fun speaks => speaks request world.agent
  have consulted : consult request world =
      { result := (others.agent request world.agent).result
        state := { world with agent := (others.agent request world.agent).state }
        trace := .consulted request :: (others.agent request world.agent).trace } := by
    have noted : (Call.note (.consulted request) world).result = .ok () := rfl
    unfold consult
    rw [bind_of_ok noted]
    simp [Call.note, Call.inside, patient]
  -- Its fault, if it fails, is a value from here on.
  have attempted : ((consult request).attempt world).result =
      .ok (others.agent request world.agent).result := by
    rw [Call.attempt, consulted]
  unfold advise
  rw [bind_of_ok attempted, Call.attempt, consulted]
  clear consulted attempted patient
  generalize others.agent request world.agent = answered at quiet speaks
  cases answered with
  | mk result agent trace interrupted =>
  cases result with
  | ok answer =>
      refine ⟨.ok (some answer), agent, trace, quiet, trivial, fun _ => ⟨_, rfl⟩, ?_⟩
      simp [Pure.pure, Call.done]
  | error fault =>
      cases worded : fault.words? with
      | none =>
          refine ⟨.error .wordless, agent, trace, quiet, (fun silent => nomatch silent),
            fun given => (speaks given worded).elim, ?_⟩
          dsimp only
          rw [Fault.message_of_none worded]
          simp [Call.ofExcept, Bind.bind, Call.andThen]
      | some words =>
          refine ⟨.ok none, agent, ?quiet, ?allQuiet, trivial, fun _ => ⟨none, rfl⟩, ?same⟩
          case same =>
            dsimp only
            rw [Fault.message_of_some worded]
            rfl
          case allQuiet =>
            refine List.forall_mem_append.mpr ⟨quiet, fun note member => ?_⟩
            exact List.mem_singleton.mp member ▸ rfl

/-!
### Agents that raise nothing without words
-/

section Speaking

variable (speaks : others.agent.Speaks)

include speaks

/-- The agent is asked the same, whatever it answers. -/
theorem advise_alike (request : Advice.Request) :
    (advise request : Call (World others) (Option request.Answer)).Alike Note.own?
      (Agree fun _ _ => True) (advise request) := by
  have told : ∀ {quiet : Trace}, (∀ note ∈ quiet, note.isOutside) →
      List.filterMap Note.own? (.consulted request :: quiet) = [.consulted request] := by
    intro quiet allQuiet
    refine congrArg (Note.consulted request :: ·) (List.filterMap_eq_nil_iff.mpr ?_)
    exact fun note member => Note.own?_of_outside (allQuiet note member)
  intro world world' same
  obtain ⟨_, agent, quiet, allQuiet, _, answers, ended⟩ := advise_completes aloof request world
  obtain ⟨_, agent', quiet', allQuiet', _, answers', ended'⟩ :=
    advise_completes aloof request world'
  obtain ⟨answer, rfl⟩ := answers speaks
  obtain ⟨answer', rfl⟩ := answers' speaks
  rw [ended, ended']
  exact ⟨.values trivial, ⟨same.chain, same.store, same.clock⟩,
    (told allQuiet).trans (told allQuiet').symm, rfl⟩

theorem onDiscussion_unadvised (event : Event.Discussion) (height : Height) (ordinal : Number) :
    (onDiscussion event height ordinal : Call (World others) Unit).Unadvised Note.own? := by
  refine closed_unadvised.bind (record_unadvised _) fun stored => ?_
  cases stored with
  | some id => exact parts_unadvised.log _ _ _ _
  | none =>
      refine closed_unadvised.bind (record_unadvised _) fun id => ?_
      refine closed_unadvised.bind (parts_unadvised.log _ _ _ _) fun _ => ?_
      exact .bind .faults (advise_alike aloof speaks _) fun _ _ _ => closed_unadvised.pure _

theorem storeProposal_unadvised (event : Event.Proposal) (height : Height) :
    (storeProposal event height : Call (World others) Unit).Unadvised Note.own? := by
  refine closed_unadvised.bind (record_unadvised _) fun _ => ?_
  refine closed_unadvised.bind (parts_unadvised.log _ _ _ _) fun _ => ?_
  refine .bind .faults (advise_alike aloof speaks _) fun _ _ _ => ?_
  refine .bind .faults (advise_alike aloof speaks _) fun comment comment' _ => ?_
  -- The two comments may differ, but all that is done with a comment is to log it.
  refine OnlyLogs.same (fun _ => Note.own?_of_outside) ?_ ?_
  all_goals
    split
    · split
      · exact onlyLogs_log _ _ _ _
      · exact onlyLogs_pure _
    · exact onlyLogs_pure _

theorem handler_unadvised (height : Height) (ordinal : Number) (kind : Event.Kind)
    (content : kind.Content) :
    (handler height ordinal kind content : Call (World others) Unit).Unadvised Note.own? := by
  cases kind with
  | grant => exact onGrant_keeps parts_unadvised _ trivial trivial
  | discussion => exact onDiscussion_unadvised aloof speaks _ height ordinal
  | proposal =>
      exact onProposal_of_store parts_unadvised _ trivial
        (storeProposal_unadvised aloof speaks _ height)
  | settlement => exact onSettlement_keeps parts_unadvised _ trivial fun _ => trivial

theorem dispatch_unadvised (tag : String) (event : Event) (height : Height) (ordinal : Number) :
    (dispatch tag event height ordinal : Call (World others) Outcome).Unadvised Note.own? :=
  dispatch_of_handler closed_unadvised parts_unadvised.log
    (fun kind content _ _ => handler_unadvised aloof speaks height ordinal kind content)
    fun _ => .note rfl

end Speaking

end World

/-!
### Agents that raise anything
-/

/-- The same result, or two that there are words for. -/
def Contained (result result' : Except Fault α) : Prop :=
  result = result' ∨ IsTold result ∧ IsTold result'

theorem contained_of_agree {result result' : Except Fault α} (agree : Agree Eq result result') :
    Contained result result' :=
  .inl agree.eq

namespace Call

/-- A call that turns to no one but the agent, and has words for what it comes to. -/
def OnlyAdvises (call : Call (World others) α) : Prop :=
  ∀ world, ∃ result agent, ∃ trace : Trace, IsTold result ∧
    (∀ note ∈ trace, note.unadvised? = none) ∧
    call world = { result, state := { world with agent }, trace }

theorem OnlyLogs.onlyAdvises {call : Call (World others) α} (logs : call.OnlyLogs) :
    call.OnlyAdvises := by
  intro world
  obtain ⟨value, quiet, allQuiet, ended⟩ := logs world
  exact ⟨.ok value, world.agent, quiet, trivial,
    fun note member => Note.unadvised?_of_outside (allQuiet note member), ended⟩

theorem OnlyAdvises.bind {call : Call (World others) α} {next : α → Call (World others) β}
    (first : call.OnlyAdvises) (rest : ∀ value, (next value).OnlyAdvises) :
    (call >>= next).OnlyAdvises := by
  intro world
  obtain ⟨result, agent, trace, told, unseen, ended⟩ := first world
  have came : (call world).result = result := congrArg Completion.result ended
  cases result with
  | error fault =>
      refine ⟨.error fault, agent, trace, told, unseen, ?_⟩
      rw [bind_of_error came, ended]
  | ok value =>
      obtain ⟨result, agent', trace', told', unseen', ended'⟩ := rest value { world with agent }
      refine ⟨result, agent', trace ++ trace', told',
        List.forall_mem_append.mpr ⟨unseen, unseen'⟩, ?_⟩
      rw [bind_of_ok came, ended, ended']
      rfl

theorem OnlyAdvises.alike {call call' : Call (World others) α} (advises : call.OnlyAdvises)
    (advises' : call'.OnlyAdvises) : call.Alike Note.unadvised? Contained call' := by
  intro world world' same
  obtain ⟨result, agent, trace, told, unseen, ended⟩ := advises world
  obtain ⟨result', agent', trace', told', unseen', ended'⟩ := advises' world'
  rw [ended, ended']
  refine ⟨.inr ⟨told, told'⟩, ⟨same.chain, same.store, same.clock⟩, ?_, rfl⟩
  exact (List.filterMap_eq_nil_iff.mpr unseen).trans (List.filterMap_eq_nil_iff.mpr unseen').symm

end Call

namespace World

section Aloof

variable (aloof : others.agent.Aloof)

include aloof

theorem advise_onlyAdvises (request : Advice.Request) :
    (advise request : Call (World others) (Option request.Answer)).OnlyAdvises := by
  intro world
  obtain ⟨result, agent, quiet, allQuiet, told, _, ended⟩ := advise_completes aloof request world
  refine ⟨result, agent, _, told, ?_, ended⟩
  rw [List.forall_mem_cons]
  exact ⟨rfl, fun note member => Note.unadvised?_of_outside (allQuiet note member)⟩

theorem onDiscussion_contained (event : Event.Discussion) (height : Height) (ordinal : Number) :
    (onDiscussion event height ordinal : Call (World others) Unit).Alike Note.unadvised? Contained
      (onDiscussion event height ordinal) := by
  refine .andThen (fun _ => .inl rfl) (record_unadvised _) fun stored => ?_
  cases stored with
  | some id => exact (parts_unadvised.log _ _ _ _).mono fun _ _ => contained_of_agree
  | none =>
      refine .andThen (fun _ => .inl rfl) (record_unadvised _) fun id => ?_
      refine .andThen (fun _ => .inl rfl) (parts_unadvised.log _ _ _ _) fun _ => ?_
      have telling := (advise_onlyAdvises aloof (.submitDiscussion (.ofNat event.proposal)
        event.speakerAddress (Utf8.decode event.data))).bind fun _ => (onlyLogs_pure ()).onlyAdvises
      exact telling.alike telling

theorem storeProposal_contained (event : Event.Proposal) (height : Height) :
    (storeProposal event height : Call (World others) Unit).Alike Note.unadvised? Contained
      (storeProposal event height) := by
  refine .andThen (fun _ => .inl rfl) (record_unadvised (.upsertProposal _)) fun _ => ?_
  refine .andThen (fun _ => .inl rfl) (parts_unadvised.log _ _ _ _) fun _ => ?_
  refine OnlyAdvises.alike ?_ ?_
  all_goals
    refine OnlyAdvises.bind (advise_onlyAdvises aloof _) fun _ => ?_
    refine OnlyAdvises.bind (advise_onlyAdvises aloof _) fun comment => ?_
    split
    · split
      · exact (onlyLogs_log _ _ _ _).onlyAdvises
      · exact (onlyLogs_pure _).onlyAdvises
    · exact (onlyLogs_pure _).onlyAdvises

/-- Up to where it turns to the agent a handler comes to the same, and from there on its event is
handled or fails. -/
theorem handler_contained (height : Height) (ordinal : Number) (kind : Event.Kind)
    (content : kind.Content) :
    (handler height ordinal kind content : Call (World others) Unit).Alike Note.unadvised? Contained
      (handler height ordinal kind content) := by
  cases kind with
  | grant =>
      have unadvised : (onGrant content height : Call (World others) Unit).Unadvised
          Note.unadvised? := onGrant_keeps parts_unadvised _ trivial trivial
      exact unadvised.mono fun _ _ => contained_of_agree
  | discussion => exact onDiscussion_contained aloof content height ordinal
  | proposal =>
      refine .andThen (fun _ => .inl rfl) (record_unadvised _) fun stored => ?_
      split
      · exact (closed_unadvised.fail _).mono fun _ _ => contained_of_agree
      · exact storeProposal_contained aloof content height
  | settlement =>
      have unadvised : (onSettlement content height : Call (World others) Unit).Unadvised
          Note.unadvised? := onSettlement_keeps parts_unadvised _ trivial fun _ => trivial
      exact unadvised.mono fun _ _ => contained_of_agree

theorem handle_contained (kind : Event.Kind) (event : Event) (height : Height) (ordinal : Number) :
    (handle kind event height ordinal : Call (World others) Outcome).Alike Note.unadvised? Contained
      (handle kind event height ordinal) := by
  unfold handle
  split
  · next content _ =>
    intro world world' same
    have handled := handler_contained aloof height ordinal kind content same
    -- What is returned in the end is the same, so only the faults are still to be compared.
    have returned : ∀ world : World others, ((handler height ordinal kind content >>= fun _ =>
        Pure.pure Outcome.handled) world : Completion (World others) Outcome) =
          { handler height ordinal kind content world with
            result := (handler height ordinal kind content world).result.map fun _ => .handled } := by
      intro world
      cases ended : (handler height ordinal kind content world).result with
      | error fault => rw [bind_of_error ended, Except.map]
      | ok value =>
          rw [bind_of_ok ended]
          simp [Pure.pure, Call.done, Except.map]
    have told : ∀ {result : Except Fault Unit}, IsTold result →
        IsTold (result.map fun _ => Outcome.handled) := by
      intro result told
      cases result with
      | error fault => exact told
      | ok value => trivial
    rw [returned world, returned world']
    refine ⟨?_, handled.state, handled.seen, handled.interrupted⟩
    obtain equal | ⟨first, second⟩ := handled.result
    · exact .inl (congrArg (Except.map fun _ => Outcome.handled) equal)
    · exact .inr ⟨told first, told second⟩
  · refine Alike.mono (closed_unadvised.bind (parts_unadvised.log _ _ _ _) fun _ =>
      closed_unadvised.pure _) fun _ _ => contained_of_agree

theorem outcomeOf_alike (tag : String) (event : Event) (height : Height) (ordinal : Number) :
    (outcomeOf tag event height ordinal : Call (World others) Outcome).Alike Note.unadvised?
      (Agree fun _ _ => True) (outcomeOf tag event height ordinal) := by
  unfold outcomeOf
  split
  · exact .pure trivial
  · next kind _ =>
    refine .bind .faults (handle_contained aloof kind event height ordinal).attempt ?_
    rintro result result' (rfl | ⟨told, told'⟩)
    · cases result with
      | ok outcome => exact .pure trivial
      | error fault =>
          refine Alike.mono (closed_unadvised.bind (closed_unadvised.ofExcept _) fun cause => ?_)
            fun _ _ agree => agree.mono fun _ _ _ => trivial
          exact closed_unadvised.bind (parts_unadvised.log _ _ _ _) fun _ => closed_unadvised.pure _
    · refine OnlyLogs.alike (fun _ => Note.unadvised?_of_outside) ?_ ?_
      · cases result with
        | ok outcome => exact onlyLogs_pure _
        | error fault =>
            exact .message_bind told fun _ => (onlyLogs_log _ _ _ _).bind fun _ => onlyLogs_pure _
      · cases result' with
        | ok outcome => exact onlyLogs_pure _
        | error fault =>
            exact .message_bind told' fun _ => (onlyLogs_log _ _ _ _).bind fun _ => onlyLogs_pure _

/-- An event is dispatched either way, unless the ledger keeps it from being so. -/
theorem dispatch_alike (tag : String) (event : Event) (height : Height) (ordinal : Number) :
    (dispatch tag event height ordinal : Call (World others) Outcome).Alike Note.unadvised?
      (Agree fun _ _ => True) (dispatch tag event height ordinal) := by
  refine .bind .faults (outcomeOf_alike aloof tag event height ordinal).attempt ?_
  rintro result result' agree
  refine .bind .faults (.note rfl) fun _ _ _ => ?_
  exact fun _ _ same => ⟨agree, same, rfl, rfl⟩

theorem dispatchAll_alike (height : Height) (events : List Event) (ordinal : Nat) :
    (Loop.dispatchAll height events ordinal : Call (World others) Nat).Alike Note.unadvised?
      (Agree fun _ _ => True) (Loop.dispatchAll height events ordinal) := by
  induction events generalizing ordinal with
  | nil => exact .pure trivial
  | cons event rest ih =>
      refine .bind .faults (dispatch_alike aloof _ event height _) fun _ _ _ => ?_
      exact .bind .faults (ih (ordinal + 1)) fun _ _ _ => .pure trivial

end Aloof

end World

/-!
## Whole sessions
-/

namespace Loop

section Speaking

variable (aloof : others.agent.Aloof) (speaks : others.agent.Speaks)

include aloof speaks

theorem session_unadvised (options : FollowOptions) (acts : List Act) (loop : Loop) :
    (session options acts loop : Call (World others) (List Reply × Loop)).Unadvised Note.own? :=
  session_keeps (World.around_unadvised options) (fun _ => World.ask_unadvised _)
    (World.dispatch_unadvised aloof speaks) World.reconcile_unadvised
    (fun _ => World.record_unadvised _) World.reconnected_unadvised acts loop

end Speaking

section Aloof

variable (aloof : others.agent.Aloof)

include aloof

/-- How many events were handled is only told to the log. -/
theorem process_unadvised (options : FollowOptions) (height : Height) :
    (process options height : Call (World others) Unit).Unadvised Note.unadvised? := by
  refine .andThen .faults (World.ask_unadvised _) fun results => ?_
  refine .bind .faults (World.dispatchAll_alike aloof height _ 0) fun handled handled' _ => ?_
  refine .bind .faults (World.reconcile_unadvised height) fun votes _ same => ?_
  subst same
  refine .bind .faults (World.record_unadvised (.saveProgress _ _)) fun _ _ _ => ?_
  refine OnlyLogs.same (fun _ => Note.unadvised?_of_outside) ?_ ?_
  all_goals
    split
    · exact onlyLogs_log _ _ _ _
    · exact onlyLogs_log _ _ _ _

end Aloof

end Loop

/-- Two replies are the same, or those of two dispatches that came to some outcome. -/
inductive Reply.Alike : Reply → Reply → Prop where
  | same (reply : Reply) : Reply.Alike reply reply
  | outcomes (outcome outcome' : Outcome) :
      Reply.Alike (.dispatched (.ok outcome)) (.dispatched (.ok outcome'))

namespace Loop

variable (aloof : others.agent.Aloof)

include aloof

theorem perform_alike (options : FollowOptions) (loop : Loop) (act : Act) :
    (loop.perform options act : Call (World others) (Reply × Loop)).Alike Note.unadvised?
      (Agree fun done done' => Reply.Alike done.1 done'.1 ∧ done.2 = done'.2)
      (loop.perform options act) := by
  by_cases dispatching : ∃ tag event height ordinal, act = .dispatch tag event height ordinal
  · obtain ⟨tag, event, height, ordinal, rfl⟩ := dispatching
    have heeded : (loop.heed (World.dispatch tag event height ordinal) :
        Call (World others) (Except Fault Outcome × Loop)).Alike Note.unadvised?
          (Agree fun done done' => Agree (fun _ _ => True) done.1 done'.1 ∧ done.2 = done'.2)
          (loop.heed (World.dispatch tag event height ordinal)) := by
      refine .bind .faults (World.dispatch_alike aloof tag event height ordinal).watch ?_
      rintro ⟨result, interrupted⟩ ⟨result', interrupted'⟩ ⟨agree, rfl⟩
      exact .pure ⟨agree, rfl⟩
    refine .bind .faults heeded ?_
    rintro ⟨result, loop⟩ ⟨result', loop'⟩ ⟨agree, rfl⟩
    refine .pure ⟨?_, rfl⟩
    cases agree with
    | values => exact .outcomes _ _
    | faults fault => exact .same _
  · have unadvised : (loop.perform options act : Call (World others) (Reply × Loop)).Unadvised
        Note.unadvised? :=
      perform_keeps (World.around_unadvised options) (process_unadvised aloof options)
        World.reconcile_unadvised World.reconnected_unadvised loop act
        fun tag event height ordinal same => (dispatching ⟨tag, event, height, ordinal, same⟩).elim
    refine unadvised.mono fun _ _ agree => agree.mono fun done _ same => ?_
    exact same ▸ ⟨.same done.1, rfl⟩

theorem session_alike (options : FollowOptions) (acts : List Act) (loop : Loop) :
    (session options acts loop : Call (World others) (List Reply × Loop)).Alike Note.unadvised?
      (Agree fun done done' => List.Forall₂ Reply.Alike done.1 done'.1 ∧ done.2 = done'.2)
      (session options acts loop) := by
  induction acts generalizing loop with
  | nil => exact .pure ⟨.nil, rfl⟩
  | cons act rest ih =>
      refine .bind .faults (perform_alike aloof options loop act) ?_
      rintro ⟨reply, loop⟩ ⟨reply', loop'⟩ ⟨alike, rfl⟩
      refine .bind .faults (ih loop) ?_
      rintro ⟨replies, loop⟩ ⟨replies', loop'⟩ ⟨others, rfl⟩
      exact .pure ⟨.cons alike others, rfl⟩

end Loop

/-!
## Two agents
-/

/-- Two agents as one, whose state tells which of the two is in force and what its state is. -/
def Advice.Agent.either {σ σ' : Type} (agent : Advice.Agent σ) (agent' : Advice.Agent σ') :
    Advice.Agent (σ ⊕ σ') := fun request advisor =>
  match advisor with
  | .inl state =>
      let done := agent request state
      { result := done.result
        state := .inl done.state
        trace := done.trace
        interrupted := done.interrupted }
  | .inr state =>
      let done := agent' request state
      { result := done.result
        state := .inr done.state
        trace := done.trace
        interrupted := done.interrupted }

namespace Advice.Agent

variable {σ σ' : Type} {agent : Advice.Agent σ} {agent' : Advice.Agent σ'}

theorem Aloof.either (aloof : agent.Aloof) (aloof' : agent'.Aloof) : (agent.either agent').Aloof where
  quiet request := by
    intro advisor result trace final ending
    cases advisor with
    | inl state => exact ending.trace_eq ▸ aloof.quiet request ((agent request).ends state)
    | inr state => exact ending.trace_eq ▸ aloof'.quiet request ((agent' request).ends state)
  patient request advisor := by
    cases advisor with
    | inl state => exact aloof.patient request state
    | inr state => exact aloof'.patient request state

theorem Speaks.either (speaks : agent.Speaks) (speaks' : agent'.Speaks) :
    (agent.either agent').Speaks := by
  intro request advisor
  cases advisor with
  | inl state => exact speaks request state
  | inr state => exact speaks' request state

end Advice.Agent

@[reducible]
def Collaborators.advisedBy {σ : Type} (others : Collaborators) (agent : Advice.Agent σ) :
    Collaborators :=
  { others with Agent := σ, agent }

theorem Collaborators.Discreet.advisedBy {σ : Type} {agent : Advice.Agent σ}
    (discreet : others.Discreet) (aloof : agent.Aloof) : (others.advisedBy agent).Discreet :=
  { discreet with agent := aloof.quiet }

namespace Loop

/-- What two sessions in two worlds have in common. -/
structure SideBySide (world world' : World others)
    (result result' : Except Fault (List Reply × Loop)) (trace trace' : Trace)
    (final final' : World others) (tables : others.Store → Ledger.Tables) : Prop where
  /-- What came of every round and of all else but dispatches, and what the loop has come to. -/
  replies : Agree (fun done done' => List.Forall₂ Reply.Alike done.1 done'.1 ∧ done.2 = done'.2)
    result result'
  left : final.SameButAgent final'
  /-- What the node was asked and answered, what the ledger was asked and what was dispatched, in
  order. -/
  unadvised : trace.unadvised = trace'.unadvised
  replayed : tables final.store = (tables world.store).replay trace.operations
  /-- To every moment of the one there is a moment of the other at which the tables are the same. -/
  moments : ∀ before after, trace = before ++ after →
    ∃ before' after', trace' = before' ++ after' ∧ before.unadvised = before'.unadvised ∧
      (tables world.store).replay before.operations = (tables world'.store).replay before'.operations

variable {tables : others.Store → Ledger.Tables} {σ σ' : Type} {agent : Advice.Agent σ}
  {agent' : Advice.Agent σ'}

/-- Whoever of two agents advises the indexer, and whether it answers or fails, the index is the same
at every moment of a session. Unless one of them raises something without words, the outcomes of
dispatches are the same as well, and the agent is asked the same. -/
theorem session_whoever_advises (discreet : others.Discreet) (kept : others.books.KeptIn tables)
    (aloof : agent.Aloof) (aloof' : agent'.Aloof) {options : FollowOptions} {acts : List Act}
    {loop : Loop} {world world' final final' : World (others.advisedBy (agent.either agent'))}
    {result result' : Except Fault (List Reply × Loop)} {trace trace' : Trace}
    (same : world.SameButAgent world')
    (ending : (session options acts loop).Ends world result trace final)
    (ending' : (session options acts loop).Ends world' result' trace' final') :
    SideBySide world world' result result' trace trace' final final' tables ∧
      (agent.Speaks → agent'.Speaks → result = result' ∧ trace.own = trace'.own) := by
  have alike := session_alike (aloof.either aloof') options acts loop same
  have unadvised : trace.unadvised = trace'.unadvised := by
    rw [← ending.trace_eq, ← ending'.trace_eq]
    exact alike.seen
  refine ⟨?_, fun speaks speaks' => ?_⟩
  · constructor
    case replies =>
      rw [← ending.result_eq, ← ending'.result_eq]
      exact alike.result
    case left =>
      rw [← ending.state_eq, ← ending'.state_eq]
      exact alike.state
    case unadvised => exact unadvised
    case replayed =>
      exact session_replays (discreet.advisedBy (aloof.either aloof')) kept options acts loop ending
    case moments =>
      rintro before after rfl
      have whole := unadvised.symm
      rw [Trace.unadvised, Trace.unadvised, List.filterMap_append] at whole
      -- What the indexer noted up to the moment marks the moment in the other run.
      obtain ⟨before', after', rfl, same', _⟩ := List.filterMap_eq_append_iff.mp whole
      refine ⟨before', after', rfl, same'.symm, ?_⟩
      rw [← Trace.operations_unadvised before, ← Trace.operations_unadvised before', same.store]
      exact congrArg (Ledger.Tables.replay _ <| Trace.operations ·) same'.symm
  · have spoken := session_unadvised (aloof.either aloof') (speaks.either speaks') options acts loop
      same
    rw [← ending.trace_eq, ← ending'.trace_eq, ← ending.result_eq, ← ending'.result_eq]
    exact ⟨spoken.result.eq, spoken.seen⟩

end Loop

namespace Advice

/-- An agent that ends whatever it is asked in a fault. -/
def failing (fault : Fault) : Advice.Agent Unit :=
  fun _ => Call.fail fault

theorem aloof_consenting : consenting.Aloof where
  quiet request := by cases request <;> exact Noting.pure _
  patient request state := by cases request <;> rfl

theorem aloof_failing (fault : Fault) : (failing fault).Aloof where
  quiet _ := Noting.fail fault
  patient _ _ := rfl

theorem speaks_consenting : consenting.Speaks := by
  intro request state
  cases request <;> trivial

theorem speaks_failing {fault : Fault} (worded : fault.words? ≠ none) : (failing fault).Speaks :=
  fun _ _ => worded

end Advice

namespace Loop

/-- A world whose one block makes a proposal, with an agent that either consents or fails. -/
def advisedWorld (fault : Fault) (advisor : Unit ⊕ Unit) :
    World (Collaborators.inMemory.advisedBy (Advice.consenting.either (Advice.failing fault))) :=
  let world := World.inMemory { head := .ofNat 2, blocks := [Chain.blockOf 1 [.making "7"]] } {}
  { chain := world.chain, store := world.store, agent := advisor, clock := world.clock }

def unavailable : Fault := .advice "submitProposal" "down" []

theorem session_whoever_advises_in_advisedWorld :
    ∃ result trace final result' trace' final',
      (session (optionsFrom 1) [.tick] {}).Ends (advisedWorld unavailable (.inl ())) result trace
        final ∧
      (session (optionsFrom 1) [.tick] {}).Ends (advisedWorld unavailable (.inr ())) result' trace'
        final' ∧
      SideBySide (advisedWorld unavailable (.inl ())) (advisedWorld unavailable (.inr ())) result
        result' trace trace' final final' Ledger.Refusing.ledger ∧
      result = result' ∧ trace.own = trace'.own ∧
      trace.consultations.map Advice.Request.operation = ["submitProposal", "requestComment"] ∧
      trace'.lines.length = trace.lines.length + 2 := by
  have ending := (session (optionsFrom 1) [.tick] {}).ends (advisedWorld unavailable (.inl ()))
  have ending' := (session (optionsFrom 1) [.tick] {}).ends (advisedWorld unavailable (.inr ()))
  have same : (advisedWorld unavailable (.inl ())).SameButAgent
      (advisedWorld unavailable (.inr ())) := ⟨rfl, rfl, rfl⟩
  obtain ⟨sides, spoken⟩ := session_whoever_advises Collaborators.discreet_inMemory
    Collaborators.keptIn_inMemory Advice.aloof_consenting (Advice.aloof_failing unavailable) same
    ending ending'
  obtain ⟨replies, own⟩ :=
    spoken Advice.speaks_consenting (Advice.speaks_failing fun silent => nomatch silent)
  exact ⟨_, _, _, _, _, _, ending, ending', sides, replies, own, by decide +kernel, by decide +kernel⟩

/-- An agent that fails without words over a proposal is not asked for a comment on it. -/
theorem not_whoever_advises_asked_alike :
    ¬ ∀ (fault : Fault) (acts : List Act),
      (session (optionsFrom 1) acts {} (advisedWorld fault (.inl ()))).trace.own =
        (session (optionsFrom 1) acts {} (advisedWorld fault (.inr ()))).trace.own := by
  intro alike
  have asked := congrArg (Trace.consultations · |>.length) (alike .unspeakable [.tick])
  revert asked
  decide +kernel

end Loop

end RollCall
