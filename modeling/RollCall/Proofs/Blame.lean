import RollCall.Proofs.Clients
import RollCall.Proofs.Dispatching
import RollCall.Proofs.Runs

/-!
# Who is to blame for a halt

A round ends where it meets a fault. If no further round can clear the fault, or there are no words
for it, it is not one that the loop makes up: the node ended a call in it, or the ledger an operation
that no handler asks for, and nothing else was done in the round after that. What is raised while an
event is handled ends with the event, or as a fault that has words and that a round can clear.
-/

set_option autoImplicit false

namespace RollCall

open Call

/-!
## Faults that others raise
-/

namespace Chain.Connection

variable {ν χ : Type} {provider : Provider ν χ} {connection final : Connection ν χ} {trace : Trace}
  {fault : Fault}

/-- Asking ends in a fault because there is no client, because there are no words for what went wrong
with a client, or in the fault that a client ends in. -/
theorem ask_fails {question : Question}
    (ending : (ask provider question).Ends connection (.error fault) trace final) :
    fault.isTransport ∨ fault = .wordless ∨
      ∃ state done before noted after,
        (provider.ask question).Ends state (.error fault) noted done ∧
          trace = before ++ .asked question :: noted ++ after := by
  obtain ⟨_, same, refused⟩ | ⟨place, bound, first, _, begun, rest, rfl⟩ := ends_bind.mp ending
  · cases same
    cases begin_ends refused with
    | unavailable => exact .inl rfl
    | broken ensured => exact .inr (.inl ensured.silenced.1)
  obtain ⟨outcome, middle, second, third, ran, finished, rfl⟩ := ends_attempt_bind.mp rest
  obtain ⟨noted, called, rfl⟩ := ends_note_bind.mp ran
  obtain rfl | same := (finish_ends finished).result_eq
  · obtain ⟨-, same, -⟩ | ⟨client, done, -, answered, -⟩ := byClient_ends called
    · cases same
      exact .inl rfl
    · exact .inr (.inr ⟨_, done, first, noted, third, answered, by simp⟩)
  · exact .inr (.inl (Except.error.inj same))

end Chain.Connection

/-- Whether the indexer asks the ledger for an operation outside the handlers of events. -/
def Ledger.Operation.IsOutside (options : FollowOptions) (operation : Ledger.Operation) : Prop :=
  operation = .progress options.progressId ∨
    ∃ height, operation.IsLookupAt height ∨ operation.IsCastingAt height ∨
      operation = .saveProgress options.progressId height

/-- No handler asks for such an operation. -/
theorem Ledger.Operation.IsOutside.not_handlers {options : FollowOptions}
    {operation : Ledger.Operation} (outside : operation.IsOutside options) (height : Height) :
    ¬ operation.IsHandlersAt height := by
  obtain rfl | ⟨_, lookup | casting | rfl⟩ := outside
  · exact id
  · cases operation <;> first | exact id | exact lookup.elim
  · cases operation <;> first | exact id | exact casting.elim
  · exact id

namespace World

variable {others : Collaborators} {options : FollowOptions}

/-- From a world on, all that happens up to the final one is that a collaborator ends in a fault: the
ledger in an operation outside the handlers, or a client of the node in a question. -/
inductive Raised (options : FollowOptions) (world : World others) (fault : Fault) (trace : Trace)
    (final : World others) : Prop
  | ledger {operation : Ledger.Operation} {noted : Trace} (outside : operation.IsOutside options)
      (raised : (others.books operation).Ends world.store (.error fault) noted final.store)
      (whole : trace = noted ++ [.recorded operation false])
  | node {question : Chain.Question} {state done : others.Node × others.Client}
      {before noted after : Trace}
      (raised : (others.provider.ask question).Ends state (.error fault) noted done)
      (whole : trace = before ++ .asked question :: noted ++ after)

/-- Someone else is to blame for a fault that no further round can clear, or that has no words. -/
def Blamed (options : FollowOptions) (world : World others) (fault : Fault) (trace : Trace)
    (final : World others) : Prop :=
  fault.isPermanent ∨ fault.words? = none → Raised options world fault trace final

theorem Blamed.own {fault : Fault} {words : String} (clears : fault.isPermanent = false)
    (worded : fault.words? = some words) (world : World others) (trace : Trace)
    (final : World others) : Blamed options world fault trace final := by
  rintro (permanent | silent)
  · rw [clears] at permanent
    cases permanent
  · rw [worded] at silent
    cases silent

theorem Blamed.of_isTransport {fault : Fault} (transport : fault.isTransport) (world : World others)
    (trace : Trace) (final : World others) : Blamed options world fault trace final := by
  cases fault with
  | transport => exact .own rfl rfl world trace final
  | _ => cases transport

theorem accountOf_blames {address : String} {reply : Chain.QueryReply} {fault : Fault}
    (failed : accountOf address reply = .error fault) (world : World others) (trace : Trace)
    (final : World others) : Blamed options world fault trace final := by
  unfold accountOf at failed
  split at failed
  · unfold Account.read at failed
    split at failed
    · cases failed
      exact .own rfl rfl world trace final
    · split at failed <;> cases failed
      exact .own rfl rfl world trace final
  · cases failed
    exact .own rfl rfl world trace final

variable {R : World others → Trace → World others → Prop} (chaining : Chaining R)
  (steps : Steps (Keeping R) (fun _ => True) (fun _ => True) (fun _ => True)) {height : Height}

section Parts

include steps in
theorem log_blames (level : Log.Level) (source : Log.Source) (message : String)
    (facts : Option Members) : Blames R (Blamed options) (Call.log level source message facts) :=
  .note (steps.note _ trivial)

include chaining steps

theorem record_blames {operation : Ledger.Operation} (outside : operation.IsOutside options) :
    Blames R (Blamed options) (record operation) := by
  refine .direct chaining (steps.record _ trivial) fun world fault trace final ending _ => ?_
  obtain ⟨noted, raised, whole⟩ := record_fails ending
  exact .ledger outside raised whole

theorem ask_blames (question : Chain.Question) : Blames R (Blamed options) (ask question) := by
  refine .direct chaining (steps.ask _ trivial) fun world fault trace final ending => ?_
  obtain ⟨_, same, failed⟩ | ⟨_, _, _, _, -, continued, -⟩ := ends_bind.mp ending
  · cases same
    obtain ⟨_, asked, rfl⟩ := ends_inside.mp failed
    obtain transport | rfl | ⟨state, done, _, _, _, raised, whole⟩ :=
      Chain.Connection.ask_fails asked
    · exact .of_isTransport transport _ _ _
    · exact .own rfl rfl _ _ _
    · exact fun _ => .node raised whole
  · obtain ⟨_, returned, -⟩ := ends_note_bind.mp continued
    cases (ends_pure.mp returned).1

theorem target_blames : Blames R (Blamed options) (target? height : Call (World others) _) := by
  have lookup {operation : Ledger.Operation} (asked : operation.IsLookupAt height) :
      Blames R (Blamed options) (record operation : Call (World others) _) :=
    record_blames chaining steps (.inr ⟨height, .inl asked⟩)
  refine .bind chaining (lookup rfl) fun created => ?_
  cases created with
  | some proposal => exact .pure chaining _
  | none =>
      refine .bind chaining (lookup rfl) fun settled => ?_
      cases settled with
      | some proposal => exact .pure chaining _
      | none => exact .bind chaining (lookup rfl) fun _ => .pure chaining _

theorem resolve_blames (address : String) :
    Blames R (Blamed options) (resolve address : Call (World others) _) := by
  unfold resolve
  split
  · refine .direct chaining (Keeps.fail chaining _) fun world fault trace final ending => ?_
    cases (ends_fail.mp ending).1
    exact .own rfl rfl world trace final
  · refine .bind chaining (ask_blames chaining steps _) fun reply => ?_
    exact .ofExcept chaining fun fault failed world => accountOf_blames failed world [] world

theorem signers_blames (signatures : List Chain.Signature) :
    Blames R (Blamed options) (signers signatures : Call (World others) _) := by
  induction signatures with
  | nil => exact .pure chaining _
  | cons signature rest ih =>
      refine .bind chaining (resolve_blames chaining steps _) fun account => ?_
      exact .bind chaining ih fun _ => .pure chaining _

section Casting

variable (target : Target)

theorem casting_blames {operation : Ledger.Operation} (asked : operation.IsCastingAt height) :
    Blames R (Blamed options) (record operation) :=
  record_blames chaining steps (.inr ⟨height, .inr (.inl asked)⟩)

theorem hasVote_blames (signer : Signer) :
    Blames R (Blamed options) (hasVote target height signer : Call (World others) _) := by
  cases target with
  | created => exact casting_blames chaining steps rfl
  | settled => exact casting_blames chaining steps rfl
  | granted => exact casting_blames chaining steps rfl

theorem storeVote_blames (signer : Signer) :
    Blames R (Blamed options) (storeVote target height signer : Call (World others) _) := by
  cases target with
  | created => exact .bind chaining (casting_blames chaining steps rfl) fun _ => .pure chaining _
  | settled => exact .bind chaining (casting_blames chaining steps rfl) fun _ => .pure chaining _
  | granted => exact .bind chaining (casting_blames chaining steps rfl) fun _ => .pure chaining _

theorem storeVotes_blames (signers : List Signer) :
    Blames R (Blamed options) (storeVotes target height signers : Call (World others) _) := by
  induction signers with
  | nil => exact .pure chaining _
  | cons signer rest ih =>
      refine .bind chaining (hasVote_blames chaining steps target signer) fun has => ?_
      split
      · exact ih
      · refine .bind chaining (storeVote_blames chaining steps target signer) fun _ => ?_
        exact .bind chaining ih fun _ => .pure chaining _

theorem reconcileTarget_blames :
    Blames R (Blamed options) (reconcileTarget target height : Call (World others) _) := by
  refine .bind chaining (ask_blames chaining steps _) fun commit => ?_
  refine .bind chaining (signers_blames chaining steps _) fun signers => ?_
  refine .bind chaining (storeVotes_blames chaining steps target signers) fun inserted => ?_
  exact .bind chaining (log_blames steps _ _ _ _) fun _ => .pure chaining _

end Casting

theorem reconcile_blames :
    Blames R (Blamed options) (reconcile height : Call (World others) _) := by
  have ending (reconciliation : Reconciliation) : Blames R (Blamed options) (do
      Call.note (.reconciled height)
      return reconciliation : Call (World others) _) :=
    .bind chaining (.note (steps.note _ trivial)) fun _ => .pure chaining _
  refine .bind chaining (target_blames chaining steps) fun target => ?_
  cases target with
  | none => exact ending _
  | some target => exact .bind chaining (reconcileTarget_blames chaining steps target) ending

end Parts

end World

/-!
## Faults of a height
-/

namespace Loop

open World

variable {others : Collaborators} {options : FollowOptions}
  {R : World others → Trace → World others → Prop} (chaining : Chaining R)
  (steps : Steps (Keeping R) (fun _ => True) (fun _ => True) (fun _ => True)) {height : Height}

include chaining steps

/-- Where the events of a height are not all dispatched, it is for a fault that has words and that a
round can clear. -/
theorem dispatchAll_blames (events : List Event) :
    Blames R (Blamed options) (dispatchAll height events 0 : Call (World others) Nat) where
  kept := (dispatchAll_unspoken chaining steps events 0).kept
  blamed world fault trace final ending := by
    obtain ⟨before, middle, last, whole, held, rfl, -⟩ :=
      (dispatchAll_unspoken chaining steps events 0).blamed ending
    exact ⟨before, middle, last, whole, held, .own rfl rfl middle last final⟩

/-- A height fails in a fault that no further round can clear, or that has no words, only where
someone else raised it, and never because of an event. -/
theorem process_blames :
    Blames R (Blamed options) (process options height : Call (World others) Unit) := by
  refine .bind chaining (ask_blames chaining steps _) fun results => ?_
  refine .bind chaining (dispatchAll_blames chaining steps _) fun handled => ?_
  refine .bind chaining (reconcile_blames chaining steps) fun votes => ?_
  refine .bind chaining (record_blames chaining steps (.inr ⟨height, .inr (.inr rfl)⟩))
    fun _ => ?_
  split
  · exact log_blames steps _ _ _ _
  · exact log_blames steps _ _ _ _

theorem resumePoint_blames :
    Blames R (Blamed options) (resumePoint options : Call (World others) Height) := by
  refine .bind chaining (record_blames chaining steps (.inl rfl)) fun last => ?_
  exact .bind chaining (log_blames steps _ _ _ _) fun _ => .pure chaining _

/-!
## Faults of a round
-/

omit chaining steps

variable {world middle final : World others} {trace : Trace} {loop loop' : Loop}
  {report : Except Fault Summary}

/-- From a world on, all that happens up to the final one is that a collaborator raises what there
are no words for: the ledger or a client, or one that was to make the connection ready. -/
inductive Speechless (options : FollowOptions) (world : World others) (trace : Trace)
    (final : World others) : Prop
  | raised {fault : Fault} (silent : fault.words? = none)
      (raised : Raised options world fault trace final)
  | disconnected (broken : World.connect.Ends world (.error .wordless) trace final)
      (silenced : world.chain.IsSilenced others.provider)

/-- How a round ends: without a fault that no further round can clear, right after one was raised, or
without a summary, right after there were no words for what was raised. -/
inductive Ended (options : FollowOptions) (R : World others → Trace → World others → Prop)
    (world : World others) (trace : Trace) (final : World others) (loop : Loop) (loop' : Loop) :
    Except Fault Summary → Prop
  | clear {summary : Summary} (clears : summary.permanent = false)
      (same : loop'.haltedBy = loop.haltedBy) :
      Ended options R world trace final loop loop' (.ok summary)
  | halted {summary : Summary} {fault : Fault} {before last : Trace} {line : Log.Line}
      {middle : World others} (permanent : fault.isPermanent) (told : summary.permanent = true)
      (halted : loop'.haltedBy = some fault) (whole : trace = before ++ last ++ [.logged line])
      (held : R world before middle) (raised : Raised options middle fault last final) :
      Ended options R world trace final loop loop' (.ok summary)
  | silenced {before last : Trace} {middle : World others} (same : loop'.haltedBy = loop.haltedBy)
      (whole : trace = before ++ last) (held : R world before middle)
      (speechless : Speechless options middle last final) :
      Ended options R world trace final loop loop' (.error .wordless)

include chaining in
theorem Ended.after {first : Trace} {earlier : Loop}
    (ended : Ended options R middle trace final loop loop' report) (held : R world first middle)
    (same : loop.haltedBy = earlier.haltedBy) :
    Ended options R world (first ++ trace) final earlier loop' report := by
  cases ended with
  | clear clears same' => exact .clear clears (same'.trans same)
  | @halted summary fault before last line there permanent told halted whole held' raised =>
      have whole' : first ++ trace = first ++ before ++ last ++ [.logged line] := by
        simp [whole, List.append_assoc]
      exact .halted permanent told halted whole' (chaining.trans held held') raised
  | @silenced before last there same' whole held' speechless =>
      have whole' : first ++ trace = first ++ before ++ last := by
        simp [whole, List.append_assoc]
      exact .silenced (same'.trans same) whole' (chaining.trans held held') speechless

theorem ended_of_failed {α : Type} {call : Call (World others) α} {first : Trace} {processed : Nat}
    {head : Option Height} {height : Height} {fault : Fault}
    (blames : Blames R (Blamed options) call)
    (called : call.Ends world (.error fault) first middle)
    (failing : (loop.failed processed head height fault).Ends middle (.ok (report, loop')) trace
      final) : Ended options R world (first ++ trace) final loop loop' report := by
  obtain ⟨before, there, last, rfl, held, blamed⟩ := blames.blamed called
  obtain ⟨_, _, same, failed, reports, rfl⟩ := failed_cases failing
  cases same
  cases failed with
  | halted permanent told =>
      cases reports
      exact .halted permanent told rfl rfl held (blamed (.inl permanent))
  | clear clears told => exact .clear told rfl
  | silent silent =>
      cases reports
      have raised := blamed (.inr silent)
      exact .silenced rfl (List.append_nil _) held (.raised silent raised)

variable (between : Between options R)

include between steps

theorem catchUp_ended {head height : Height} {left processed : Nat}
    (ending : (catchUp options head left height processed loop).Ends world (.ok (report, loop'))
      trace final) : Ended options R world trace final loop loop' report := by
  have chaining := between.chaining
  have done {height : Height} {processed : Nat} {world : World others} {loop : Loop} {trace : Trace}
      (ending : (catchUp.ended head height processed loop : Call (World others) _).Ends world
        (.ok (report, loop')) trace final) : Ended options R world trace final loop loop' report := by
    cases (ends_pure.mp ending).1
    exact .clear rfl rfl
  -- Whatever a height left before its fault comes before the last part that is to blame.
  induction left generalizing height processed loop world trace with
  | zero => exact done ending
  | succ left ih =>
      have blames : Blames R (Blamed options) (process options height) :=
        process_blames chaining steps
      cases catchUp_cases ending with
      | ended _ ended => exact done ended
      | paused _ _ wait _ ended => exact (done ended).after chaining (between.wait _ wait) rfl
      | failed _ _ wait _ pass failing =>
          exact (ended_of_failed blames pass failing).after chaining (between.wait _ wait) rfl
      | onward _ _ wait _ pass onward =>
          have rest := (ih onward).after chaining (blames.kept pass) rfl
          exact rest.after chaining (between.wait _ wait) rfl

theorem round_ended {height : Height}
    (ending : (round options loop height).Ends world (.ok (report, loop')) trace final) :
    Ended options R world trace final loop loop' report := by
  have chaining := between.chaining
  have blames : Blames R (Blamed options) (ask .status) := ask_blames chaining steps .status
  cases round_cases ending with
  | stopped _ same =>
      cases same
      exact .clear rfl rfl
  | broken _ connect same =>
      cases same
      obtain ⟨chain, broken, rfl⟩ := ends_inside.mp connect
      obtain ⟨rfl, silenced⟩ := (Chain.Connection.ensure_ends broken).silenced
      exact .silenced rfl (List.nil_append _).symm (chaining.refl world)
        (.disconnected connect silenced)
  | unconnected _ connect failing =>
      obtain ⟨_, _, same, failed, -, rfl⟩ := failed_cases failing
      cases same
      cases failed with
      | halted impossible => cases impossible
      | clear _ told => exact Ended.after chaining (.clear told rfl) (between.connect connect) rfl
      | silent impossible => cases impossible
  | unheard _ connect ask failing =>
      exact (ended_of_failed blames ask failing).after chaining (between.connect connect) rfl
  | opened _ connect ask onward =>
      have rest := (catchUp_ended steps between onward).after chaining (blames.kept ask) rfl
      exact rest.after chaining (between.connect connect) rfl

theorem tick_ended
    (ending : (loop.tick options).Ends world (.ok (report, loop')) trace final) :
    Ended options R world trace final loop loop' report := by
  have chaining := between.chaining
  have blames : Blames R (Blamed options) (resumePoint options) :=
    resumePoint_blames chaining steps
  cases tick_cases ending with
  | known _ going => exact round_ended steps between going
  | resumed _ resume going =>
      obtain ⟨_, read, same⟩ := resume_cases resume
      cases same
      exact (round_ended steps between going).after chaining (blames.kept read) rfl
  | unresumed _ resume failing =>
      obtain ⟨_, read, same⟩ := resume_cases resume
      cases same
      exact (ended_of_failed blames read failing).after chaining (chaining.refl _) rfl

end Loop

end RollCall
