import RollCall.Proofs.Steps

/-!
# How dispatches end

A dispatch comes to an outcome, except where its handler ends in a fault without words. A handler's own
faults have words, and so has what is left of a fault of the agent: so this is right after the ledger
refused the handler an operation with such a fault.
-/

set_option autoImplicit false

namespace RollCall.World

open Call

variable {others : Collaborators} {height : Height}

/-!
## Faults of handlers
-/

/-- An operation ends in a fault where the ledger ends it in that fault. -/
theorem record_fails {operation : Ledger.Operation} {world final : World others} {fault : Fault}
    {trace : Trace} (ending : (record operation).Ends world (.error fault) trace final) :
    ∃ noted, (others.books operation).Ends world.store (.error fault) noted final.store ∧
      trace = noted ++ [.recorded operation false] := by
  obtain ⟨result, middle, noted, rest, recorded, noting, rfl⟩ := ends_attempt_bind.mp ending
  obtain ⟨store, refused, rfl⟩ := ends_inside.mp recorded
  obtain ⟨_, concluded, rfl⟩ := ends_note_bind.mp noting
  obtain ⟨rfl, rfl, rfl⟩ := ends_ofExcept.mp concluded
  exact ⟨noted, refused, rfl⟩

/-- From a world on, all that happens up to the final one is that the ledger ends an operation of a
handler in a fault. -/
def RefusesHandler (height : Height) (world : World others) (fault : Fault) (trace : Trace)
    (final : World others) : Prop :=
  ∃ operation noted, operation.IsHandlersAt height ∧
    (others.books operation).Ends world.store (.error fault) noted final.store ∧
    trace = noted ++ [.recorded operation false]

/-- The ledger is to blame for a fault of a handler that has no words. -/
def Silenced (height : Height) (world : World others) (fault : Fault) (trace : Trace)
    (final : World others) : Prop :=
  fault.words? = none → RefusesHandler height world fault trace final

section Handlers

variable {R : World others → Trace → World others → Prop} (chaining : Chaining R)
  (steps : Steps (Keeping R) (fun _ => True) (fun _ => True) (fun _ => True))

include chaining in
theorem own_silenced {fault : Fault} {words : String} (worded : fault.words? = some words) :
    Blames R (Silenced height) (Call.fail fault : Call (World others) Unit) :=
  .direct chaining (Keeps.fail chaining fault) fun _ _ _ _ ending silent => by
    cases (ends_fail.mp ending).1
    rw [worded] at silent
    cases silent

include steps in
theorem log_silenced (level : Log.Level) (source : Log.Source) (message : String)
    (facts : Option Members) : Blames R (Silenced height) (Call.log level source message facts) :=
  .note (steps.note _ trivial)

include chaining steps

theorem record_silenced {operation : Ledger.Operation} (handlers : operation.IsHandlersAt height) :
    Blames R (Silenced height) (record operation) := by
  refine .direct chaining (steps.record _ trivial) fun world fault trace final ending _ => ?_
  obtain ⟨noted, refused, whole⟩ := record_fails ending
  exact ⟨operation, noted, handlers, refused, whole⟩

/-- Whatever the agent raises, what comes of it can be told. -/
theorem advise_silenced (request : Advice.Request) :
    Blames R (Silenced height) (advise request) := by
  have kept : Keeps R (advise request) := advise_keeps steps (fun _ => trivial) request
  refine .direct chaining kept fun world fault trace final ending silent => ?_
  obtain ⟨_, _, _, _, -, more, -⟩ := ends_attempt_bind.mp ending
  split at more
  · cases (ends_pure.mp more).1
  · obtain ⟨-, same, -⟩ | ⟨_, -, logging⟩ := ends_message_bind.mp more
    · cases same
      cases silent
    · obtain ⟨_, returned, -⟩ := ends_log_bind.mp logging
      cases (ends_pure.mp returned).1

theorem onGrant_silenced (event : Event.Grant) :
    Blames R (Silenced height) (onGrant event height) := by
  refine .bind chaining (record_silenced chaining steps rfl) fun _ => ?_
  refine .bind chaining (record_silenced chaining steps trivial) fun _ => ?_
  exact log_silenced steps _ _ _ _

theorem onDiscussion_silenced (event : Event.Discussion) (ordinal : Number) :
    Blames R (Silenced height) (onDiscussion event height ordinal) := by
  refine .bind chaining (record_silenced chaining steps rfl) fun stored => ?_
  cases stored with
  | some id => exact log_silenced steps _ _ _ _
  | none =>
      refine .bind chaining (record_silenced chaining steps rfl) fun id => ?_
      refine .bind chaining (log_silenced steps _ _ _ _) fun _ => ?_
      exact .bind chaining (advise_silenced chaining steps _) fun _ => .pure chaining _

theorem storeProposal_silenced (event : Event.Proposal) :
    Blames R (Silenced height) (storeProposal event height) := by
  refine .bind chaining (record_silenced chaining steps trivial) fun _ => ?_
  refine .bind chaining (log_silenced steps _ _ _ _) fun _ => ?_
  refine .bind chaining (advise_silenced chaining steps _) fun _ => ?_
  refine .bind chaining (advise_silenced chaining steps _) fun comment => ?_
  cases comment with
  | none => exact .pure chaining _
  | some comment =>
      dsimp only
      split
      · exact log_silenced steps _ _ _ _
      · exact .pure chaining _

theorem onProposal_silenced (event : Event.Proposal) :
    Blames R (Silenced height) (onProposal event height) := by
  refine .bind chaining (record_silenced chaining steps trivial) fun stored => ?_
  split
  · exact own_silenced chaining rfl
  · exact storeProposal_silenced chaining steps event

theorem onSettlement_silenced (event : Event.Settlement) :
    Blames R (Silenced height) (onSettlement event height) := by
  refine .bind chaining (record_silenced chaining steps trivial) fun stored => ?_
  cases stored with
  | none => exact own_silenced chaining rfl
  | some proposal =>
      dsimp only
      split
      · exact own_silenced chaining rfl
      · refine .bind chaining (record_silenced chaining steps trivial) fun _ => ?_
        exact log_silenced steps _ _ _ _

theorem handler_silenced (ordinal : Number) (kind : Event.Kind) (content : kind.Content) :
    Blames R (Silenced height) (handler height ordinal kind content) := by
  cases kind with
  | grant => exact onGrant_silenced chaining steps _
  | discussion => exact onDiscussion_silenced chaining steps _ _
  | proposal => exact onProposal_silenced chaining steps _
  | settlement => exact onSettlement_silenced chaining steps _

omit chaining steps in
theorem chaining_any : Chaining fun (_ : World others) _ (_ : World others) => True :=
  ⟨fun _ => trivial, fun _ _ => trivial⟩

omit chaining steps in
theorem steps_any : Steps (Keeping fun (_ : World others) _ (_ : World others) => True)
    (fun _ => True) (fun _ => True) (fun _ => True) where
  closed := closed_keeping chaining_any
  record _ _ _ _ _ _ _ := trivial
  ask _ _ _ _ _ _ _ := trivial
  consult _ _ _ _ _ _ := trivial
  note _ _ _ _ _ _ _ := trivial

omit chaining steps in
/-- A handler that ends in a fault without words was refused an operation. -/
theorem handler_refused {ordinal : Number} {kind : Event.Kind} {content : kind.Content}
    {world final : World others} {fault : Fault} {trace : Trace}
    (ending : (handler height ordinal kind content).Ends world (.error fault) trace final)
    (silent : fault.words? = none) :
    ∃ operation, operation.IsHandlersAt height ∧ .recorded operation false ∈ trace := by
  obtain ⟨_, _, _, rfl, -, blamed⟩ :=
    (handler_silenced chaining_any steps_any _ _ _).blamed ending
  obtain ⟨operation, noted, handlers, -, rfl⟩ := blamed silent
  exact ⟨operation, handlers, by simp⟩

end Handlers

/-!
## One event
-/

theorem tag_of_named {tag : String} {kind : Event.Kind} (named : Event.Kind.named? tag = some kind) :
    tag = kind.name := by
  have same := List.find?_some named
  exact (beq_iff_eq.mp same).symm

variable {world final : World others} {trace : Trace}

/-- What dispatching an event comes to before its outcome is noted. There is no outcome where the
handler ends in a fault without words. -/
inductive Dispatched (tag : String) (event : Event) (height : Height) (ordinal : Number)
    (world : World others) : Except Fault Outcome → Trace → World others → Prop where
  | ignored (unnamed : Event.Kind.named? tag = none) :
      Dispatched tag event height ordinal world (.ok .ignored) [] world
  | skipped {kind : Event.Kind} (line : Log.Line) (named : Event.Kind.named? tag = some kind)
      (malformed : event.decode? kind = none) :
      Dispatched tag event height ordinal world (.ok .skipped) [.logged line] world
  | handled {kind : Event.Kind} {content : kind.Content} {trace : Trace} {final : World others}
      (named : Event.Kind.named? tag = some kind) (decoded : event.decode? kind = some content)
      (done : (handler height ordinal kind content).Ends world (.ok ()) trace final) :
      Dispatched tag event height ordinal world (.ok .handled) trace final
  | failed {kind : Event.Kind} {content : kind.Content} {trace : Trace} {final : World others}
      {fault : Fault} {words : String} {line : Log.Line} (named : Event.Kind.named? tag = some kind)
      (decoded : event.decode? kind = some content)
      (failed : (handler height ordinal kind content).Ends world (.error fault) trace final)
      (worded : fault.words? = some words) (told : line.level = .error) :
      Dispatched tag event height ordinal world (.ok .failed) (trace ++ [.logged line]) final
  | silenced {kind : Event.Kind} {content : kind.Content} {trace : Trace} {final : World others}
      {fault : Fault} (named : Event.Kind.named? tag = some kind)
      (decoded : event.decode? kind = some content)
      (failed : (handler height ordinal kind content).Ends world (.error fault) trace final)
      (wordless : fault.words? = none) :
      Dispatched tag event height ordinal world (.error .wordless) trace final

private theorem outcomeOf_cases {tag : String} {event : Event} {ordinal : Number}
    {result : Except Fault Outcome}
    (ending : (outcomeOf tag event height ordinal).Ends world result trace final) :
    Dispatched tag event height ordinal world result trace final := by
  unfold outcomeOf at ending
  cases named : Event.Kind.named? tag with
  | none =>
      rw [named] at ending
      obtain ⟨rfl, rfl, rfl⟩ := ends_pure.mp ending
      exact .ignored named
  | some kind =>
      rw [named] at ending
      obtain ⟨inner, middle, first, second, came, continued, rfl⟩ := ends_attempt_bind.mp ending
      unfold handle at came
      cases decoded : event.decode? kind with
      | none =>
          rw [decoded] at came
          obtain ⟨rest, returned, rfl⟩ := ends_log_bind.mp came
          obtain ⟨rfl, rfl, rfl⟩ := ends_pure.mp returned
          obtain ⟨rfl, rfl, rfl⟩ := ends_pure.mp continued
          exact .skipped _ named decoded
      | some content =>
          rw [decoded] at came
          rcases ends_bind.mp came with ⟨fault, rfl, failed⟩ | ⟨_, _, _, _, done, returned, rfl⟩
          · obtain ⟨wordless, rfl, rfl, rfl⟩ | ⟨words, worded, logging⟩ :=
              ends_message_bind.mp continued
            · rw [List.append_nil]
              exact .silenced named decoded failed wordless
            · obtain ⟨rest, returned, rfl⟩ := ends_log_bind.mp logging
              obtain ⟨rfl, rfl, rfl⟩ := ends_pure.mp returned
              exact .failed named decoded failed worded rfl
          · obtain ⟨rfl, rfl, rfl⟩ := ends_pure.mp returned
            obtain ⟨rfl, rfl, rfl⟩ := ends_pure.mp continued
            rw [List.append_nil, List.append_nil]
            exact .handled named decoded done

/-- The outcome of a dispatch, if there is one, is noted last. -/
theorem dispatch_cases {tag : String} {event : Event} {ordinal : Number}
    {result : Except Fault Outcome}
    (ending : (dispatch tag event height ordinal).Ends world result trace final) :
    ∃ first, Dispatched tag event height ordinal world result first final ∧
      trace = first ++ [.dispatched tag height ordinal event result.toOption] := by
  obtain ⟨outcome, middle, first, second, came, noting, rfl⟩ := ends_attempt_bind.mp ending
  obtain ⟨rest, returned, rfl⟩ := ends_note_bind.mp noting
  obtain ⟨rfl, rfl, rfl⟩ := ends_ofExcept.mp returned
  exact ⟨first, outcomeOf_cases came, rfl⟩

/-- A dispatch fails in one way only. -/
theorem Dispatched.wordless {tag : String} {event : Event} {ordinal : Number} {fault : Fault}
    (dispatched : Dispatched tag event height ordinal world (.error fault) trace final) :
    fault = .wordless := by
  cases dispatched
  rfl

theorem Dispatched.keeps {R : World others → Trace → World others → Prop} (chaining : Chaining R)
    (log : ∀ line world, R world [.logged line] world) {tag : String} {event : Event}
    {ordinal : Number} {result : Except Fault Outcome}
    (handlers : ∀ kind content, Event.Kind.named? tag = some kind →
      event.decode? kind = some content → Keeps R (handler height ordinal kind content))
    (dispatched : Dispatched tag event height ordinal world result trace final) :
    R world trace final := by
  cases dispatched with
  | ignored => exact chaining.refl _
  | skipped line => exact log line _
  | handled named decoded done => exact handlers _ _ named decoded done
  | failed named decoded failed _ _ =>
      exact chaining.trans (handlers _ _ named decoded failed) (log _ _)
  | silenced named decoded failed _ => exact handlers _ _ named decoded failed

/-- What the dispatch of an event comes to that is handed to a handler, by how the handler ends. -/
inductive Handed (handling : Call (World others) Unit) (world : World others) :
    Except Fault Outcome → Trace → World others → Prop where
  | handled {trace : Trace} {final : World others} (done : handling.Ends world (.ok ()) trace final) :
      Handed handling world (.ok .handled) trace final
  | failed {fault : Fault} {words : String} {line : Log.Line} {trace : Trace} {final : World others}
      (failed : handling.Ends world (.error fault) trace final)
      (worded : fault.words? = some words) :
      Handed handling world (.ok .failed) (trace ++ [.logged line]) final
  | silenced {fault : Fault} {trace : Trace} {final : World others}
      (failed : handling.Ends world (.error fault) trace final) (wordless : fault.words? = none) :
      Handed handling world (.error .wordless) trace final

/-- A typed event is handed to the handler of its kind. -/
theorem Dispatched.of_typed {tag : String} {event : Event} {ordinal : Number}
    {result : Except Fault Outcome} {kind : Event.Kind} {content : kind.Content}
    (named : Event.Kind.named? tag = some kind) (decoded : event.decode? kind = some content)
    (dispatched : Dispatched tag event height ordinal world result trace final) :
    Handed (handler height ordinal kind content) world result trace final := by
  cases dispatched with
  | ignored unnamed =>
      rw [unnamed] at named
      cases named
  | skipped line named' malformed =>
      cases Option.some_inj.mp (named'.symm.trans named)
      rw [malformed] at decoded
      cases decoded
  | handled named' decoded' done =>
      cases Option.some_inj.mp (named'.symm.trans named)
      cases Option.some_inj.mp (decoded'.symm.trans decoded)
      exact .handled done
  | failed named' decoded' failed worded _ =>
      cases Option.some_inj.mp (named'.symm.trans named)
      cases Option.some_inj.mp (decoded'.symm.trans decoded)
      exact .failed failed worded
  | silenced named' decoded' failed wordless =>
      cases Option.some_inj.mp (named'.symm.trans named)
      cases Option.some_inj.mp (decoded'.symm.trans decoded)
      exact .silenced failed wordless

/-!
## All events of a block
-/

/-- The first event of a block is dispatched, and then the others are, unless its dispatch ends in a
fault. -/
theorem dispatchAll_cons_ends {event : Event} {events : List Event} {ordinal : Nat}
    {world final : World others} {result : Except Fault Nat} {trace : Trace}
    (ending : (Loop.dispatchAll height (event :: events) ordinal).Ends world result trace final) :
    (result = .error .wordless ∧
      (dispatch event.type event height (.ofNat ordinal)).Ends world (.error .wordless) trace final) ∨
    ∃ outcome counted middle first rest,
      (dispatch event.type event height (.ofNat ordinal)).Ends world (.ok outcome) first middle ∧
      (Loop.dispatchAll height events (ordinal + 1)).Ends middle counted rest final ∧
      result = counted.map (fun handled => if outcome = .handled then handled + 1 else handled) ∧
      trace = first ++ rest := by
  obtain ⟨_, rfl, failed⟩ | ⟨outcome, middle, first, _, done, more, rfl⟩ := ends_bind.mp ending
  · obtain ⟨_, dispatched, _⟩ := dispatch_cases failed
    obtain rfl := dispatched.wordless
    exact .inl ⟨rfl, failed⟩
  refine .inr ⟨outcome, ?_⟩
  obtain ⟨fault, rfl, failed⟩ | ⟨handled, _, rest, _, remaining, returned, rfl⟩ := ends_bind.mp more
  · exact ⟨_, middle, first, _, done, failed, rfl, rfl⟩
  · obtain ⟨rfl, rfl, rfl⟩ := ends_pure.mp returned
    exact ⟨_, middle, first, rest, done, remaining, rfl, by rw [List.append_nil]⟩

/-!
## Who is to blame
-/

/-- From a world on, all that happens up to the final one is that the ledger ends an operation of a
handler in a fault without words, and that the dispatch of the event ends without an outcome. -/
def Unspoken (height : Height) (world : World others) (fault : Fault) (trace : Trace)
    (final : World others) : Prop :=
  fault = .wordless ∧ ∃ cause refusal tag ordinal event, cause.words? = none ∧
    RefusesHandler height world cause refusal final ∧
    trace = refusal ++ [.dispatched tag height ordinal event none]

variable {R : World others → Trace → World others → Prop} (chaining : Chaining R)
  (steps : Steps (Keeping R) (fun _ => True) (fun _ => True) (fun _ => True))

include chaining steps

theorem dispatch_unspoken (tag : String) (event : Event) (ordinal : Number) :
    Blames R (Unspoken height) (dispatch tag event height ordinal) where
  kept := dispatch_keeps steps (fun _ => trivial) (fun _ _ => trivial) tag event ordinal
    fun _ => trivial
  blamed world fault trace final ending := by
    obtain ⟨first, dispatched, rfl⟩ := dispatch_cases ending
    cases dispatched with
    | silenced _ _ failed silent =>
        obtain ⟨before, middle, refusal, rfl, held, blamed⟩ :=
          (handler_silenced chaining steps _ _ _).blamed failed
        exact ⟨before, middle, _, List.append_assoc .., held, rfl, _, refusal, tag, ordinal, event,
          silent, blamed silent, rfl⟩

theorem dispatchAll_unspoken (events : List Event) (ordinal : Nat) :
    Blames R (Unspoken height) (Loop.dispatchAll height events ordinal) := by
  induction events generalizing ordinal with
  | nil => exact .pure chaining _
  | cons event rest ih =>
      refine .bind chaining (dispatch_unspoken chaining steps _ event _) fun outcome => ?_
      exact .bind chaining (ih (ordinal + 1)) fun _ => .pure chaining _

omit chaining steps in
/-- The events of a block are all dispatched, unless the ledger refuses a handler something without a
word. -/
theorem dispatchAll_fails {events : List Event} {ordinal : Nat} {world final : World others}
    {fault : Fault} {trace : Trace}
    (ending : (Loop.dispatchAll height events ordinal).Ends world (.error fault) trace final) :
    ∃ before middle last, trace = before ++ last ∧ Unspoken height middle fault last final := by
  obtain ⟨before, middle, last, rfl, -, blamed⟩ :=
    (dispatchAll_unspoken chaining_any steps_any events ordinal).blamed ending
  exact ⟨before, middle, last, rfl, blamed⟩

end RollCall.World
