import RollCall.Proofs.Dispatching
import RollCall.Proofs.Grammar
import RollCall.Proofs.InMemory

/-!
# Inert events

An event of no kind, or not of the form of its kind, is inert: dispatching it asks no one for
anything and leaves the world as it is. So inert events can be taken out of a block. As long as the
others keep their places, each of them comes to what it came to before, and so does all that is
stored and said for them.
-/

set_option autoImplicit false

namespace RollCall

open Call

/-!
## What is done and what is only remarked
-/

/-- Whether a note is a remark on what happens: a log line, or the outcome of an event. -/
def Note.isRemark : Note → Bool
  | .logged _ => true
  | .dispatched .. => true
  | _ => false

/-- What is done, as noted: all but remarks. -/
def Trace.deeds (trace : Trace) : Trace :=
  trace.filter fun note => !note.isRemark

@[simp] theorem Trace.deeds_append (first second : Trace) :
    Trace.deeds (first ++ second) = first.deeds ++ second.deeds :=
  List.filter_append ..

@[simp] theorem Trace.deeds_nil : Trace.deeds [] = [] := rfl

theorem Event.Kind.named?_eq_none_iff {tag : String} :
    named? tag = none ↔ ∀ kind : Event.Kind, tag ≠ kind.name := by
  constructor
  · intro unnamed kind same
    rw [named?_iff.mpr same] at unnamed
    cases unnamed
  · intro unnamed
    cases named : named? tag with
    | none => rfl
    | some kind => exact (unnamed kind (named?_iff.mp named)).elim

namespace World

variable {others : Collaborators} {height : Height}

/-!
## One event
-/

section Event

variable {event : Event} {ordinal : Number} {world final : World others}
  {result : Except Fault Outcome} {trace : Trace}

/-- An event is ignored if it is of no kind, and skipped if it is not of the form of its kind. -/
theorem Dispatched.passed_over
    (dispatched : Dispatched event.type event height ordinal world result trace final) :
    (result = .ok .ignored ↔ Event.Kind.named? event.type = none) ∧
      (result = .ok .skipped ↔ Event.Kind.named? event.type ≠ none ∧ event.typed? = none) := by
  cases dispatched with
  | ignored unnamed => simp [unnamed]
  | skipped line named malformed => simp [Event.typed?, named, malformed]
  | handled named decoded done => simp [Event.typed?, named, decoded]
  | failed named decoded failed worded told => simp [Event.typed?, named, decoded]
  | silenced named decoded failed silent => simp [Event.typed?, named, decoded]

theorem Dispatched.of_inert (inert : event.typed? = none)
    (dispatched : Dispatched event.type event height ordinal world result trace final) :
    final = world ∧ trace.deeds = [] := by
  cases dispatched with
  | ignored unnamed => exact ⟨rfl, rfl⟩
  | skipped line named malformed => exact ⟨rfl, rfl⟩
  | handled named decoded done => simp [Event.typed?, named, decoded] at inert
  | failed named decoded failed worded told => simp [Event.typed?, named, decoded] at inert
  | silenced named decoded failed silent => simp [Event.typed?, named, decoded] at inert

/-- Nothing is done for an inert event. -/
theorem dispatch_inert (inert : event.typed? = none)
    (ending : (dispatch event.type event height ordinal).Ends world result trace final) :
    final = world ∧ trace.deeds = [] := by
  obtain ⟨first, dispatched, rfl⟩ := dispatch_cases ending
  obtain ⟨same, nothing⟩ := dispatched.of_inert inert
  refine ⟨same, ?_⟩
  rw [Trace.deeds_append, nothing]
  rfl

end Event

/-!
## Events with their places
-/

/-- Dispatches events, each with its place in the block and whatever becomes of the others, and says
what became of each. -/
def dispatchEach (height : Height) :
    List (Event × Number) → Call (World others) (List (Except Fault Outcome))
  | [] => return []
  | (event, ordinal) :: rest => do
      let outcome ← (dispatch event.type event height ordinal).attempt
      let outcomes ← dispatchEach height rest
      return outcome :: outcomes

theorem dispatchEach_cons {event : Event} {ordinal : Number} {events : List (Event × Number)}
    {world middle final : World others} {outcome : Except Fault Outcome}
    {outcomes : List (Except Fault Outcome)} {first second : Trace}
    (done : (dispatch event.type event height ordinal).Ends world outcome first middle)
    (more : (dispatchEach height events).Ends middle (.ok outcomes) second final) :
    (dispatchEach height ((event, ordinal) :: events)).Ends world (.ok (outcome :: outcomes))
      (first ++ second) final := by
  refine ends_attempt_bind.mpr ⟨outcome, middle, first, second, done, ?_, rfl⟩
  refine ends_bind_ok.mpr ⟨outcomes, final, second, [], more, ?_, (List.append_nil _).symm⟩
  exact ends_pure.mpr ⟨rfl, rfl, rfl⟩

/-- Whether an entry stays when the inert ones that `removed` tells of are taken out. -/
def spared (removed : Event × Number → Bool) (entry : Event × Number) : Bool :=
  entry.1.typed?.isSome || !removed entry

theorem inert_of_not_spared {removed : Event × Number → Bool} {entry : Event × Number}
    (gone : ¬ spared removed entry) : entry.1.typed? = none := by
  cases typed : entry.1.typed? with
  | none => rfl
  | some event => simp [spared, typed] at gone

/-- What two lists of events come to of which one is the other without some inert events. -/
structure Unaffected (height : Height) (removed : Event × Number → Bool)
    (events : List (Event × Number)) (world final : World others)
    (outcomes fewer : List (Except Fault Outcome)) (trace rest : Trace) : Prop where
  all : (dispatchEach height events).Ends world (.ok outcomes) trace final
  one_each : outcomes.length = events.length
  left : (dispatchEach height (events.filter (spared removed))).Ends world (.ok fewer) rest final
  same_outcomes : (events.filter (spared removed)).zip fewer =
    (events.zip outcomes).filter fun row => spared removed row.1
  same_deeds : rest.deeds = trace.deeds

/-- By induction on the events: an inert one ends in the world in which it began, and this is where
the others begin without it. -/
theorem dispatchEach_unaffected (height : Height) (removed : Event × Number → Bool)
    (events : List (Event × Number)) (world : World others) :
    ∃ outcomes fewer trace rest final,
      Unaffected height removed events world final outcomes fewer trace rest := by
  induction events generalizing world with
  | nil =>
      refine ⟨[], [], [], [], world, ?_, rfl, ?_, rfl, rfl⟩
      · exact ends_pure.mpr ⟨rfl, rfl, rfl⟩
      · exact ends_pure.mpr ⟨rfl, rfl, rfl⟩
  | cons entry events ih =>
      obtain ⟨event, ordinal⟩ := entry
      have done := Call.ends (dispatch event.type event height ordinal) world
      generalize (dispatch event.type event height ordinal world).result = outcome,
        (dispatch event.type event height ordinal world).trace = first,
        (dispatch event.type event height ordinal world).state = middle at done
      obtain ⟨outcomes, fewer, trace, rest, final, unaffected⟩ := ih middle
      have all := dispatchEach_cons done unaffected.all
      have one_each : (outcome :: outcomes).length = ((event, ordinal) :: events).length := by
        rw [List.length_cons, List.length_cons, unaffected.one_each]
      by_cases stays : spared removed (event, ordinal)
      · refine ⟨outcome :: outcomes, outcome :: fewer, first ++ trace, first ++ rest, final, all,
          one_each, ?_, ?_, ?_⟩
        · rw [List.filter_cons_of_pos stays]
          exact dispatchEach_cons done unaffected.left
        · simp [stays, unaffected.same_outcomes]
        · rw [Trace.deeds_append, Trace.deeds_append, unaffected.same_deeds]
      · obtain ⟨rfl, nothing⟩ := dispatch_inert (inert_of_not_spared stays) done
        refine ⟨outcome :: outcomes, fewer, first ++ trace, rest, final, all, one_each, ?_, ?_, ?_⟩
        · rw [List.filter_cons_of_neg stays]
          exact unaffected.left
        · simp [stays, unaffected.same_outcomes]
        · rw [Trace.deeds_append, nothing, List.nil_append, unaffected.same_deeds]

/-- The events of a block from some place on. -/
def numbered (events : List Event) (ordinal : Nat) : List (Event × Number) :=
  (events.zipIdx ordinal).map fun (event, place) => (event, .ofNat place)

/-- How far the loop goes through a block, and what it comes to: to the end of the block, where it
counts the events handled, or to the first event whose dispatch fails. -/
inductive Looped (events : List Event) :
    List Event → List (Except Fault Outcome) → Except Fault Nat → Prop where
  | whole (outcomes : List Outcome) :
      Looped events events (outcomes.map .ok) (.ok (outcomes.count .handled))
  | broken {reached : List Event} (outcomes : List Outcome) (part : reached <+: events) :
      Looped events reached (outcomes.map .ok ++ [.error .wordless]) (.error .wordless)

theorem Looped.cons {event : Event} {events reached : List Event} {outcome : Outcome}
    {outcomes : List (Except Fault Outcome)} {counted : Except Fault Nat}
    (looped : Looped events reached outcomes counted) :
    Looped (event :: events) (event :: reached) (.ok outcome :: outcomes)
      (counted.map fun handled => if outcome = .handled then handled + 1 else handled) := by
  cases looped with
  | whole outcomes =>
      have counts : (if outcome = .handled then outcomes.count .handled + 1
          else outcomes.count .handled) = (outcome :: outcomes).count .handled := by
        rw [List.count_cons]
        split <;> simp_all
      rw [Except.map, counts]
      exact .whole (outcome :: outcomes)
  | broken outcomes part =>
      exact .broken (outcome :: outcomes) (List.cons_prefix_cons.mpr ⟨rfl, part⟩)

/-- The loop dispatches the events of a block with their places. -/
theorem dispatchAll_each (height : Height) (events : List Event) (ordinal : Nat)
    (world : World others) : ∃ reached outcomes counted trace final,
      Looped events reached outcomes counted ∧
        (dispatchEach height (numbered reached ordinal)).Ends world (.ok outcomes) trace final ∧
        (Loop.dispatchAll height events ordinal).Ends world counted trace final := by
  induction events generalizing ordinal world with
  | nil =>
      refine ⟨[], [], .ok 0, [], world, .whole [], ?_, ?_⟩
      · exact ends_pure.mpr ⟨rfl, rfl, rfl⟩
      · exact ends_pure.mpr ⟨rfl, rfl, rfl⟩
  | cons event events ih =>
      have done := Call.ends (dispatch event.type event height (.ofNat ordinal)) world
      cases came : (dispatch event.type event height (.ofNat ordinal) world).result with
      | error fault =>
          rw [came] at done
          obtain ⟨_, dispatched, -⟩ := dispatch_cases done
          obtain rfl := dispatched.wordless
          have nothing (world : World others) :
              (dispatchEach height []).Ends world (.ok []) [] world := ends_pure.mpr ⟨rfl, rfl, rfl⟩
          have alone := dispatchEach_cons done (nothing _)
          rw [List.append_nil] at alone
          refine ⟨[event], _, _, _, _, .broken [] (List.prefix_append [event] events), alone, ?_⟩
          exact ends_bind.mpr (.inl ⟨_, rfl, done⟩)
      | ok outcome =>
          rw [came] at done
          obtain ⟨reached, outcomes, counted, trace, final, looped, each, all⟩ :=
            ih (ordinal + 1) (dispatch event.type event height (.ofNat ordinal) world).state
          refine ⟨event :: reached, _, _, _, final, looped.cons, dispatchEach_cons done each, ?_⟩
          refine ends_bind.mpr (.inr ⟨outcome, _, _, trace, done, ?_, rfl⟩)
          cases counted with
          | error fault => exact ends_bind.mpr (.inl ⟨fault, rfl, all⟩)
          | ok handled =>
              refine ends_bind_ok.mpr ⟨handled, final, trace, [], all, ?_, (List.append_nil _).symm⟩
              exact ends_pure.mpr ⟨rfl, rfl, rfl⟩

/-- Dispatching fails only where the ledger refuses a handler something without a word. An event is
ignored exactly if its type is not the name of a kind and skipped exactly if it is but the event cannot
be read as one of that kind, and nothing is done for either. So of a list of events with their places,
and hence of a block, any inert ones can be taken out: the others come to the same, in the same final
world and by the same deeds. -/
theorem inert_events_change_nothing (others : Collaborators) (height : Height) :
    (∀ (tag : String) (event : Event) (ordinal : Number) (world final : World others)
      (fault : Fault) (trace : Trace),
      (dispatch tag event height ordinal).Ends world (.error fault) trace final →
        ∃ before middle last, trace = before ++ last ∧ Unspoken height middle fault last final) ∧
    (∀ (event : Event) (ordinal : Number) (world : World others), ∃ result trace final,
      (dispatch event.type event height ordinal).Ends world result trace final ∧
        (result = .ok .ignored ↔ ∀ kind : Event.Kind, event.type ≠ kind.name) ∧
        (result = .ok .skipped ↔
          (∃ kind : Event.Kind, event.type = kind.name) ∧ event.typed? = none) ∧
        (result = .ok .ignored ∨ result = .ok .skipped → final = world ∧ trace.deeds = [])) ∧
    (∀ (removed : Event × Number → Bool) (events : List (Event × Number)) (world : World others),
      ∃ outcomes fewer trace rest final,
        Unaffected height removed events world final outcomes fewer trace rest) ∧
    ∀ (events : List Event) (ordinal : Nat) (world : World others),
      ∃ reached outcomes counted trace final,
        Looped events reached outcomes counted ∧
          (dispatchEach height (numbered reached ordinal)).Ends world (.ok outcomes) trace final ∧
          (Loop.dispatchAll height events ordinal).Ends world counted trace final := by
  refine ⟨?_, ?_, ?_, ?_⟩
  · intro tag event ordinal world final fault trace ending
    obtain ⟨before, middle, last, rfl, -, blamed⟩ :=
      (dispatch_unspoken chaining_any steps_any tag event ordinal).blamed ending
    exact ⟨before, middle, last, rfl, blamed⟩
  · intro event ordinal world
    have ending := Call.ends (dispatch event.type event height ordinal) world
    obtain ⟨first, dispatched, _⟩ := dispatch_cases ending
    obtain ⟨ignored, skipped⟩ := dispatched.passed_over
    refine ⟨_, _, _, ending, ?_, ?_, ?_⟩
    · rw [ignored, Event.Kind.named?_eq_none_iff]
    · rw [skipped, Ne, Event.Kind.named?_eq_none_iff]
      simp
    · rintro (passed | passed)
      · apply dispatch_inert _ ending
        simp [Event.typed?, ignored.mp passed]
      · exact dispatch_inert (skipped.mp passed).2 ending
  · intro removed events world
    exact dispatchEach_unaffected height removed events world
  · intro events ordinal world
    exact dispatchAll_each height events ordinal world

/-- A ledger that refuses a grant without a word makes dispatching it fail. -/
theorem not_dispatch_always_succeeds :
    ¬ ∀ (tag : String) (event : Event) (height : Height) (ordinal : Number)
        (world : World Collaborators.inMemory),
      ∃ outcome, (dispatch tag event height ordinal world).result = .ok outcome := by
  intro succeeds
  obtain ⟨_, impossible⟩ := succeeds "grant" (.granting "9") (.ofNat 1) (.ofNat 0)
    (World.inMemory {} {} [("upsertGrant", [.unspeakable])])
  have fails : (dispatch "grant" (.granting "9") (.ofNat 1) (.ofNat 0)
      (World.inMemory {} {} [("upsertGrant", [.unspeakable])])).result.isOk = false := by
    decide +kernel
  rw [impossible] at fails
  cases fails

end World

end RollCall
