import RollCall.Proofs.Handling
import RollCall.Proofs.Saving

/-!
# Operations and the tables that they meet

What the ledger is asked for is chosen by what was looked up before. A relation between tables and
operations is followed along a trace: each operation that is asked for, done or refused, stands in it
to the tables which the operations done before have left. An invariant of tables that such operations
keep then holds wherever the trace is broken off.
-/

set_option autoImplicit false

namespace RollCall

open Call Ledger

variable {P : Tables → Operation → Prop} {start : Tables} {trace more : Trace}

namespace Trace

theorem Everywhere.left {Q : Trace → Note → Prop} (all : Trace.Everywhere (trace ++ more) Q) :
    trace.Everywhere Q := by
  rintro before note after rfl
  exact all before note (after ++ more) (by simp)

theorem Everywhere.mono {Q R : Trace → Note → Prop} (all : trace.Everywhere Q)
    (weaker : ∀ before note, Q before note → R before note) : trace.Everywhere R :=
  fun before note after split => weaker before note (all before note after split)

/-- Every operation that is asked for stands in a relation to the tables it meets. -/
def Along (P : Tables → Operation → Prop) (start : Tables) (trace : Trace) : Prop :=
  trace.Everywhere fun before note => ∀ operation succeeded,
    note = .recorded operation succeeded → P (start.replay before.operations) operation

theorem along_of_unrecorded (unrecorded : ∀ operation succeeded, .recorded operation succeeded ∉ trace) :
    trace.Along P start := by
  refine everywhere_of_forall fun note member before operation succeeded same => ?_
  exact (unrecorded operation succeeded (same ▸ member)).elim

theorem along_singleton {operation : Operation} {succeeded : Bool} (holds : P start operation) :
    Along P start [.recorded operation succeeded] := by
  refine everywhere_singleton fun other _ same => ?_
  cases same
  exact holds

theorem Along.left (along : Trace.Along P start (trace ++ more)) : trace.Along P start :=
  Everywhere.left along

theorem Along.append (first : trace.Along P start)
    (second : more.Along P (start.replay trace.operations)) : Along P start (trace ++ more) := by
  refine Everywhere.append first (second.mono fun before note holds operation succeeded same => ?_)
  rw [operations_append, Tables.replay_append]
  exact holds operation succeeded same

/-- An invariant that the operations keep holds in the end. -/
theorem Along.holds {Inv : Tables → Prop} (along : trace.Along P start) (begins : Inv start)
    (kept : ∀ tables operation, Inv tables → P tables operation → Inv (tables.perform operation).2) :
    Inv (start.replay trace.operations) := by
  induction trace using List.reverseRecOn with
  | nil => exact begins
  | append_singleton trace last ih =>
      have before := ih (Along.left along)
      have met := along trace last [] rfl
      rw [operations_append, Tables.replay_append]
      cases last with
      | recorded operation succeeded =>
          cases succeeded with
          | false => exact before
          | true => exact kept _ operation before (met operation true rfl)
      | _ => exact before

end Trace

/-- The tables come to what the ledger was asked to do and did, and all that it was asked for stands in
a relation to the tables it met. -/
def Performs {others : Collaborators} (P : Tables → Operation → Prop)
    (tables : others.Store → Tables) (world : World others) (trace : Trace) (final : World others) :
    Prop :=
  Replays tables world trace final ∧ trace.Along P (tables world.store)

namespace World

variable {others : Collaborators} {tables : others.Store → Tables} {world final : World others}

theorem performs_chaining :
    Chaining (Performs P tables : World others → Trace → World others → Prop) where
  refl _ := ⟨rfl, Trace.along_of_unrecorded (by simp)⟩
  trans first second :=
    ⟨replays_chaining.trans first.1 second.1, first.2.append (first.1 ▸ second.2)⟩

theorem performs_of_unrecorded (same : tables final.store = tables world.store)
    (unrecorded : ∀ operation succeeded, .recorded operation succeeded ∉ trace) :
    Performs P tables world trace final :=
  ⟨replays_of_undone same fun _ member _ done => unrecorded _ _ (done ▸ member),
    Trace.along_of_unrecorded unrecorded⟩

theorem unrecorded_of_quiet (quiet : ∀ note ∈ trace, note.isOutside) :
    ∀ operation succeeded, .recorded operation succeeded ∉ trace := by
  intro operation succeeded member
  cases quiet _ member

/-- Only what the ledger is asked for matters to a relation that holds where it is asked for nothing. -/
theorem steps_of_unrecorded (discreet : others.Discreet)
    {R : World others → Trace → World others → Prop} (chaining : Chaining R)
    {operations : Operation → Prop}
    (recorded : ∀ operation, operations operation → Keeps R (record operation))
    (unrecorded : ∀ {world trace final}, final.store = world.store →
      (∀ operation succeeded, .recorded operation succeeded ∉ trace) → R world trace final) :
    Steps (Keeping R) operations (fun _ => True)
      (fun note => ∀ operation succeeded, note ≠ .recorded operation succeeded) where
  closed := closed_keeping chaining
  record := recorded
  ask := by
    intro question _ world result trace final ending
    obtain ⟨same, asking, noted, answered⟩ := ask_ends discreet ending
    have none : ∀ operation succeeded, .recorded operation succeeded ∉ asking := by
      intro operation succeeded member
      rcases noted _ member with outside | impossible
      · cases outside
      · cases impossible
    obtain ⟨answer, _, rfl⟩ | ⟨_, rfl⟩ := answered
    · refine unrecorded same fun operation succeeded member => ?_
      rcases List.mem_append.mp member with earlier | last
      · exact none operation succeeded earlier
      · cases List.mem_singleton.mp last
    · exact unrecorded same none
  consult := by
    intro request world result trace final ending
    obtain ⟨same, quiet, allQuiet, rfl⟩ := consult_ends discreet ending
    refine unrecorded same fun operation succeeded member => ?_
    rcases List.mem_cons.mp member with impossible | quietly
    · cases impossible
    · cases allQuiet _ quietly
  note note other := Keeps.note fun _ => unrecorded rfl fun operation succeeded member =>
    other operation succeeded (List.mem_singleton.mp member).symm

variable (discreet : others.Discreet) (kept : others.books.KeptIn tables)

include discreet kept

theorem record_performs {operation : Operation} {result : Except Fault operation.Answer}
    (ending : (record operation).Ends world result trace final)
    (holds : P (tables world.store) operation) : Performs P tables world trace final := by
  refine ⟨(steps_replays discreet kept).record operation trivial ending, ?_⟩
  obtain ⟨quiet, allQuiet, ⟨_, _, rfl⟩ | ⟨_, _, rfl⟩⟩ := record_ends discreet kept ending
  all_goals
    refine (Trace.along_of_unrecorded (unrecorded_of_quiet allQuiet)).append
      (Trace.along_singleton ?_)
    rw [Trace.operations_of_quiet allQuiet]
    exact holds

/-- What is done after an operation meets the tables that the operation leaves. -/
theorem record_bind_keeps {R : World others → Trace → World others → Prop} (chaining : Chaining R)
    {β : Type} {operation : Operation} {next : operation.Answer → Call (World others) β}
    {result : Except Fault β} (ending : (record operation >>= next).Ends world result trace final)
    (recorded : ∀ {result trace final}, (record operation).Ends world result trace final →
      R world trace final)
    (later : ∀ {middle rest}, tables middle.store = ((tables world.store).perform operation).2 →
      (next ((tables world.store).perform operation).1).Ends middle result rest final →
      R middle rest final) : R world trace final := by
  rcases ends_bind.mp ending with ⟨_, _, failed⟩ | ⟨_, middle, first, second, done, continued, rfl⟩
  · exact recorded failed
  · refine chaining.trans (recorded done) ?_
    obtain ⟨_, _, ⟨same, performed, _⟩ | ⟨⟨_, impossible⟩, _⟩⟩ := record_ends discreet kept done
    · cases same
      exact later performed continued
    · cases impossible

theorem record_bind_performs {β : Type} {operation : Operation}
    {next : operation.Answer → Call (World others) β} {result : Except Fault β}
    (ending : (record operation >>= next).Ends world result trace final)
    (holds : P (tables world.store) operation)
    (later : ∀ {middle : World others} {rest : Trace},
      tables middle.store = ((tables world.store).perform operation).2 →
      (next ((tables world.store).perform operation).1).Ends middle result rest final →
      Performs P tables middle rest final) : Performs P tables world trace final :=
  record_bind_keeps discreet kept performs_chaining ending
    (fun ended => record_performs discreet kept ended holds) later

/-- Operations that stand in the relation to all tables can be asked for anywhere. -/
theorem steps_performs : Steps (Keeping (Performs P tables : World others → Trace → World others → Prop))
    (fun operation => ∀ tables, P tables operation) (fun _ => True)
    (fun note => ∀ operation succeeded, note ≠ .recorded operation succeeded) :=
  steps_of_unrecorded discreet performs_chaining
    (fun _ holds _ _ _ _ ending => record_performs discreet kept ending (holds _))
    fun same => performs_of_unrecorded (congrArg tables same)

end World

end RollCall
