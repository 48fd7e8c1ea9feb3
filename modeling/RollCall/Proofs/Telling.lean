import RollCall.Proofs.InMemory
import RollCall.Proofs.Runs

/-!
# What a chain in memory tells

Whatever fails, the answers of a chain in memory are those that it was set up with. So it tells of
one chain all along, as long as no one sets it anew. Where nothing fails it answers every question.
-/

set_option autoImplicit false

namespace RollCall

open Call

namespace Chain

namespace Simulated

/-- What fails and what was counted plays no part in an answer. -/
theorem answer_of_set (chain : Simulated) (failures : List (String × Number)) (built : Nat)
    (watched : Option (String × Nat)) :
    ({ chain with failures, built, watched } : Simulated).answer = chain.answer := by
  funext question
  cases question <;> rfl

/-- What does not change when a client is asked: the answers, and that nothing fails. -/
def Steady (state : Simulated × Bool) (_ : Trace) (final : Simulated × Bool) : Prop :=
  final.1.answer = state.1.answer ∧
    (state.1.failures = [] → final.1.failures = [] ∧ final.2 = state.2)

theorem steady_chaining : Chaining Steady where
  refl _ := ⟨rfl, fun none => ⟨none, rfl⟩⟩
  trans first second := by
    refine ⟨second.1.trans first.1, fun none => ?_⟩
    obtain ⟨none', healthy⟩ := first.2 none
    obtain ⟨none'', healthy'⟩ := second.2 none'
    exact ⟨none'', healthy'.trans healthy⟩

theorem watch_ends {question : Question} {state final : Simulated × Bool} {result : Except Fault Unit}
    {trace : Trace} (ending : (watch question).Ends state result trace final) :
    result = .ok () ∧ Steady state trace final := by
  have settled := ends_read_bind.mp ending
  dsimp only at settled
  split at settled
  · split at settled
    · have watched := ends_modify_bind.mp settled
      have steady : ∀ watched trace,
          Steady state trace ({ state.1 with watched := watched }, state.2) :=
        fun watched _ => ⟨answer_of_set state.1 _ _ watched, fun none => ⟨none, rfl⟩⟩
      split at watched
      · obtain ⟨rfl, _, rfl⟩ := ends_iff.mp watched
        exact ⟨rfl, steady _ _⟩
      · obtain ⟨rfl, _, rfl⟩ := ends_pure.mp watched
        exact ⟨rfl, steady _ _⟩
    · obtain ⟨rfl, rfl, rfl⟩ := ends_pure.mp settled
      exact ⟨rfl, steady_chaining.refl _⟩
  · obtain ⟨rfl, rfl, rfl⟩ := ends_pure.mp settled
    exact ⟨rfl, steady_chaining.refl _⟩

theorem takeFailure_ends {method : String} {state final : Simulated × Bool}
    {result : Except Fault Bool} {trace : Trace}
    (ending : (takeFailure method).Ends state result trace final) :
    Steady state trace final ∧ ∃ failing, result = .ok failing ∧
      (state.1.failures = [] → failing = false) := by
  have settled := ends_read_bind.mp ending
  dsimp only at settled
  split at settled
  · obtain ⟨rfl, rfl, rfl⟩ := ends_pure.mp settled
    exact ⟨steady_chaining.refl _, false, rfl, fun _ => rfl⟩
  · next some_left =>
    have failing : state.1.failures ≠ [] := by
      intro none
      rw [none] at some_left
      exact some_left rfl
    have modified := ends_modify_bind.mp settled
    obtain ⟨rfl, rfl, rfl⟩ := ends_pure.mp modified
    exact ⟨⟨answer_of_set state.1 _ _ _, fun none => absurd none failing⟩, true, rfl,
      fun none => absurd none failing⟩

/-- A client's answer is one of the chain, and there is one if nothing fails. -/
theorem ask_ends {question : Question} {state final : Simulated × Bool}
    {result : Except Fault question.Answer} {trace : Trace}
    (ending : (provider.ask question).Ends state result trace final) :
    Steady state trace final ∧
      (∀ answer, result = .ok answer → answer = state.1.answer question) ∧
      (state.1.failures = [] → state.2 = true → result = .ok (state.1.answer question)) := by
  rcases ends_bind.mp ending with ⟨_, _, failed⟩ | ⟨_, middle, first, rest, watched, asked, rfl⟩
  · cases (watch_ends failed).1
  have steady := (watch_ends watched).2
  have asking := ends_read_bind.mp asked
  dsimp only at asking
  split at asking
  · next unhealthy =>
    obtain ⟨rfl, rfl, rfl⟩ := ends_fail.mp asking
    rw [List.append_nil]
    refine ⟨steady, fun _ impossible => (nomatch impossible), fun none healthy => ?_⟩
    rw [(steady.2 none).2, healthy] at unhealthy
    cases unhealthy
  · rcases ends_bind.mp asking with ⟨_, _, failed⟩ | ⟨failing, last, second, third, taken, going, rfl⟩
    · obtain ⟨_, _, impossible, _⟩ := takeFailure_ends failed
      cases impossible
    obtain ⟨steady', _, same, unfailing⟩ := takeFailure_ends taken
    cases same
    have both := steady_chaining.trans steady steady'
    split at going
    · next fails =>
      have modified := ends_modify_bind.mp going
      obtain ⟨rfl, rfl, rfl⟩ := ends_fail.mp modified
      have sure : state.1.failures ≠ [] := fun none => by
        rw [unfailing (steady.2 none).1] at fails
        cases fails
      exact ⟨⟨both.1, fun none => absurd none sure⟩, fun _ impossible => (nomatch impossible),
        fun none => absurd none sure⟩
    · have answered := ends_read_bind.mp going
      obtain ⟨rfl, rfl, rfl⟩ := ends_pure.mp answered
      rw [List.append_nil]
      refine ⟨both, fun answer same => ?_, fun _ _ => ?_⟩
      · cases same
        rw [both.1]
      · rw [both.1]

end Simulated

namespace Connection

/-- The chain has the answers that it had. -/
def SameAnswers (connection : Connection Simulated Bool) (_ : Trace)
    (final : Connection Simulated Bool) : Prop :=
  final.node.answer = connection.node.answer

theorem steps_sameAnswers : Steps Simulated.provider SameAnswers where
  chaining := ⟨fun _ => rfl, fun first second => second.trans first⟩
  log _ _ _ _ := Keeps.note fun _ => rfl
  arrange change same := Keeps.modify fun connection => by rw [SameAnswers, same]
  connect := by
    intro connection result trace final ending
    obtain ⟨node, connected, rfl⟩ := ends_inside.mp ending
    have modified := ends_modify_bind.mp connected
    obtain ⟨_, _, rfl⟩ := ends_pure.mp modified
    exact Simulated.answer_of_set connection.node _ _ _
  close place := by
    intro connection result trace final ending
    obtain ⟨_, _, _, rfl⟩ | ⟨client, done, _, closed, rfl⟩ := byClient_ends ending
    · rfl
    · obtain ⟨_, _, rfl⟩ := ends_inside.mp closed
      rfl

theorem ask_ends {question : Question} {connection final : Connection Simulated Bool}
    {result : Except Fault question.Answer} {trace : Trace}
    (ending : (ask Simulated.provider question).Ends connection result trace final) :
    final.node.answer = connection.node.answer ∧
      ∀ answer, result = .ok answer → answer = connection.node.answer question := by
  have answering : ∀ place, Keeps SameAnswers (byClient place (Simulated.provider.ask question)) := by
    intro place connection result trace final ending
    obtain ⟨_, _, _, rfl⟩ | ⟨client, done, _, asked, rfl⟩ := byClient_ends ending
    · rfl
    · exact (Simulated.ask_ends asked).1.1
  refine ⟨ask_keeps steps_sameAnswers (Keeps.note fun _ => rfl) answering ending, ?_⟩
  rintro answer rfl
  obtain ⟨_, _, _, _, _, _, began, answered⟩ := answered_of_ask ending
  have same := begin_keeps steps_sameAnswers began
  rw [← same]
  exact (Simulated.ask_ends answered).2.1 _ rfl

end Connection

end Chain

/-!
## What the world of a chain in memory tells
-/

/-- What a note tells as an answer is what a chain has to say. -/
def Note.IsSaid (content : Chain.Content) (note : Note) : Prop :=
  ∀ question answer, note = .answered question answer → answer = content question

theorem Note.tellsOf_of_isSaid {content : Chain.Content} {note : Note} (said : note.IsSaid content)
    (withBlockEvents : Bool) : note.TellsOf content withBlockEvents := by
  cases note with
  | answered question answer =>
      obtain rfl := said question answer rfl
      cases question with
      | query path data => exact fun _ _ => id
      | _ => trivial
  | _ => trivial

/-- The chain has the answers that it had, and nothing else is told. -/
def Telling (world : World Collaborators.inMemory) (trace : Trace)
    (final : World Collaborators.inMemory) : Prop :=
  final.chain.node.answer = world.chain.node.answer ∧
    ∀ note ∈ trace, note.IsSaid world.chain.node.answer

theorem telling_of_quiet {world final : World Collaborators.inMemory} {trace : Trace}
    (same : final.chain.node.answer = world.chain.node.answer)
    (quiet : ∀ note ∈ trace, ∀ question answer, note ≠ .answered question answer) :
    Telling world trace final :=
  ⟨same, fun note member question answer told => (quiet note member question answer told).elim⟩

theorem Note.unsaid_of_outside {note : Note} (outside : note.isOutside) (question : Chain.Question)
    (answer : question.Answer) : note ≠ .answered question answer := by
  rintro rfl
  cases outside

theorem World.ask_answers {question : Chain.Question} {world final : World Collaborators.inMemory}
    {result : Except Fault question.Answer} {trace : Trace}
    (ending : (World.ask question).Ends world result trace final) :
    final.chain.node.answer = world.chain.node.answer ∧
      ∀ answer, result = .ok answer → answer = world.chain.node.answer question := by
  rcases ends_bind.mp ending with ⟨fault, rfl, failed⟩ | ⟨answer, middle, _, _, answered, continued,
    _⟩
  · obtain ⟨_, asked, rfl⟩ := ends_inside.mp failed
    exact ⟨(Chain.Connection.ask_ends asked).1, fun _ impossible => (nomatch impossible)⟩
  · obtain ⟨_, asked, rfl⟩ := ends_inside.mp answered
    obtain ⟨_, returned, _⟩ := ends_note_bind.mp continued
    obtain ⟨rfl, _, rfl⟩ := ends_pure.mp returned
    obtain ⟨same, truly⟩ := Chain.Connection.ask_ends asked
    exact ⟨same, fun _ told => (Except.ok.inj told) ▸ truly answer rfl⟩

theorem telling_chaining : Chaining Telling where
  refl _ := ⟨rfl, by simp⟩
  trans first second := by
    refine ⟨second.1.trans first.1, List.forall_mem_append.mpr ⟨first.2, ?_⟩⟩
    rw [← first.1]
    exact second.2

theorem steps_telling : World.Steps (Keeping Telling) (fun _ => True) (fun _ => True)
    (fun note => ∀ question answer, note ≠ .answered question answer) where
  closed := closed_keeping telling_chaining
  record := by
    intro operation _ world result trace final ending
    have unsaid := World.steps_noting Collaborators.discreet_inMemory Collaborators.keptIn_inMemory
      (fun note => ∀ question answer, note ≠ .answered question answer) (fun _ => True)
      (fun _ => False) (fun _ => Note.unsaid_of_outside) (by simp) (by simp) (by simp)
    exact telling_of_quiet (by rw [World.record_chain ending]) (unsaid.record _ trivial ending)
  ask := by
    intro question _ world result trace final ending
    obtain ⟨_, asking, noted, ended⟩ := World.ask_ends Collaborators.discreet_inMemory ending
    obtain ⟨same, truly⟩ := World.ask_answers ending
    have unsaid : ∀ note ∈ asking, note.IsSaid world.chain.node.answer := by
      intro note member question answer told
      rcases noted note member with quiet | rfl
      · exact (Note.unsaid_of_outside quiet question answer told).elim
      · cases told
    refine ⟨same, ?_⟩
    rcases ended with ⟨answer, rfl, rfl⟩ | ⟨_, rfl⟩
    · refine List.forall_mem_append.mpr ⟨unsaid, fun note member => ?_⟩
      rw [List.mem_singleton.mp member]
      intro _ _ told
      cases told
      exact truly answer rfl
    · exact unsaid
  consult := by
    intro request world result trace final ending
    obtain ⟨_, quiet, allQuiet, rfl⟩ := World.consult_ends Collaborators.discreet_inMemory ending
    refine telling_of_quiet (by rw [World.consult_chain ending]) (List.forall_mem_cons.mpr ⟨by simp, ?_⟩)
    exact fun note member => Note.unsaid_of_outside (allQuiet note member)
  note note unsaid := Keeps.note fun world => telling_of_quiet rfl (by simpa using unsaid)

theorem Loop.process_tells {options : FollowOptions} {height : Height} :
    Keeps Telling (Loop.process options height) :=
  World.process_keeps steps_telling (by simp) (fun _ _ => trivial) trivial (fun _ _ => trivial)
    (by simp) (by simp)

theorem Loop.between_telling (options : FollowOptions) : Loop.Between options Telling where
  chaining := telling_chaining
  log line world := telling_of_quiet rfl (by simp)
  connect := by
    intro world result trace final ending
    have quiet := (World.connect_ends Collaborators.discreet_inMemory ending).2
    refine telling_of_quiet ?_ fun note member => Note.unsaid_of_outside (quiet note member)
    obtain ⟨_, connected, rfl⟩ := ends_inside.mp ending
    exact Chain.Connection.ensure_keeps Chain.Connection.steps_sameAnswers connected
  wait := by
    intro pause world result trace final ending
    have quiet := (World.wait_ends Collaborators.discreet_inMemory ending).2
    exact telling_of_quiet (by rw [World.wait_chain ending])
      fun note member => Note.unsaid_of_outside (quiet note member)
  status := steps_telling.ask _ trivial
  progress := steps_telling.record _ trivial

theorem Loop.tick_tells {options : FollowOptions} {loop : Loop} :
    Keeps Telling (loop.tick options) :=
  Loop.tick_keeps (Loop.between_telling options).around (fun _ => Loop.process_tells) loop

/-- What is told in a run is what the chain said in the beginning, if no one sets it anew. -/
theorem Loop.Run.tells {options : FollowOptions}
    {outside : World Collaborators.inMemory → World Collaborators.inMemory → Prop}
    {start world : World Collaborators.inMemory} {trace : Trace} {loop : Loop}
    (undisturbed : ∀ world world', outside world world' →
      world'.chain.node.answer = world.chain.node.answer)
    (run : Loop.Run options outside start trace world loop) : Telling start trace world := by
  refine run.keeps (Loop.between_telling options) (fun _ => Loop.process_tells) ?_ ?_
  · exact fun world => ⟨rfl, by simp⟩
  · exact fun world world' done => ⟨undisturbed world world' done, by simp⟩

end RollCall
