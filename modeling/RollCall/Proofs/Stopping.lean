import RollCall.Proofs.Saving
import RollCall.Proofs.Undisturbed

/-!
# Stopping

A loop can be asked to stop at any moment. A height that is in flight then is done as it would have
been, or fails as it would have; no other is begun, neither in the round nor in any later one. The
ledger and the loop still tell the same height as the next.
-/

set_option autoImplicit false

namespace RollCall

open Call

/-- A call is made, and no one asks its caller to stop meanwhile. -/
structure Call.Calmly {σ α : Type} (call : Call σ α) (state : σ) (result : Except Fault α)
    (trace : Trace) (final : σ) : Prop where
  ends : call.Ends state result trace final
  calm : (call state).interrupted = false

namespace Loop

variable {others : Collaborators} {options : FollowOptions}

/-- The loop, as if it had not been asked to stop. -/
def unasked (loop : Loop) : Loop :=
  { loop with stopping := false }

theorem heed_unasked {α : Type} {call : Call (World others) α}
    {twin : Call (World others.undisturbed) α} (mirrored : call.Mirrored twin) (loop : Loop)
    {inner : Except Fault α} {world final : World others} {trace : Trace}
    (called : call.Ends world inner trace final) :
    (loop.unasked.heed twin).Ends world.undisturbed (.ok (inner, loop.unasked)) trace
      final.undisturbed := by
  have ending := (loop.unasked.heed twin).ends world.undisturbed
  obtain ⟨inner', same, called'⟩ := heed_ends ending
  have told := mirrored.ends called
  have results : inner' = inner := called'.result_eq.symm.trans told.result_eq
  rw [mirrored.calm] at same
  rw [same, ← called'.trace_eq, ← called'.state_eq, told.trace_eq, told.state_eq, results] at ending
  exact ending

theorem resume_unasked {loop resumed : Loop} {point : Except Fault Height}
    {world final : World others} {trace : Trace}
    (ending : (loop.resume options).Ends world (.ok (point, resumed)) trace final) :
    (loop.unasked.resume options).Ends world.undisturbed (.ok (point, resumed.unasked)) trace
      final.undisturbed := by
  obtain ⟨read, _, middle, reading, rest, reads, returning, rfl⟩ := heed_bind_ends ending
  have heeded := heed_unasked (World.paired_mirrored.resumePoint options) loop reads
  refine ends_bind.mpr (.inr ⟨_, _, _, _, heeded, ?_, rfl⟩)
  cases read with
  | error fault =>
      obtain ⟨same, rfl, rfl⟩ := ends_pure.mp returning
      cases same
      exact ends_pure.mpr ⟨rfl, rfl, rfl⟩
  | ok next =>
      obtain ⟨same, rfl, rfl⟩ := ends_pure.mp returning
      cases same
      exact ends_pure.mpr ⟨rfl, rfl, rfl⟩

/-!
## As it would have been
-/

/-- What a round of a loop that may be asked to stop comes to, as the beginning of what it comes to
where no one asks: the whole of it, or some part after which no fault was met. -/
structure Foreshadows (free : Call (World others.undisturbed) (Except Fault Summary × Loop))
    (world : World others) (report : Except Fault Summary) (loop' : Loop) (trace : Trace)
    (final : World others) : Prop where
  beginning : trace <+: (free world.undisturbed).trace
  carried : free.Ends world.undisturbed (.ok (report, loop'.unasked)) trace final.undisturbed ∨
    loop'.stopping ∧ Sound report

namespace Foreshadows

variable {free : Call (World others.undisturbed) (Except Fault Summary × Loop)} {world middle final : World others}
  {report : Except Fault Summary} {loop loop' : Loop} {trace first second : Trace}

theorem whole (ending : free.Ends world.undisturbed (.ok (report, loop'.unasked)) trace
    final.undisturbed) : Foreshadows free world report loop' trace final where
  beginning := by rw [ending.trace_eq]
  carried := .inl ending

theorem broken (stopping : loop'.stopping) (sound : Sound report) :
    Foreshadows free world report loop' [] final where
  beginning := List.nil_prefix
  carried := .inr ⟨stopping, sound⟩

theorem after {α : Type} {call : Call (World others.undisturbed) α} {value : α}
    {next : α → Call (World others.undisturbed) (Except Fault Summary × Loop)}
    (called : call.Ends world.undisturbed (.ok value) first middle.undisturbed)
    (rest : Foreshadows (next value) middle report loop' second final) :
    Foreshadows (call >>= next) world report loop' (first ++ second) final := by
  have onward := (next value).ends middle.undisturbed
  constructor
  case beginning =>
    have whole := ends_bind.mpr (.inr ⟨_, _, _, _, called, onward, rfl⟩)
    rw [whole.trace_eq]
    exact (List.prefix_append_right_inj first).mpr rest.beginning
  case carried =>
    apply rest.carried.imp_left
    intro ended
    exact ends_bind.mpr (.inr ⟨_, _, _, _, called, ended, rfl⟩)

end Foreshadows

theorem failed_foreshadows {loop : Loop} {processed : Nat} {head : Option Height} {height : Height}
    {fault : Fault} {world final : World others} {report : Except Fault Summary} {loop' : Loop} {trace : Trace}
    (ending : (loop.failed processed head height fault).Ends world (.ok (report, loop')) trace
      final) :
    Foreshadows (loop.unasked.failed processed head height fault) world report loop' trace final := by
  apply Foreshadows.whole
  unfold failed at ending ⊢
  cases reported : fault.message with
  | error unreported =>
      rw [reported] at ending
      obtain ⟨same, rfl, rfl⟩ := ends_pure.mp ending
      cases same
      exact ends_pure.mpr ⟨rfl, rfl, rfl⟩
  | ok error =>
      rw [reported] at ending
      dsimp only at ending ⊢
      split at ending
      all_goals
        obtain ⟨rest, returned, rfl⟩ := ends_log_bind.mp ending
        obtain ⟨same, rfl, rfl⟩ := ends_pure.mp returned
        cases same
      · next permanent =>
        rw [if_pos permanent]
        exact ends_log_bind.mpr ⟨[], ends_pure.mpr ⟨rfl, rfl, rfl⟩, rfl⟩
      · next passing =>
        rw [if_neg passing]
        exact ends_log_bind.mpr ⟨[], ends_pure.mpr ⟨rfl, rfl, rfl⟩, rfl⟩

theorem ended_foreshadows {loop : Loop} {processed : Nat} {head height : Height}
    {world final : World others} {report : Except Fault Summary} {loop' : Loop} {trace : Trace}
    (ending : (catchUp.ended head height processed loop).Ends world (.ok (report, loop')) trace
      final) :
    Foreshadows (catchUp.ended head height processed loop.unasked) world report loop' trace
      final := by
  obtain ⟨same, rfl, rfl⟩ := ends_pure.mp ending
  cases same
  exact .whole (ends_pure.mpr ⟨rfl, rfl, rfl⟩)

/-- A loop that was asked to stop does no more in its round. -/
theorem ended_broken {loop : Loop} {processed : Nat} {head height : Height}
    {world final : World others} {report : Except Fault Summary} {loop' : Loop} {trace : Trace}
    (stopping : loop.stopping)
    (ending : (catchUp.ended head height processed loop).Ends world (.ok (report, loop')) trace
      final) (free : Call (World others.undisturbed) (Except Fault Summary × Loop)) :
    Foreshadows free world report loop' trace final := by
  obtain ⟨same, rfl, rfl⟩ := ends_pure.mp ending
  cases same
  exact .broken stopping ⟨_, rfl, rfl⟩

theorem catchUp_foreshadows {head height : Height} {left processed : Nat} {loop loop' : Loop}
    {world final : World others} {report : Except Fault Summary} {trace : Trace}
    (ending : (catchUp options head left height processed loop).Ends world (.ok (report, loop'))
      trace final) :
    Foreshadows (catchUp options head left height processed loop.unasked) world report loop' trace
      final := by
  induction left generalizing height processed loop trace world with
  | zero => exact ended_foreshadows ending
  | succ left ih =>
      have onward : height.below head → ¬ (loop.unasked.stopping || !height.below head) = true := by
        intro below
        simp [unasked, below]
      cases catchUp_cases ending with
      | ended reason ended =>
          rcases reason with stopping | beyond
          · exact ended_broken stopping ended _
          · rw [catchUp_of_ended _ _ (.inr beyond)]
            exact ended_foreshadows ended
      | paused _ below wait _ ended =>
          unfold catchUp
          rw [if_neg (onward below)]
          exact .after (heed_unasked (World.wait_mirrored _) { loop with phase := .catchingUp } wait)
            (ended_broken (by simp [heeding]) ended _)
      | failed _ below wait _ pass failing =>
          unfold catchUp
          rw [if_neg (onward below)]
          apply Foreshadows.after
            (heed_unasked (World.wait_mirrored _) { loop with phase := .catchingUp } wait)
          apply Foreshadows.after (heed_unasked (World.paired_mirrored.process options height)
            { loop with phase := .catchingUp } pass)
          have foreshadowed := failed_foreshadows failing
          exact foreshadowed
      | onward _ below wait _ pass further =>
          unfold catchUp
          rw [if_neg (onward below)]
          apply Foreshadows.after
            (heed_unasked (World.wait_mirrored _) { loop with phase := .catchingUp } wait)
          apply Foreshadows.after (heed_unasked (World.paired_mirrored.process options height)
            { loop with phase := .catchingUp } pass)
          exact ih further

theorem round_foreshadows {height : Height} {loop loop' : Loop} {world final : World others}
    {report : Except Fault Summary} {trace : Trace}
    (ending : (round options loop height).Ends world (.ok (report, loop')) trace final) :
    Foreshadows (round options loop.unasked height) world report loop' trace final := by
  have opens : ¬ loop.unasked.stopping = true := by simp [unasked]
  cases round_cases ending with
  | stopped stopping same =>
      cases same
      exact .broken stopping ⟨_, rfl, rfl⟩
  | broken _ connect same =>
      cases same
      apply Foreshadows.whole
      unfold round
      rw [if_neg opens, ← List.append_nil trace]
      exact ends_bind.mpr (.inr ⟨_, _, _, _,
        heed_unasked World.connect_mirrored { loop with phase := .fetchingHead } connect,
        ends_pure.mpr ⟨rfl, rfl, rfl⟩, rfl⟩)
  | unconnected _ connect failing =>
      unfold round
      rw [if_neg opens]
      apply Foreshadows.after
        (heed_unasked World.connect_mirrored { loop with phase := .fetchingHead } connect)
      have foreshadowed := failed_foreshadows failing
      exact foreshadowed
  | unheard _ connect ask failing =>
      unfold round
      rw [if_neg opens]
      apply Foreshadows.after
        (heed_unasked World.connect_mirrored { loop with phase := .fetchingHead } connect)
      apply Foreshadows.after
        (heed_unasked (World.ask_mirrored _) { loop with phase := .fetchingHead } ask)
      have foreshadowed := failed_foreshadows failing
      exact foreshadowed
  | opened _ connect ask onward =>
      unfold round
      rw [if_neg opens]
      apply Foreshadows.after
        (heed_unasked World.connect_mirrored { loop with phase := .fetchingHead } connect)
      apply Foreshadows.after
        (heed_unasked (World.ask_mirrored _) { loop with phase := .fetchingHead } ask)
      have foreshadowed := catchUp_foreshadows onward
      exact foreshadowed

/-- A round comes to the beginning of what it comes to where no one asks the loop to stop. -/
theorem tick_foreshadows {loop loop' : Loop} {world final : World others} {report : Except Fault Summary}
    {trace : Trace} (ending : (loop.tick options).Ends world (.ok (report, loop')) trace final) :
    Foreshadows (loop.unasked.tick options) world report loop' trace final := by
  cases tick_cases ending with
  | known position going =>
      have known : loop.unasked.next = _ := position
      rw [tick, known]
      exact round_foreshadows going
  | resumed position resume going =>
      have unknown : loop.unasked.next = none := position
      rw [tick, unknown]
      exact .after (resume_unasked resume) (round_foreshadows going)
  | unresumed position resume failing =>
      have unknown : loop.unasked.next = none := position
      rw [tick, unknown]
      exact .after (resume_unasked resume) (failed_foreshadows failing)

/-!
## Where it stops
-/

/-- A round begins at a height that the loop knows or reads from the ledger. -/
inductive Positioned (options : FollowOptions) (loop : Loop) (world : World others) :
    Trace → World others → Height → Prop where
  | known {height : Height} (next : loop.next = some height) :
      Positioned options loop world [] world height
  | resumed {height : Height} {trace : Trace} {final : World others} (unknown : loop.next = none)
      (read : (resumePoint options).Calmly world (.ok height) trace final) :
      Positioned options loop world trace final height

/-- What a round has come to as long as no one has asked the loop to stop: what was noted, the world,
the head, and the height that is next. Every height before that was done. -/
inductive Steady (options : FollowOptions) (loop : Loop) (world : World others) :
    Trace → World others → Height → Height → Prop where
  | opened {height : Height} {first second third : Trace} {placed reached final : World others}
      {status : Chain.Status} (unasked : loop.stopping = false)
      (positioned : Positioned options loop world first placed height)
      (connected : World.connect.Calmly placed (.ok true) second reached)
      (told : (World.ask .status).Calmly reached (.ok status) third final) :
      Steady options loop world (first ++ second ++ third) final status.latest height
  | onward {height head : Height} {before pausing passing : Trace} {middle ready done : World others}
      {waited : Except Fault Unit} (steady : Steady options loop world before middle head height)
      (below : height.below head)
      (paused : (World.wait .beforeHeight).Calmly middle waited pausing ready)
      (passed : (process options height).Calmly ready (.ok ()) passing done) :
      Steady options loop world (before ++ pausing ++ passing) done head (height + 1)

/-- How a pass ends the round in which the loop is asked to stop: it is done, or it fails and the
failure is reported. Nothing else follows. -/
inductive LastPass (head height : Height) :
    Except Fault Unit → Trace → Except Fault Summary → Prop where
  | done {summary : Summary} (sound : summary.error = none) (next : summary.height = height + 1) :
      LastPass head height (.ok ()) [] (.ok summary)
  | failed {fault : Fault} {trace : Trace} {report : Except Fault Summary}
      (reports : Reports (some head) height fault report trace) :
      LastPass head height (.error fault) trace report

/-- A round in which the loop was asked to stop, by where the request found it. -/
inductive Halted (options : FollowOptions) (loop : Loop) (world : World others) :
    Trace → World others → Except Fault Summary → Prop where
  /-- Before the round, while it looked where to resume, connected or asked for the head: no height is
  begun. -/
  | opening {trace : Trace} {final : World others} {report : Except Fault Summary}
      (idle : ∀ note ∈ trace, note.IsIdle options) :
      Halted options loop world trace final report
  /-- In the pause before a height, which is not begun. -/
  | pausing {height head : Height} {before pausing : Trace} {middle final : World others}
      {waited : Except Fault Unit} {summary : Summary}
      (steady : Steady options loop world before middle head height) (below : height.below head)
      (paused : (World.wait .beforeHeight).Ends middle waited pausing final)
      (asked : (World.wait .beforeHeight middle).interrupted) (sound : summary.error = none)
      (next : summary.height = height) :
      Halted options loop world (before ++ pausing) final (.ok summary)
  /-- While a height was in flight, which is brought to its end. -/
  | inFlight {height head : Height} {before pausing passing logging : Trace}
      {middle ready done : World others} {waited result : Except Fault Unit}
      {report : Except Fault Summary}
      (steady : Steady options loop world before middle head height) (below : height.below head)
      (paused : (World.wait .beforeHeight).Calmly middle waited pausing ready)
      (passed : (process options height).Ends ready result passing done)
      (asked : (process options height ready).interrupted)
      (last : LastPass head height result logging report) :
      Halted options loop world (before ++ pausing ++ passing ++ logging) done report

section Halting

variable {loop loop' : Loop} {world final : World others} {report : Except Fault Summary}
  {head height : Height} {trace : Trace}

theorem ended_stopping {processed : Nat} {calm : Loop} (unasked : calm.stopping = false)
    (ending : (catchUp.ended head height processed calm).Ends world (.ok (report, loop')) trace
      final) : loop'.stopping = false := by
  obtain ⟨same, _⟩ := ends_pure.mp ending
  cases same
  exact unasked

theorem catchUp_of_stopping {left processed : Nat} {asked : Loop} (stopping : asked.stopping)
    (ending : (catchUp options head left height processed asked).Ends world (.ok (report, loop'))
      trace final) :
    (∃ summary, report = .ok summary ∧ summary.error = none ∧ summary.height = height) ∧
      trace = [] ∧ final = world := by
  rw [catchUp_of_ended _ _ (.inl stopping)] at ending
  obtain ⟨same, rfl, rfl⟩ := ends_pure.mp ending
  cases same
  exact ⟨⟨_, rfl, rfl, rfl⟩, rfl, rfl⟩

/-- By induction on the heights that are left: as long as no one has asked, the round goes on from
where it has come to. -/
theorem catchUp_halts {left processed : Nat} {calm : Loop} {before : Trace} {middle : World others}
    (steady : Steady options loop world before middle head height)
    (unasked : calm.stopping = false)
    (ending : (catchUp options head left height processed calm).Ends middle (.ok (report, loop'))
      trace final) (stopping : loop'.stopping) :
    Halted options loop world (before ++ trace) final report := by
  induction left generalizing height processed calm before middle trace with
  | zero =>
      rw [ended_stopping unasked ending] at stopping
      cases stopping
  | succ left ih =>
      cases catchUp_cases ending with
      | ended _ ended =>
          rw [ended_stopping unasked ended] at stopping
          cases stopping
      | paused _ below wait asked ended =>
          obtain ⟨same, rfl, rfl⟩ := ends_pure.mp ended
          cases same
          rw [List.append_nil]
          exact .pausing steady below wait asked rfl rfl
      | @failed _ _ _ _ _ ready _ _ going below wait calm pass failing =>
          obtain ⟨_, _, same, reports, _, kept, rfl⟩ := failed_ends failing
          cases same
          have asked : (process options height ready).interrupted = true := by
            rw [kept, heeding, going, Bool.false_or] at stopping
            exact stopping
          rw [← List.append_assoc, ← List.append_assoc]
          exact .inFlight steady below ⟨wait, calm⟩ pass asked (.failed reports)
      | @onward _ _ _ _ ready _ _ going below wait calm pass onward =>
          rw [← List.append_assoc, ← List.append_assoc]
          cases asked : (process options height ready).interrupted with
          | true =>
              obtain ⟨⟨_, rfl, sound, next⟩, rfl, rfl⟩ :=
                catchUp_of_stopping (by simp [heeding, asked]) onward
              exact .inFlight steady below ⟨wait, calm⟩ pass asked (.done sound next)
          | false =>
              exact ih (.onward steady below ⟨wait, calm⟩ ⟨pass, asked⟩)
                (by simp [heeding, going, asked]) onward

theorem opening_of_failed {failing : Loop} {processed : Nat} {head : Option Height} {fault : Fault}
    {placed : World others} {first : Trace} (idle : ∀ note ∈ first, note.IsIdle options)
    (ending : (failing.failed processed head height fault).Ends placed (.ok (report, loop')) trace
      final) : Halted options loop world (first ++ trace) final report := by
  obtain ⟨_, _, _, reports, _, _, rfl⟩ := failed_ends ending
  refine .opening (List.forall_mem_append.mpr ⟨idle, ?_⟩)
  cases reports with
  | told => simp [Note.IsIdle]
  | silent => exact List.forall_mem_nil _

variable (discreet : others.Discreet) {tables : others.Store → Ledger.Tables}
  (kept : others.books.KeptIn tables)

include discreet kept

theorem round_halts {begun : Loop} {placed : World others} {first : Trace}
    (idle : ∀ note ∈ first, note.IsIdle options)
    (positioned : begun.stopping = false →
      loop.stopping = false ∧ Positioned options loop world first placed height)
    (ending : (round options begun height).Ends placed (.ok (report, loop')) trace final)
    (stopping : loop'.stopping) : Halted options loop world (first ++ trace) final report := by
  have between : Between options (Idle tables options) := between_idle discreet kept
  cases round_cases ending with
  | stopped _ _ =>
      rw [List.append_nil]
      exact .opening idle
  | broken _ connect _ =>
      exact .opening (List.forall_mem_append.mpr ⟨idle, (between.connect connect).2⟩)
  | unconnected _ connect failing =>
      rw [← List.append_assoc]
      exact opening_of_failed (List.forall_mem_append.mpr ⟨idle, (between.connect connect).2⟩) failing
  | unheard _ connect ask failing =>
      have idle' := List.forall_mem_append.mpr ⟨idle, (between.connect connect).2⟩
      rw [← List.append_assoc, ← List.append_assoc]
      exact opening_of_failed (List.forall_mem_append.mpr ⟨idle', (between.status ask).2⟩) failing
  | @opened status _ _ _ reached _ _ going connect ask onward =>
      have idle' := List.forall_mem_append.mpr ⟨idle, (between.connect connect).2⟩
      have idle'' := List.forall_mem_append.mpr ⟨idle', (between.status ask).2⟩
      rw [← List.append_assoc, ← List.append_assoc]
      cases asked : (World.connect placed).interrupted || (World.ask .status reached).interrupted with
      | true =>
          have stopped : ((begun.heeding .fetchingHead (World.connect placed).interrupted).heeding
              .fetchingHead (World.ask .status reached).interrupted).stopping = true := by
            rw [heeding, heeding, going, Bool.false_or, asked]
          obtain ⟨-, rfl, rfl⟩ := catchUp_of_stopping stopped onward
          rw [List.append_nil]
          exact .opening idle''
      | false =>
          obtain ⟨calm, calm'⟩ := Bool.or_eq_false_iff.mp asked
          obtain ⟨unasked, placed⟩ := positioned going
          exact catchUp_halts (.opened unasked placed ⟨connect, calm⟩ ⟨ask, calm'⟩)
            (by simp [heeding, going, calm, calm']) onward stopping

theorem tick_halts (ending : (loop.tick options).Ends world (.ok (report, loop')) trace final)
    (stopping : loop'.stopping) : Halted options loop world trace final report := by
  have between : Between options (Idle tables options) := between_idle discreet kept
  cases tick_cases ending with
  | known position going =>
      exact round_halts discreet kept (List.forall_mem_nil _)
        (fun unasked => ⟨unasked, .known position⟩) going stopping
  | resumed position resume going =>
      have idle := (resume_keeps between.around loop resume).2
      obtain ⟨_, reads, same⟩ := resume_cases resume
      cases same
      apply round_halts discreet kept idle _ going stopping
      intro unasked
      obtain ⟨calm, calm'⟩ := Bool.or_eq_false_iff.mp unasked
      exact ⟨calm, .resumed position ⟨reads, calm'⟩⟩
  | unresumed _ resume failing =>
      exact opening_of_failed (resume_keeps between.around loop resume).2 failing

end Halting

/-!
## Heights begun are saved
-/

section Saved

variable {loop : Loop} {world final : World others} {head height : Height} {trace : Trace}
  (discreet : others.Discreet) {tables : others.Store → Ledger.Tables}
  (kept : others.books.KeptIn tables)

/-- Every height whose block was asked for is saved. -/
def AllSaved (options : FollowOptions) (trace : Trace) : Prop :=
  ∀ height, .asked (.blockResults height) ∈ trace → height ∈ trace.saved options.progressId

theorem AllSaved.append {first second : Trace} (before : AllSaved options first)
    (after : AllSaved options second) : AllSaved options (first ++ second) := by
  intro height member
  rw [Trace.saved_append, List.mem_append]
  exact (List.mem_append.mp member).imp (before height) (after height)

theorem allSaved_of_idle (idle : ∀ note ∈ trace, note.IsIdle options) : AllSaved options trace := by
  intro height member
  cases idle _ member

include discreet kept

theorem process_asks {result : Except Fault Unit} {other : Height}
    (ending : (process options height).Ends world result trace final)
    (member : .asked (.blockResults other) ∈ trace) : other = height :=
  Note.about_of_pass (process_notes discreet kept ending _ member) rfl

theorem process_allSaved (ending : (process options height).Ends world (.ok ()) trace final) :
    AllSaved options trace := by
  intro other member
  cases process_asks discreet kept ending member
  rcases process_saving discreet kept ending with ⟨⟨_, impossible⟩, _⟩ | ⟨_, saved, _⟩
  · cases impossible
  · rw [saved]
    exact List.mem_singleton_self height

theorem wait_allSaved {result : Except Fault Unit} {pause : Pause}
    (ending : (World.wait pause).Ends world result trace final) : AllSaved options trace :=
  allSaved_of_idle ((between_idle discreet kept).wait pause ending).2

theorem Positioned.idle (positioned : Positioned options loop world trace final height) :
    ∀ note ∈ trace, note.IsIdle options := by
  have between : Between options (Idle tables options) := between_idle discreet kept
  cases positioned with
  | known next => exact List.forall_mem_nil _
  | resumed unknown read =>
      have reading : Keeping (Idle tables options) (resumePoint options) :=
        resumePoint_keeps between.around
      exact (reading read.ends).2

theorem Steady.allSaved (steady : Steady options loop world trace final head height) :
    AllSaved options trace := by
  have between : Between options (Idle tables options) := between_idle discreet kept
  induction steady with
  | opened unasked positioned connected told =>
      apply ((allSaved_of_idle (positioned.idle discreet kept)).append _).append
      · exact allSaved_of_idle (between.status told.ends).2
      · exact allSaved_of_idle (between.connect connected.ends).2
  | onward steady below paused passed ih =>
      apply (ih.append _).append
      · exact process_allSaved discreet kept passed.ends
      · exact wait_allSaved discreet kept paused.ends

/-- Of the heights that were begun all are saved, or all but the one in whose fault the round
ended. -/
inductive SavedOrFailed (options : FollowOptions) (trace : Trace) (report : Except Fault Summary) :
    Prop where
  | all (saved : AllSaved options trace)
  | allBut {failed : Height} (unsound : ¬ Sound report)
      (told : ∀ summary, report = .ok summary → summary.height = failed)
      (others : ∀ height, .asked (.blockResults height) ∈ trace →
        height ∈ trace.saved options.progressId ∨ height = failed)

theorem Halted.accounted {report : Except Fault Summary}
    (halted : Halted options loop world trace final report) : SavedOrFailed options trace report := by
  cases halted with
  | opening idle => exact .all (allSaved_of_idle idle)
  | pausing steady below paused asked sound next =>
      exact .all ((steady.allSaved discreet kept).append (wait_allSaved discreet kept paused))
  | inFlight steady below paused passed asked last =>
      have before := (steady.allSaved discreet kept).append
        (wait_allSaved discreet kept paused.ends)
      cases last with
      | done sound next =>
          rw [List.append_nil]
          exact .all (before.append (process_allSaved discreet kept passed))
      | failed reports =>
          refine .allBut reports.not_sound (fun summary same => (reports.tells summary same).2)
            fun height begun => ?_
          rcases List.mem_append.mp begun with first | logged
          · rcases List.mem_append.mp first with earlier | here
            · left
              rw [Trace.saved_append, Trace.saved_append]
              exact List.mem_append_left _ (List.mem_append_left _ (before height earlier))
            · exact .inr (process_asks discreet kept passed here)
          · cases reports with
            | told => simp at logged
            | silent => cases logged

end Saved

/-!
## The ledger and the loop tell the same
-/

/-- A height is the first that is not done, and natural, and no less than the last one done. -/
structure InStep (tables : others.Store → Ledger.Tables) (options : FollowOptions)
    (world : World others) (height : Height) : Prop where
  next : height = firstUndone options ((tables world.store).progressOf? options.progressId)
  natural : height.IsNatural
  ahead : Number.max (((tables world.store).progressOf? options.progressId).getD 0) height = height

/-- The next height of a loop is the one that a new loop would resume at. -/
structure Agrees (tables : others.Store → Ledger.Tables) (options : FollowOptions)
    (world : World others) (loop : Loop) : Prop where
  stored : ∀ height, loop.next = some height →
    height = firstUndone options ((tables world.store).progressOf? options.progressId)
  resumed : ∀ {height point loop' more final}, loop.next = some height →
    (({} : Loop).resume options).Ends world.reconnected (.ok (.ok point, loop')) more final →
    point = height

section InStep

variable {tables : others.Store → Ledger.Tables}

theorem inStep_initially {world : World others} (starts : options.startHeight.IsNatural)
    (begins : ∀ last, (tables world.store).progressOf? options.progressId = some last →
      last.IsNatural) :
    InStep tables options world
      (firstUndone options ((tables world.store).progressOf? options.progressId)) := by
  cases found : (tables world.store).progressOf? options.progressId with
  | none =>
      constructor
      case next => rw [found]
      case natural => exact starts
      case ahead =>
        rw [found]
        exact starts.max_zero
  | some last =>
      constructor
      case next => rw [found]
      case natural => exact (begins last found).add_one
      case ahead =>
        rw [found]
        exact (begins last found).max_add_one

variable (discreet : others.Discreet) (kept : others.books.KeptIn tables)

include discreet kept

theorem resume_reads {world final : World others} {point : Height} {loop loop' : Loop}
    {trace : Trace}
    (ending : (loop.resume options).Ends world (.ok (.ok point, loop')) trace final) :
    point = firstUndone options ((tables world.store).progressOf? options.progressId) := by
  obtain ⟨inner, read, same⟩ := resume_cases ending
  cases same
  obtain ⟨_, impossible, _⟩ | ⟨last, _, _, told, same, _⟩ := resumePoint_reads read
  · cases impossible
  cases same
  obtain ⟨_, _, ⟨same, _⟩ | ⟨⟨_, impossible⟩, _⟩⟩ := World.record_ends discreet kept told
  · cases same
    rfl
  · cases impossible

theorem invariant_inStep : Invariant options (Pausing tables options) (fun _ => True)
    (fun _ => True) (fun _ world height => InStep tables options world height) where
  between := between_pausing discreet kept
  resumes := by
    intro trace more world final height last holds read
    obtain ⟨_, _, ⟨same, _⟩ | ⟨⟨_, impossible⟩, _⟩⟩ := World.record_ends discreet kept read
    · cases same
      exact holds.next.symm
    · cases impossible
  idle := by
    intro trace more world final height holds pausing _
    exact ⟨by rw [pausing.1]; exact holds.next, holds.natural, by rw [pausing.1]; exact holds.ahead⟩
  pass := by
    intro trace more world final height head holds told below ending _
    obtain ⟨⟨_, impossible⟩, _⟩ | ⟨_, _, advanced, _⟩ := process_saving discreet kept ending
    · cases impossible
    rw [holds.ahead] at advanced
    exact ⟨by rw [advanced]; rfl, holds.natural.add_one,
      by rw [advanced]; exact holds.natural.max_add_one⟩
  failure := by
    intro trace more world final height head fault holds told below ending _
    obtain ⟨_, _, same⟩ | ⟨impossible, _⟩ := process_saving discreet kept ending
    · exact ⟨⟨by rw [same]; exact holds.next, holds.natural, by rw [same]; exact holds.ahead⟩,
        trivial⟩
    · cases impossible

/-- In every run the ledger and the loop tell the same, however far the chain is. -/
theorem Run.agrees (starts : options.startHeight.IsNatural)
    {outside : World others → World others → Prop} {start world : World others} {trace : Trace}
    {loop : Loop}
    (begins : ∀ last, (tables start.store).progressOf? options.progressId = some last →
      last.IsNatural)
    (untouched : ∀ world world', outside world world' →
      (tables world'.store).progressOf? options.progressId =
        (tables world.store).progressOf? options.progressId)
    (run : Run options outside start trace world loop) : Agrees tables options world loop := by
  obtain ⟨height, inStep, next⟩ := (invariant_inStep discreet kept).run_holds discreet kept
    (inStep_initially starts begins) (fun _ => ⟨rfl, by simp⟩)
    (fun world world' done => ⟨untouched world world' done, by simp⟩) run fun _ _ => trivial
  have stored : ∀ known, loop.next = some known →
      known = firstUndone options ((tables world.store).progressOf? options.progressId) := by
    intro known found
    rw [next known found]
    exact inStep.next
  refine ⟨stored, fun found resumed => ?_⟩
  rw [stored _ found, resume_reads discreet kept resumed, World.reconnected_store]

end InStep

/-!
## After the round
-/

/-- Nothing is done but to read progress. -/
structure Resting (tables : others.Store → Ledger.Tables) (options : FollowOptions)
    (world : World others) (trace : Trace) (final : World others) : Prop where
  chain : final.chain = world.chain
  agent : final.agent = world.agent
  clock : final.clock = world.clock
  tables : tables final.store = tables world.store
  reading : ∀ note ∈ trace, note.isOutside ∨
    ∃ succeeded, note = .recorded (.progress options.progressId) succeeded

/-- A run goes on without a new loop. -/
inductive Onward (options : FollowOptions) (outside : World others → World others → Prop)
    (world : World others) (loop : Loop) : Trace → World others → Loop → Prop where
  | here : Onward options outside world loop [] world loop
  | resume {trace more : Trace} {middle final : World others} {before after : Loop}
      {point : Except Fault Height} (onward : Onward options outside world loop trace middle before)
      (resumed : (before.resume options).Ends middle (.ok (point, after)) more final) :
      Onward options outside world loop (trace ++ more) final after
  | tick {trace more : Trace} {middle final : World others} {before after : Loop}
      {report : Except Fault Summary} (onward : Onward options outside world loop trace middle before)
      (ticked : (before.tick options).Ends middle (.ok (report, after)) more final) :
      Onward options outside world loop (trace ++ more) final after
  | stop {trace : Trace} {middle : World others} {before : Loop}
      (onward : Onward options outside world loop trace middle before) :
      Onward options outside world loop trace middle { before with stopping := true }
  | meanwhile {trace : Trace} {middle middle' : World others} {before : Loop}
      (onward : Onward options outside world loop trace middle before)
      (done : outside middle middle') : Onward options outside world loop trace middle' before

section Resting

variable {loop loop' : Loop} {world final : World others} {trace : Trace}
  (discreet : others.Discreet) {tables : others.Store → Ledger.Tables}
  (kept : others.books.KeptIn tables)

include discreet kept

theorem resumePoint_resting {result : Except Fault Height}
    (ending : (resumePoint options).Ends world result trace final) :
    Resting tables options world trace final := by
  have reads : ∀ {result : Except Fault (Option Height)} {trace : Trace},
      (World.record (.progress options.progressId)).Ends world result trace final →
      Resting tables options world trace final := by
    intro result trace read
    obtain ⟨_, _, _, _, booked, noted, _⟩ := ends_attempt_bind.mp read
    obtain ⟨_, answered, _⟩ := ends_note_bind.mp noted
    obtain ⟨_, _, rfl⟩ := ends_ofExcept.mp answered
    obtain ⟨store, _, rfl⟩ := ends_inside.mp booked
    refine ⟨rfl, rfl, rfl, ?_, ?_⟩
    · obtain ⟨_, _, ⟨_, same, _⟩ | ⟨_, same, _⟩⟩ := World.record_ends discreet kept read
      · exact same
      · exact same
    · obtain ⟨quiet, allQuiet, ⟨_, _, rfl⟩ | ⟨_, _, rfl⟩⟩ := World.record_ends discreet kept read
      all_goals
        refine List.forall_mem_append.mpr ⟨fun note member => .inl (allQuiet note member), ?_⟩
        simp
  rcases resumePoint_reads ending with ⟨fault, _, failed⟩ | ⟨last, reading, line, read, _, rfl⟩
  · exact reads failed
  · have resting := reads read
    refine ⟨resting.chain, resting.agent, resting.clock, resting.tables, ?_⟩
    exact List.forall_mem_append.mpr ⟨resting.reading, by simp [Note.isOutside]⟩

/-- Whether a loop was asked to stop is never forgotten, and one that was only reads progress. -/
theorem resume_of_stopping {point : Except Fault Height} (stopping : loop.stopping)
    (ending : (loop.resume options).Ends world (.ok (point, loop')) trace final) :
    loop'.stopping ∧ Resting tables options world trace final := by
  obtain ⟨read, reads, same⟩ := resume_cases ending
  cases same
  exact ⟨by simp [stopping], resumePoint_resting discreet kept reads⟩

theorem tick_of_stopping {report : Except Fault Summary} (stopping : loop.stopping)
    (ending : (loop.tick options).Ends world (.ok (report, loop')) trace final) :
    loop'.stopping ∧ Resting tables options world trace final := by
  have rounding : ∀ {begun : Loop} {height : Height} {middle : World others} {rest : Trace},
      begun.stopping → (round options begun height).Ends middle (.ok (report, loop')) rest final →
      loop'.stopping ∧ rest = [] ∧ final = middle := by
    intro begun height middle rest stopping' ending
    cases round_cases ending with
    | stopped _ same =>
        cases same
        exact ⟨stopping', rfl, rfl⟩
    | broken going => simp [going] at stopping'
    | unconnected going => simp [going] at stopping'
    | unheard going => simp [going] at stopping'
    | opened going => simp [going] at stopping'
  cases tick_cases ending with
  | known _ going =>
      obtain ⟨stopping', rfl, rfl⟩ := rounding stopping going
      exact ⟨stopping', rfl, rfl, rfl, rfl, List.forall_mem_nil _⟩
  | resumed _ resume going =>
      obtain ⟨stopping', resting⟩ := resume_of_stopping discreet kept stopping resume
      obtain ⟨stopping'', rfl, rfl⟩ := rounding stopping' going
      rw [List.append_nil]
      exact ⟨stopping'', resting⟩
  | unresumed _ resume failing =>
      obtain ⟨stopping', resting⟩ := resume_of_stopping discreet kept stopping resume
      obtain ⟨_, _, same, reports, _, kept', rfl⟩ := failed_ends failing
      cases same
      refine ⟨kept'.trans stopping', resting.chain, resting.agent, resting.clock, resting.tables, ?_⟩
      refine List.forall_mem_append.mpr ⟨resting.reading, ?_⟩
      cases reports with
      | told => simp [Note.isOutside]
      | silent => exact List.forall_mem_nil _

theorem Onward.stopping {outside : World others → World others → Prop}
    (onward : Onward options outside world loop trace final loop') (stopping : loop.stopping) :
    loop'.stopping ∧ ∀ note ∈ trace, note.isOutside ∨
      ∃ succeeded, note = .recorded (.progress options.progressId) succeeded := by
  induction onward with
  | here => exact ⟨stopping, List.forall_mem_nil _⟩
  | resume _ resumed ih =>
      obtain ⟨stopping', resting⟩ := resume_of_stopping discreet kept ih.1 resumed
      exact ⟨stopping', List.forall_mem_append.mpr ⟨ih.2, resting.reading⟩⟩
  | tick _ ticked ih =>
      obtain ⟨stopping', resting⟩ := tick_of_stopping discreet kept ih.1 ticked
      exact ⟨stopping', List.forall_mem_append.mpr ⟨ih.2, resting.reading⟩⟩
  | stop _ ih => exact ⟨rfl, ih.2⟩
  | meanwhile _ _ ih => exact ih

omit discreet kept in
theorem Onward.run {outside : World others → World others → Prop} {start : World others}
    {before : Trace} (run : Run options outside start before world loop)
    (onward : Onward options outside world loop trace final loop') :
    Run options outside start (before ++ trace) final loop' := by
  induction onward with
  | here => rwa [List.append_nil]
  | resume _ resumed ih =>
      rw [← List.append_assoc]
      exact ih.resume resumed
  | tick _ ticked ih =>
      rw [← List.append_assoc]
      exact ih.tick ticked
  | stop _ ih => exact ih.stop
  | meanwhile _ done ih => exact ih.meanwhile done

end Resting

/-- Stopping is safe in what came of a round. -/
structure StopSafe (tables : others.Store → Ledger.Tables) (options : FollowOptions)
    (outside : World others → World others → Prop) (loop : Loop) (world : World others)
    (trace : Trace) (final : World others) (report : Except Fault Summary) (loop' : Loop) :
    Prop where
  foreshadows : Foreshadows (loop.unasked.tick options) world report loop' trace final
  halted : loop'.stopping → Halted options loop world trace final report
  accounted : loop'.stopping → SavedOrFailed options trace report
  stored : tables final.store = (tables world.store).replay trace.operations
  agrees : Agrees tables options final loop'
  /-- Whatever becomes of the loop later, no round of it does anything but read progress. -/
  afterwards : loop'.stopping → ∀ {more : Trace} {later : World others} {idle : Loop},
    Onward options outside final loop' more later idle →
    idle.stopping ∧ Agrees tables options later idle ∧
      (∀ note ∈ more, note.isOutside ∨
        ∃ succeeded, note = .recorded (.progress options.progressId) succeeded) ∧
      ∃ result rest last, (idle.tick options).Ends later (.ok result) rest last ∧
        Resting tables options later rest last

/-- However often and whenever a loop is asked to stop, it is safe in every round of every run in
which no one else writes progress, whatever the node answers and whatever fails. -/
theorem Run.stop_safe (discreet : others.Discreet) {tables : others.Store → Ledger.Tables}
    (kept : others.books.KeptIn tables) (starts : options.startHeight.IsNatural)
    {outside : World others → World others → Prop} {start world final : World others}
    {earlier trace : Trace} {loop : Loop} {result : Except Fault (Except Fault Summary × Loop)}
    (begins : ∀ last, (tables start.store).progressOf? options.progressId = some last →
      last.IsNatural)
    (untouched : ∀ world world', outside world world' →
      (tables world'.store).progressOf? options.progressId =
        (tables world.store).progressOf? options.progressId)
    (run : Run options outside start earlier world loop)
    (ticked : (loop.tick options).Ends world result trace final) :
    ∃ report loop', result = .ok (report, loop') ∧
      StopSafe tables options outside loop world trace final report loop' := by
  obtain ⟨report, loop', rfl⟩ := tick_reports ticked
  refine ⟨report, loop', rfl, ?_⟩
  constructor
  case foreshadows => exact tick_foreshadows ticked
  case halted => exact tick_halts discreet kept ticked
  case accounted =>
    exact fun stopping => (tick_halts discreet kept ticked stopping).accounted discreet kept
  case stored =>
    exact tick_keeps (between_replays discreet kept).around
      (fun _ _ _ _ _ passed => process_replays discreet kept passed) loop ticked
  case agrees => exact (run.tick ticked).agrees discreet kept starts begins untouched
  case afterwards =>
    intro stopping more later idle onward
    obtain ⟨stopping', reading⟩ := onward.stopping discreet kept stopping
    have agrees := (onward.run (run.tick ticked)).agrees discreet kept starts begins untouched
    have ending := (idle.tick options).ends later
    obtain ⟨_, after, same⟩ := tick_reports ending
    rw [same] at ending
    exact ⟨stopping', agrees, reading, _, _, _, ending,
      (tick_of_stopping discreet kept stopping' ending).2⟩

/-- A world of three blocks, the first of which makes a proposal, where the loop is asked to stop while
the commit of that block is fetched. -/
def interruptedWorld : World Collaborators.inMemory :=
  World.inMemory
    { head := .ofNat 4
      blocks := [Chain.blockOf 1 [.making "7"]]
      commits := [(.ofNat 1, [Chain.signedBy "AA01"])]
      accounts := [("AA01", .number (.ofNat 11))]
      watched := some ("commit:1", 1) } {}

/-- What a round of a new loop comes to there. -/
def interruptedRound : Completion (World Collaborators.inMemory) (Except Fault Summary × Loop) :=
  ({} : Loop).tick (optionsFrom 1) interruptedWorld

/-- The height in flight is saved with its vote, and it is the only one that is begun. -/
theorem Run.stop_safe_in_interruptedWorld :
    interruptedRound.result.toOption.any
        (fun (report, loop) => loop.stopping && report.toOption.any (·.processed = 1)) ∧
      interruptedRound.trace.saved "follow" = [.ofNat 1] ∧
      interruptedRound.state.store.ledger.proposalVotes.length = 1 ∧
      ∃ report loop', interruptedRound.result = .ok (report, loop') ∧
        StopSafe Ledger.Refusing.ledger (optionsFrom 1) (fun _ _ => False) {} interruptedWorld
          interruptedRound.trace interruptedRound.state report loop' := by
  refine ⟨by decide +kernel, by decide +kernel, by decide +kernel, ?_⟩
  have run : Run (optionsFrom 1) (fun _ _ => False) interruptedWorld [] interruptedWorld {} := .begin
  have starts : (optionsFrom 1).startHeight.IsNatural :=
    Number.isNatural_ofNat (show 1 ≤ Number.safeBound by decide)
  have unsaved : interruptedWorld.store.ledger.progressOf? "follow" = none := by decide +kernel
  exact run.stop_safe Collaborators.discreet_inMemory Collaborators.keptIn_inMemory starts
    (fun _ found => nomatch unsaved.symm.trans found) (fun _ _ impossible => impossible.elim)
    (ends (({} : Loop).tick (optionsFrom 1)) interruptedWorld)

end Loop

end RollCall
