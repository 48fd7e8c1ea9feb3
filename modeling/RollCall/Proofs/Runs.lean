import Mathlib.Logic.Function.Iterate
import RollCall.Proofs.Passes
import RollCall.Proofs.Rounds

/-!
# Whole runs

A run is a sequence of rounds of one loop after another on the same ledger, with stops, restarts and
whatever others do in between. An invariant of runs speaks of what was noted, of the world and of the
height that comes next. It is enough that it is kept between passes and by each pass.
-/

set_option autoImplicit false

namespace RollCall

open Call

namespace Trace

/-- The heads that the node told, in order. -/
def heads (trace : Trace) : List Height :=
  trace.filterMap fun
    | .answered .status status => some status.latest
    | _ => none

/-- The head that the node told last. -/
def reported? (trace : Trace) : Option Height :=
  trace.heads.getLast?

theorem heads_append (trace more : Trace) : Trace.heads (trace ++ more) = trace.heads ++ more.heads :=
  List.filterMap_append

theorem mem_heads {trace : Trace} {head : Height} :
    head ∈ trace.heads ↔ ∃ status, .answered .status status ∈ trace ∧ status.latest = head := by
  constructor
  · intro member
    obtain ⟨note, noted, same⟩ := List.mem_filterMap.mp member
    split at same
    · exact ⟨_, noted, Option.some_inj.mp same⟩
    · cases same
  · rintro ⟨status, noted, rfl⟩
    exact List.mem_filterMap.mpr ⟨_, noted, rfl⟩

theorem reported?_append_of_none {trace more : Trace}
    (none : ∀ status, .answered .status status ∉ more) :
    Trace.reported? (trace ++ more) = trace.reported? := by
  have silent : more.heads = [] := by
    refine List.eq_nil_iff_forall_not_mem.mpr fun head member => ?_
    obtain ⟨status, noted, _⟩ := mem_heads.mp member
    exact none status noted
  rw [reported?, heads_append, silent, List.append_nil]
  rfl

theorem reported?_append_status (trace : Trace) (status : Chain.Status) :
    Trace.reported? (trace ++ [.answered .status status]) = some status.latest := by
  rw [reported?, heads_append]
  exact List.getLast?_concat

end Trace

namespace Loop

variable {others : Collaborators}

/-- What was noted in a run, the world it has come to, and its loop. -/
inductive Run (options : FollowOptions) (outside : World others → World others → Prop)
    (start : World others) : Trace → World others → Loop → Prop where
  | begin : Run options outside start [] start {}
  | resume {trace more : Trace} {world final : World others} {loop loop' : Loop}
      {point : Except Fault Height} (run : Run options outside start trace world loop)
      (resumed : (loop.resume options).Ends world (.ok (point, loop')) more final) :
      Run options outside start (trace ++ more) final loop'
  | tick {trace more : Trace} {world final : World others} {loop loop' : Loop}
      {report : Except Fault Summary} (run : Run options outside start trace world loop)
      (ticked : (loop.tick options).Ends world (.ok (report, loop')) more final) :
      Run options outside start (trace ++ more) final loop'
  | stop {trace : Trace} {world : World others} {loop : Loop}
      (run : Run options outside start trace world loop) :
      Run options outside start trace world { loop with stopping := true }
  | restart {trace : Trace} {world : World others} {loop : Loop}
      (run : Run options outside start trace world loop) :
      Run options outside start trace world.reconnected {}
  /-- Others do something. -/
  | meanwhile {trace : Trace} {world world' : World others} {loop : Loop}
      (run : Run options outside start trace world loop) (done : outside world world') :
      Run options outside start trace world' loop

/-!
## What is kept between passes
-/

/-- A relation that is kept by everything that a round does besides its passes. -/
structure Between (options : FollowOptions) (R : World others → Trace → World others → Prop) :
    Prop where
  chaining : Chaining R
  log : ∀ line world, R world [.logged line] world
  connect : Keeps R World.connect
  wait : ∀ pause, Keeps R (World.wait pause)
  status : Keeps R (World.ask .status)
  progress : Keeps R (World.record (.progress options.progressId))

/-- What a round says of a fault, if anything, is no more than a line. -/
theorem Between.reports {options : FollowOptions} {R : World others → Trace → World others → Prop}
    (between : Between options R) {head : Option Height} {height : Height} {fault : Fault}
    {report : Except Fault Summary} {trace : Trace} (reports : Reports head height fault report trace)
    (world : World others) : R world trace world := by
  cases reports with
  | told => exact between.log _ world
  | silent => exact between.chaining.refl world

theorem Between.around {options : FollowOptions} {R : World others → Trace → World others → Prop}
    (between : Between options R) : Around (Keeping R) options where
  closed := closed_keeping between.chaining
  log _ _ _ _ := Keeps.note (between.log _)
  connect := between.connect
  wait := between.wait
  status := between.status
  progress := between.progress

/-- What every pass of a run keeps, and what is kept between passes, the run keeps. -/
theorem Run.keeps {options : FollowOptions} {R : World others → Trace → World others → Prop}
    (between : Between options R)
    (passes : ∀ height, Keeps R (process options height))
    {outside : World others → World others → Prop}
    (restarts : ∀ world, R world [] world.reconnected)
    (undisturbed : ∀ world world', outside world world' → R world [] world')
    {start world : World others} {trace : Trace} {loop : Loop}
    (run : Run options outside start trace world loop) : R start trace world := by
  induction run with
  | begin => exact between.chaining.refl _
  | resume _ resumed ih => exact between.chaining.trans ih (resume_keeps between.around _ resumed)
  | tick _ ticked ih => exact between.chaining.trans ih (tick_keeps between.around passes _ ticked)
  | stop _ ih => exact ih
  | restart _ ih => simpa using between.chaining.trans ih (restarts _)
  | meanwhile _ done ih => simpa using between.chaining.trans ih (undisturbed _ _ done)

theorem Between.mono {options : FollowOptions} {R S : World others → Trace → World others → Prop}
    (between : Between options R) (chaining : Chaining S)
    (weaker : ∀ {world trace final}, R world trace final → S world trace final) :
    Between options S where
  chaining := chaining
  log line world := weaker (between.log line world)
  connect := between.connect.mono weaker
  wait pause := (between.wait pause).mono weaker
  status := between.status.mono weaker
  progress := between.progress.mono weaker

end Loop

/-- Whether a note is one that a round takes besides its passes. -/
def Note.IsIdle (options : FollowOptions) : Note → Prop
  | .asked question => question = .status
  | .answered question _ => question = .status
  | .recorded operation _ => operation = .progress options.progressId
  | .consulted _ => False
  | .dispatched .. => False
  | .reconciled _ => False
  | _ => True

theorem Note.idle_of_outside {options : FollowOptions} {note : Note} (outside : note.isOutside) :
    note.IsIdle options := by
  cases note with
  | logged | requested | executed => trivial
  | _ => cases outside

theorem Note.unsaved_of_idle {options : FollowOptions} {note : Note} (idle : note.IsIdle options) :
    ¬ note.IsSave := by
  cases note with
  | recorded operation succeeded =>
      cases idle
      cases succeeded <;> exact id
  | _ => exact id

theorem Trace.operations_of_idle {options : FollowOptions} {trace : Trace}
    (idle : ∀ note ∈ trace, note.IsIdle options) :
    ∀ operation ∈ trace.operations, operation = .progress options.progressId :=
  fun _ member => idle _ (Trace.mem_operations member)

theorem Trace.replay_of_idle {options : FollowOptions} {trace : Trace}
    (idle : ∀ note ∈ trace, note.IsIdle options) (start : Ledger.Tables) :
    start.replay trace.operations = start := by
  have each := Trace.operations_of_idle idle
  generalize trace.operations = operations at each
  induction operations with
  | nil => rfl
  | cons operation rest ih =>
      obtain rfl := each operation List.mem_cons_self
      exact ih fun other member => each other (List.mem_cons_of_mem _ member)

namespace Loop

variable {others : Collaborators}

/-- Between passes the tables stay as they are. -/
def Idle (tables : others.Store → Ledger.Tables) (options : FollowOptions) (world : World others)
    (trace : Trace) (final : World others) : Prop :=
  tables final.store = tables world.store ∧ ∀ note ∈ trace, note.IsIdle options

theorem idle_chaining {options : FollowOptions} (tables : others.Store → Ledger.Tables) :
    Chaining (Idle tables options) where
  refl _ := ⟨rfl, by simp⟩
  trans first second :=
    ⟨second.1.trans first.1, List.forall_mem_append.mpr ⟨first.2, second.2⟩⟩

theorem between_idle {options : FollowOptions} (discreet : others.Discreet)
    {tables : others.Store → Ledger.Tables} (kept : others.books.KeptIn tables) :
    Between options (Idle tables options) := by
  have parts := World.parts_noting discreet kept (Note.IsIdle options)
    (· = .progress options.progressId) (· = .status) (fun _ => Note.idle_of_outside)
    (fun _ same _ => same) (fun _ same => ⟨same, fun _ => same⟩)
  constructor
  case chaining => exact idle_chaining tables
  case log => exact fun line world => ⟨rfl, by simp [Note.IsIdle]⟩
  case connect =>
    intro world result trace final ending
    obtain ⟨same, quiet⟩ := World.connect_ends discreet ending
    exact ⟨by rw [same], fun note member => Note.idle_of_outside (quiet note member)⟩
  case wait =>
    intro pause world result trace final ending
    obtain ⟨same, quiet⟩ := World.wait_ends discreet ending
    exact ⟨by rw [same], fun note member => Note.idle_of_outside (quiet note member)⟩
  case status =>
    intro world result trace final ending
    exact ⟨by rw [(World.ask_ends discreet ending).1], parts.ask _ rfl ending⟩
  case progress =>
    intro world result trace final ending
    refine ⟨?_, parts.record _ rfl ending⟩
    obtain ⟨_, _, ⟨_, same, _⟩ | ⟨_, same, _⟩⟩ := World.record_ends discreet kept ending
    · exact same
    · exact same

/-- A round is not told the head. -/
inductive Thwarted (options : FollowOptions) (world : World others) : Prop where
  | resuming {fault : Fault} {trace : Trace} {final : World others}
      (failed : (World.record (.progress options.progressId)).Ends world (.error fault) trace final)
  | connecting {result : Except Fault Bool} {trace : Trace} {final : World others}
      (ended : World.connect.Ends world result trace final) (failed : result ≠ .ok true)
  | asking {fault : Fault} {trace : Trace} {final : World others}
      (failed : (World.ask .status).Ends world (.error fault) trace final)

/-- An invariant `Inv` of runs: it is kept between passes, where `R` holds, and by each pass. A pass
that fails leaves its height `Stuck`. Only runs all of whose notes are `fair` are spoken of. -/
structure Invariant (options : FollowOptions) (R : World others → Trace → World others → Prop)
    (fair : Note → Prop) (Stuck : Height → Prop) (Inv : Trace → World others → Height → Prop) :
    Prop where
  between : Between options R
  resumes : ∀ {trace more : Trace} {world final : World others} {height : Height}
    {last : Option Height}, Inv trace world height →
    (World.record (.progress options.progressId)).Ends world (.ok last) more final →
    firstUndone options last = height
  idle : ∀ {trace more : Trace} {world final : World others} {height : Height},
    Inv trace world height → R world more final → (∀ note ∈ trace ++ more, fair note) →
    Inv (trace ++ more) final height
  pass : ∀ {trace more : Trace} {world final : World others} {height head : Height},
    Inv trace world height → trace.reported? = some head → height.below head →
    (process options height).Ends world (.ok ()) more final →
    (∀ note ∈ trace ++ more, fair note) → Inv (trace ++ more) final (height + 1)
  failure : ∀ {trace more : Trace} {world final : World others} {height head : Height}
    {fault : Fault}, Inv trace world height → trace.reported? = some head → height.below head →
    (process options height).Ends world (.error fault) more final →
    (∀ note ∈ trace ++ more, fair note) → Inv (trace ++ more) final height ∧ Stuck height

variable {options : FollowOptions} {loop : Loop} {world final : World others} {trace : Trace}

/-- What is noted in rounds one after the other, each of a new loop, and the world after them. -/
def roundsAnew (options : FollowOptions) (start : World others) : Nat → Trace × World others
  | 0 => ([], start)
  | count + 1 =>
      let (trace, world) := roundsAnew options start count
      let ended := (({} : Loop).tick options) world
      (trace ++ ended.trace, ended.state.reconnected)

theorem run_roundsAnew (options : FollowOptions) (outside : World others → World others → Prop)
    (start : World others) (count : Nat) :
    Run options outside start (roundsAnew options start count).1
      (roundsAnew options start count).2 {} := by
  induction count with
  | zero => exact .begin
  | succ count ih =>
      have ending := (({} : Loop).tick options).ends (roundsAnew options start count).2
      obtain ⟨report, loop', same⟩ := tick_reports ending
      rw [same] at ending
      exact (ih.tick ending).restart

/-!
## One round
-/

/-- A round is reported to have been told a head, and to have come to a height. -/
def Told (report : Except Fault Summary) (head : Option Height) (height : Height) : Prop :=
  ∀ summary, report = .ok summary → summary.head = head ∧ summary.height = height

/-- A round is reported to have ended without a fault. -/
def Sound (report : Except Fault Summary) : Prop :=
  ∃ summary, report = .ok summary ∧ summary.error = none

theorem Reports.tells {head : Option Height} {height : Height} {fault : Fault}
    {report : Except Fault Summary} {trace : Trace} (reports : Reports head height fault report trace) :
    Told report head height := by
  intro summary same
  cases reports with
  | told sameHead sameHeight =>
      cases same
      exact ⟨sameHead, sameHeight⟩
  | silent => cases same

theorem Reports.not_sound {head : Option Height} {height : Height} {fault : Fault}
    {report : Except Fault Summary} {trace : Trace} (reports : Reports head height fault report trace) :
    ¬ Sound report := by
  rintro ⟨summary, same, sound⟩
  cases reports with
  | told _ _ error =>
      cases same
      exact error sound
  | silent => cases same

/-- What catching up with a head from a height on comes to, after `count` of at most `limit`
passes. -/
structure CaughtUp (Stuck : Height → Prop) (Inv : Trace → World others → Height → Prop)
    (head height : Height) (limit count : Nat) (loop : Loop) (trace : Trace) (final : World others)
    (report : Except Fault Summary) (loop' : Loop) : Prop where
  holds : Inv trace final ((· + 1)^[count] height)
  next : loop'.next = some ((· + 1)^[count] height)
  told : Told report (some head) ((· + 1)^[count] height)
  within : count ≤ limit
  stopping : loop.stopping → loop'.stopping
  outcome : Sound report ∧
      (loop'.stopping ∨ ¬ ((· + 1)^[count] height).below head ∨ count = limit) ∨
    ¬ Sound report ∧ Stuck ((· + 1)^[count] height) ∧ ((· + 1)^[count] height).below head

section Invariants

variable {R : World others → Trace → World others → Prop} {fair : Note → Prop}
  {Stuck : Height → Prop} {Inv : Trace → World others → Height → Prop} {more : Trace}

private theorem caughtUp_of_ended {head height : Height} (left : Nat) {processed : Nat}
    {loop : Loop} {result : Except Fault (Except Fault Summary × Loop)} (holds : Inv trace world height)
    (next : loop.next = some height) (ending : (catchUp.ended head height processed loop).Ends world result more final)
    (why : loop.stopping ∨ ¬ height.below head ∨ 0 = left) :
    ∃ report loop' count, result = .ok (report, loop') ∧
      CaughtUp Stuck Inv head height left count loop (trace ++ more) final report loop' := by
  obtain ⟨rfl, rfl, rfl⟩ := ends_pure.mp ending
  rw [List.append_nil]
  refine ⟨_, _, 0, rfl, holds, next, ?_, Nat.zero_le _, id, .inl ⟨⟨_, rfl, rfl⟩, why⟩⟩
  rintro summary ⟨⟩
  exact ⟨rfl, rfl⟩

variable (discreet : others.Discreet) {tables : others.Store → Ledger.Tables}
  (kept : others.books.KeptIn tables)

include discreet kept

private theorem status_not_of_pass {height : Height} {result : Except Fault Unit}
    (ending : (process options height).Ends world result trace final) (status : Chain.Status) :
    .answered .status status ∉ trace := by
  intro member
  rcases process_notes discreet kept ending _ member with impossible | impossible
  · cases impossible
  · exact impossible

variable (invariant : Invariant options R fair Stuck Inv)

include invariant

theorem Invariant.catchUp_ends {head height : Height} {left processed : Nat} {loop : Loop}
    {result : Except Fault (Except Fault Summary × Loop)} (holds : Inv trace world height)
    (told : trace.reported? = some head) (next : loop.next = some height)
    (ending : (catchUp options head left height processed loop).Ends world result more final)
    (allFair : ∀ note ∈ trace ++ more, fair note) :
    ∃ report loop' count, result = .ok (report, loop') ∧
      CaughtUp Stuck Inv head height left count loop (trace ++ more) final report loop' := by
  -- By induction on the heights that are left: a pass that fails ends the round, and one that
  -- succeeds puts the loop in front of the next height.
  induction left generalizing height processed loop trace more world with
  | zero => exact caughtUp_of_ended 0 holds next ending (.inr (.inr rfl))
  | succ left ih =>
      have waits : ∀ {waited : Except Fault Unit} {first : Trace} {middle : World others},
          (World.wait .beforeHeight).Ends world waited first middle →
          (∀ note ∈ trace ++ first, fair note) →
          Inv (trace ++ first) middle height ∧ Trace.reported? (trace ++ first) = some head := by
        intro waited first middle wait fair'
        refine ⟨invariant.idle holds (invariant.between.wait _ wait) fair', ?_⟩
        rw [Trace.reported?_append_of_none, told]
        intro status member
        have outside := (World.wait_ends discreet wait).2 _ member
        cases outside
      cases catchUp_cases ending with
      | ended reason ended =>
          exact caughtUp_of_ended (left + 1) holds next ended (reason.imp_right .inl)
      | paused _ _ wait _ ended =>
          rw [← List.append_assoc] at allFair ⊢
          obtain ⟨holds', _⟩ := waits wait fun note member =>
            allFair note (List.mem_append_left _ member)
          obtain ⟨report, loop', count, rfl, caught⟩ :=
            caughtUp_of_ended (left + 1) holds' (by exact next) ended (.inl (by simp [heeding]))
          exact ⟨report, loop', count, rfl,
            { caught with stopping := fun _ => caught.stopping (by simp [heeding]) }⟩
      | failed _ below wait _ pass failing =>
          rw [← List.append_assoc, ← List.append_assoc] at allFair ⊢
          have fair' := fun note member => allFair note (List.mem_append_left _ member)
          obtain ⟨holds', told'⟩ := waits wait fun note member =>
            fair' note (List.mem_append_left _ member)
          obtain ⟨holds'', stuck⟩ := invariant.failure holds' told' below pass fair'
          obtain ⟨report, loop', rfl, reports, next', stopping, rfl⟩ := failed_ends failing
          refine ⟨report, loop', 0, rfl,
            invariant.idle holds'' (invariant.between.reports reports _) allFair, next'.trans next,
            reports.tells, Nat.zero_le _, fun stopped => ?_, .inr ⟨reports.not_sound, stuck, below⟩⟩
          rw [stopping]
          simp [heeding, stopped]
      | onward _ below wait _ pass onward =>
          rw [← List.append_assoc, ← List.append_assoc] at allFair ⊢
          have fair' := fun note member => allFair note (List.mem_append_left _ member)
          obtain ⟨holds', told'⟩ := waits wait fun note member =>
            fair' note (List.mem_append_left _ member)
          have holds'' := invariant.pass holds' told' below pass fair'
          have told'' := (Trace.reported?_append_of_none (status_not_of_pass discreet kept pass)).trans
            told'
          obtain ⟨report, loop', count, rfl, caught⟩ := ih holds'' told'' rfl onward allFair
          exact ⟨report, loop', count + 1, rfl, caught.holds, caught.next, caught.told,
            Nat.succ_le_succ caught.within,
            fun stopped => caught.stopping (by simp [heeding, stopped]),
            caught.outcome.imp_left (And.imp_right (Or.imp_right (Or.imp_right (congrArg _))))⟩

/-- A round that is not told the head leaves everything where it was. -/
structure Unmoved (options : FollowOptions) (R : World others → Trace → World others → Prop)
    (Inv : Trace → World others → Height → Prop) (height : Height) (trace : Trace)
    (world final : World others) (report : Except Fault Summary) (loop' : Loop) : Prop where
  holds : Inv trace final height
  next : ∀ known, loop'.next = some known → known = height
  untold : ∀ summary, report = .ok summary → summary.head = none
  reason : Sound report ∧ loop'.stopping ∨
    ∃ before between, R world before between ∧ Thwarted options between

theorem Invariant.round_ends {height : Height} {loop : Loop}
    {result : Except Fault (Except Fault Summary × Loop)} (holds : Inv trace world height)
    (next : loop.next = some height)
    (ending : (round options loop height).Ends world result more final)
    (allFair : ∀ note ∈ trace ++ more, fair note) :
    ∃ report loop', result = .ok (report, loop') ∧
      ((∃ head count, CaughtUp Stuck Inv head height heightBound count loop (trace ++ more) final
        report loop') ∨
      Unmoved options R Inv height (trace ++ more) world final report loop') := by
  have known : ∀ {loop' : Loop}, loop'.next = loop.next → ∀ known, loop'.next = some known →
      known = height := by
    intro loop' same known found
    rw [same, next] at found
    exact (Option.some_inj.mp found).symm
  have between := invariant.between
  cases round_cases ending with
  | stopped stopping same =>
      cases same
      rw [List.append_nil]
      refine ⟨_, _, rfl, .inr ⟨holds, known rfl, ?_, .inl ⟨⟨_, rfl, rfl⟩, stopping⟩⟩⟩
      rintro summary ⟨⟩
      rfl
  | broken _ connect same =>
      subst same
      refine ⟨_, _, rfl, .inr ⟨invariant.idle holds (between.connect connect) allFair, known rfl, ?_,
        .inr ⟨[], world, between.chaining.refl world, .connecting connect (by simp)⟩⟩⟩
      rintro summary ⟨⟩
  | unconnected _ connect failing =>
      rw [← List.append_assoc] at allFair ⊢
      have holds' := invariant.idle holds (between.connect connect) fun note member =>
        allFair note (List.mem_append_left _ member)
      obtain ⟨report, loop', rfl, reports, next', _, rfl⟩ := failed_ends failing
      exact ⟨report, loop', rfl, .inr ⟨invariant.idle holds' (between.reports reports _) allFair,
        known next', fun summary same => (reports.tells summary same).1,
        .inr ⟨[], world, between.chaining.refl world, .connecting connect (by simp)⟩⟩⟩
  | unheard _ connect ask failing =>
      rw [← List.append_assoc, ← List.append_assoc] at allFair ⊢
      have fair' := fun note member => allFair note (List.mem_append_left _ member)
      have holds' := invariant.idle holds (between.connect connect) fun note member =>
        fair' note (List.mem_append_left _ member)
      have holds'' := invariant.idle holds' (between.status ask) fair'
      obtain ⟨report, loop', rfl, reports, next', _, rfl⟩ := failed_ends failing
      exact ⟨report, loop', rfl, .inr ⟨invariant.idle holds'' (between.reports reports _) allFair,
        known next', fun summary same => (reports.tells summary same).1,
        .inr ⟨_, _, between.connect connect, .asking ask⟩⟩⟩
  | @opened status first second _ _ _ _ _ connect ask onward =>
      rw [← List.append_assoc, ← List.append_assoc] at allFair ⊢
      have fair' := fun note member => allFair note (List.mem_append_left _ member)
      have holds' := invariant.idle holds (between.connect connect) fun note member =>
        fair' note (List.mem_append_left _ member)
      have holds'' := invariant.idle holds' (between.status ask) fair'
      obtain ⟨_, quiet, _, ⟨_, same, asked⟩ | ⟨⟨_, impossible⟩, _⟩⟩ := World.ask_ends discreet ask
      · cases same
        have reported : Trace.reported? (trace ++ first ++ second) = some status.latest := by
          rw [asked, ← List.append_assoc, Trace.reported?_append_status]
        obtain ⟨report, loop', count, rfl, caught⟩ :=
          invariant.catchUp_ends discreet kept holds'' reported (by exact next) onward allFair
        exact ⟨report, loop', rfl, .inl ⟨_, count,
          { caught with stopping := fun stopped => caught.stopping (by simp [heeding, stopped]) }⟩⟩
      · cases impossible

omit discreet kept in
theorem Invariant.resumePoint_ends {height : Height} {result : Except Fault Height}
    (holds : Inv trace world height)
    (ending : (resumePoint options).Ends world result more final)
    (allFair : ∀ note ∈ trace ++ more, fair note) :
    R world more final ∧ Inv (trace ++ more) final height ∧
      (result = .ok height ∨ (∃ fault, result = .error fault) ∧ Thwarted options world) := by
  have between := invariant.between
  rcases resumePoint_reads ending with ⟨fault, rfl, failed⟩ | ⟨last, reading, line, read, rfl, rfl⟩
  · have kept := between.progress failed
    exact ⟨kept, invariant.idle holds kept allFair, .inr ⟨⟨fault, rfl⟩, .resuming failed⟩⟩
  · have whole := between.chaining.trans (between.progress read) (between.log line _)
    exact ⟨whole, invariant.idle holds whole allFair, .inl (by rw [invariant.resumes holds read])⟩

omit discreet kept in
theorem Invariant.resume_ends {height : Height} {loop : Loop}
    {result : Except Fault (Except Fault Height × Loop)} (holds : Inv trace world height)
    (ending : (loop.resume options).Ends world result more final)
    (allFair : ∀ note ∈ trace ++ more, fair note) :
    ∃ point loop', result = .ok (point, loop') ∧ R world more final ∧
      Inv (trace ++ more) final height ∧ (loop.stopping → loop'.stopping) ∧
      (point = .ok height ∧ loop'.next = some height ∨
        (∃ fault, point = .error fault) ∧ loop'.next = loop.next ∧ Thwarted options world) := by
  obtain ⟨point, read, rfl⟩ := resume_cases ending
  obtain ⟨between, holds', rfl | ⟨⟨fault, rfl⟩, thwarted⟩⟩ :=
    invariant.resumePoint_ends holds read allFair
  · exact ⟨_, _, rfl, between, holds', fun stopped => by simp [stopped], .inl ⟨rfl, rfl⟩⟩
  · exact ⟨_, _, rfl, between, holds', fun stopped => by simp [stopped],
      .inr ⟨⟨fault, rfl⟩, rfl, thwarted⟩⟩

/-- A round catches up with a head, or leaves everything where it was. -/
theorem Invariant.tick_ends {height : Height} {loop : Loop}
    {result : Except Fault (Except Fault Summary × Loop)} (holds : Inv trace world height)
    (next : ∀ known, loop.next = some known → known = height)
    (ending : (loop.tick options).Ends world result more final)
    (allFair : ∀ note ∈ trace ++ more, fair note) :
    ∃ report loop', result = .ok (report, loop') ∧
      ((∃ head count, CaughtUp Stuck Inv head height heightBound count loop (trace ++ more) final
        report loop') ∨
      Unmoved options R Inv height (trace ++ more) world final report loop') := by
  cases tick_cases ending with
  | known position going =>
      cases next _ position
      exact invariant.round_ends discreet kept holds position going allFair
  | resumed _ resume going =>
      rw [← List.append_assoc] at allFair ⊢
      obtain ⟨_, _, same, between, holds', stopping, ⟨same', next'⟩ | ⟨⟨_, impossible⟩, _⟩⟩ :=
        invariant.resume_ends holds resume fun note member =>
          allFair note (List.mem_append_left _ member)
      · cases same
        cases same'
        obtain ⟨report, loop', rfl, ⟨head, count, caught⟩ | unmoved⟩ :=
          invariant.round_ends discreet kept holds' next' going allFair
        · exact ⟨report, loop', rfl, .inl ⟨head, count,
            { caught with stopping := fun stopped => caught.stopping (stopping stopped) }⟩⟩
        · refine ⟨report, loop', rfl, .inr { unmoved with reason := ?_ }⟩
          refine unmoved.reason.imp_right ?_
          rintro ⟨before, between', later, thwarted⟩
          exact ⟨_ ++ before, between', invariant.between.chaining.trans between later, thwarted⟩
      · cases same
        cases impossible
  | unresumed position resume failing =>
      rw [← List.append_assoc] at allFair ⊢
      obtain ⟨_, _, same, between, holds', _, ⟨impossible, _⟩ | ⟨_, next', thwarted⟩⟩ :=
        invariant.resume_ends holds resume fun note member =>
          allFair note (List.mem_append_left _ member)
      · cases same
        cases impossible
      · cases same
        obtain ⟨report, loop', rfl, reports, next'', _, rfl⟩ := failed_ends failing
        refine ⟨report, loop', rfl, .inr
          ⟨invariant.idle holds' (invariant.between.reports reports _) allFair, ?_,
            fun summary same => (reports.tells summary same).1,
            .inr ⟨[], world, invariant.between.chaining.refl world, thwarted⟩⟩⟩
        intro known found
        rw [next'', next', position] at found
        cases found

/-!
## All rounds
-/

/-- What holds in the beginning holds in every run, at the height that the loop does next. -/
theorem Invariant.run_holds {outside : World others → World others → Prop} {start : World others}
    {height : Height} {loop : Loop}
    (begins : Inv [] start height) (restarts : ∀ world, R world [] world.reconnected)
    (undisturbed : ∀ world world', outside world world' → R world [] world')
    (run : Run options outside start trace world loop) (allFair : ∀ note ∈ trace, fair note) :
    ∃ height, Inv trace world height ∧ ∀ known, loop.next = some known → known = height := by
  have idly : ∀ {trace world world' height}, Inv trace world height → R world [] world' →
      (∀ note ∈ trace, fair note) → Inv trace world' height := by
    intro trace world world' height holds between allFair
    have holds' := invariant.idle holds between (by rwa [List.append_nil])
    rwa [List.append_nil] at holds'
  induction run with
  | begin => exact ⟨height, begins, fun known impossible => by cases impossible⟩
  | resume _ resumed ih =>
      obtain ⟨height, holds, next⟩ := ih fun note member =>
        allFair note (List.mem_append_left _ member)
      obtain ⟨_, _, same, _, holds', _, ⟨_, next'⟩ | ⟨_, next', _⟩⟩ :=
        invariant.resume_ends holds resumed allFair
      · cases same
        exact ⟨height, holds', fun known found => Option.some_inj.mp (found.symm.trans next')⟩
      · cases same
        exact ⟨height, holds', fun known found => next known (next'.symm.trans found)⟩
  | tick _ ticked ih =>
      obtain ⟨height, holds, next⟩ := ih fun note member =>
        allFair note (List.mem_append_left _ member)
      obtain ⟨report, loop', same, ⟨head, count, caught⟩ | unmoved⟩ :=
        invariant.tick_ends discreet kept holds next ticked allFair
      · cases same
        exact ⟨_, caught.holds, fun known found =>
          Option.some_inj.mp (found.symm.trans caught.next)⟩
      · cases same
        exact ⟨height, unmoved.holds, unmoved.next⟩
  | stop _ ih => exact ih allFair
  | restart _ ih =>
      obtain ⟨height, holds, _⟩ := ih allFair
      exact ⟨height, idly holds (restarts _) allFair, fun known impossible => by cases impossible⟩
  | meanwhile _ done ih =>
      obtain ⟨height, holds, next⟩ := ih allFair
      exact ⟨height, idly holds (undisturbed _ _ done) allFair, next⟩

end Invariants

theorem between_replays {options : FollowOptions} (discreet : others.Discreet)
    {tables : others.Store → Ledger.Tables} (kept : others.books.KeptIn tables) :
    Between options (Replays tables) :=
  (between_idle discreet kept).mono replays_chaining fun idle =>
    idle.1.trans (Trace.replay_of_idle idle.2 _).symm

end Loop

end RollCall
