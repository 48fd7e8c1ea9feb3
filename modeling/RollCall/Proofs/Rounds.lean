import RollCall.Follow
import RollCall.Proofs.Wording

/-!
# How a round goes

A round is a sequence of calls, in each of which the loop may be asked to stop. Each part of it is
taken apart once, into all the ways in which it can go: catching up at a height, a round at a height
that is known, and a round of any loop. Each of them returns a loop, with a summary or with the fault
of which there is none.
-/

set_option autoImplicit false

namespace RollCall.Loop

open Call

variable {others : Collaborators} {options : FollowOptions} {loop : Loop}
  {world final : World others} {trace : Trace}

/-!
## What the loop heeds
-/

theorem heed_ends {α : Type} {call : Call (World others) α}
    {result : Except Fault (Except Fault α × Loop)}
    (ending : (loop.heed call).Ends world result trace final) :
    ∃ inner, result =
        .ok (inner, { loop with stopping := loop.stopping || (call world).interrupted }) ∧
      call.Ends world inner trace final := by
  rcases ends_bind.mp ending with ⟨_, _, failed⟩ | ⟨⟨inner, interrupted⟩, _, _, _, watched, returned,
    rfl⟩
  · obtain ⟨_, impossible, _⟩ := ends_watch failed
    cases impossible
  · obtain ⟨_, same, called⟩ := ends_watch watched
    cases same
    obtain ⟨rfl, rfl, rfl⟩ := ends_pure.mp returned
    rw [List.append_nil]
    exact ⟨_, rfl, called⟩

/-- What follows a call that the loop heeds, and whether it was asked to stop in it. -/
theorem heed_bind_told {α β : Type} {call : Call (World others) α}
    {next : Except Fault α × Loop → Call (World others) β} {result : Except Fault β}
    (ending : (loop.heed call >>= next).Ends world result trace final) :
    ∃ inner middle first second, call.Ends world inner first middle ∧
      (next (inner, { loop with stopping := loop.stopping || (call world).interrupted })).Ends middle
        result second final ∧ trace = first ++ second := by
  rcases ends_bind.mp ending with ⟨_, _, failed⟩ | ⟨_, middle, first, second, heeded, continued, rfl⟩
  · obtain ⟨_, impossible, _⟩ := heed_ends failed
    cases impossible
  · obtain ⟨inner, same, called⟩ := heed_ends heeded
    cases same
    exact ⟨inner, middle, first, second, called, continued, rfl⟩

theorem heed_bind_ends {α β : Type} {call : Call (World others) α}
    {next : Except Fault α × Loop → Call (World others) β} {result : Except Fault β}
    (ending : (loop.heed call >>= next).Ends world result trace final) :
    ∃ inner interrupted middle first second, call.Ends world inner first middle ∧
      (next (inner, { loop with stopping := loop.stopping || interrupted })).Ends middle result second
        final ∧ trace = first ++ second := by
  obtain ⟨inner, middle, first, second, called, continued, rfl⟩ := heed_bind_told ending
  exact ⟨inner, _, middle, first, second, called, continued, rfl⟩

theorem resumePoint_reads {result : Except Fault Height}
    (ending : (resumePoint options).Ends world result trace final) :
    (∃ fault, result = .error fault ∧
      (World.record (.progress options.progressId)).Ends world (.error fault) trace final) ∨
    ∃ last reading line,
      (World.record (.progress options.progressId)).Ends world (.ok last) reading final ∧
      result = .ok (firstUndone options last) ∧ trace = reading ++ [.logged line] := by
  rcases ends_bind.mp ending with failed | ⟨last, middle, reading, rest, read, logging, rfl⟩
  · exact .inl failed
  · obtain ⟨_, returned, rfl⟩ := ends_log_bind.mp logging
    obtain ⟨rfl, rfl, rfl⟩ := ends_pure.mp returned
    exact .inr ⟨last, reading, _, read, rfl, rfl⟩

/-- What a round reports that ends in a fault at a height: an error, which it logs, or nothing if the
fault has no words. -/
inductive Reports (head : Option Height) (height : Height) (fault : Fault) :
    Except Fault Summary → Trace → Prop where
  | told {summary : Summary} {line : Log.Line} (sameHead : summary.head = head)
      (sameHeight : summary.height = height) (error : summary.error ≠ none) :
      Reports head height fault (.ok summary) [.logged line]
  | silent (wordless : fault.words? = none) : Reports head height fault (.error .wordless) []

/-- How a round ends in a fault. A permanent fault halts the loop, and the summary says so. -/
inductive Failed (loop : Loop) (fault : Fault) : Except Fault Summary → Loop → Prop where
  | halted {summary : Summary} (permanent : fault.isPermanent) (told : summary.permanent = true) :
      Failed loop fault (.ok summary) { loop with phase := .idle, haltedBy := some fault }
  | clear {summary : Summary} (clears : fault.isPermanent = false)
      (told : summary.permanent = false) :
      Failed loop fault (.ok summary) { loop with phase := .idle }
  | silent (silent : fault.words? = none) :
      Failed loop fault (.error .wordless) { loop with phase := .idle }

theorem failed_cases {processed : Nat} {head : Option Height} {height : Height} {fault : Fault}
    {result : Except Fault (Except Fault Summary × Loop)}
    (ending : (loop.failed processed head height fault).Ends world result trace final) :
    ∃ report loop', result = .ok (report, loop') ∧ Failed loop fault report loop' ∧
      Reports head height fault report trace ∧ final = world := by
  unfold failed at ending
  split at ending
  · next unreported =>
    obtain ⟨silent, rfl⟩ := Fault.message_eq_error_iff.mp unreported
    obtain ⟨rfl, rfl, rfl⟩ := ends_pure.mp ending
    exact ⟨_, _, rfl, .silent silent, .silent silent, rfl⟩
  · dsimp only at ending
    split at ending
    · next permanent =>
      obtain ⟨_, returned, rfl⟩ := ends_log_bind.mp ending
      obtain ⟨rfl, rfl, rfl⟩ := ends_pure.mp returned
      exact ⟨_, _, rfl, .halted permanent rfl, .told rfl rfl (by simp), rfl⟩
    · next clears =>
      obtain ⟨_, returned, rfl⟩ := ends_log_bind.mp ending
      obtain ⟨rfl, rfl, rfl⟩ := ends_pure.mp returned
      exact ⟨_, _, rfl, .clear (Bool.eq_false_iff.mpr clears) rfl, .told rfl rfl (by simp), rfl⟩

theorem failed_ends {processed : Nat} {head : Option Height} {height : Height} {fault : Fault}
    {result : Except Fault (Except Fault Summary × Loop)}
    (ending : (loop.failed processed head height fault).Ends world result trace final) :
    ∃ report loop', result = .ok (report, loop') ∧ Reports head height fault report trace ∧
      loop'.next = loop.next ∧ loop'.stopping = loop.stopping ∧ final = world := by
  obtain ⟨report, loop', rfl, failed, reports, rfl⟩ := failed_cases ending
  refine ⟨report, loop', rfl, reports, ?_, ?_, rfl⟩
  · cases failed <;> rfl
  · cases failed <;> rfl

/-!
## Catching up
-/

/-- The loop in a phase in which it may have been asked to stop. -/
def heeding (loop : Loop) (phase : Phase) (asked : Bool) : Loop :=
  { loop with phase, stopping := loop.stopping || asked }

/-- How catching up goes on at a height while more than `left` of them may be done. -/
inductive Proceeds (options : FollowOptions) (head height : Height) (left processed : Nat)
    (loop : Loop) (world : World others) (result : Except Fault (Except Fault Summary × Loop)) :
    Trace → World others → Prop where
  | ended {trace : Trace} {final : World others} (reason : loop.stopping ∨ ¬ height.below head)
      (ending : (catchUp.ended head height processed loop).Ends world result trace final) :
      Proceeds options head height left processed loop world result trace final
  | paused {waited : Except Fault Unit} {first rest : Trace} {middle final : World others}
      (going : loop.stopping = false) (below : height.below head)
      (wait : (World.wait .beforeHeight).Ends world waited first middle)
      (asked : (World.wait .beforeHeight world).interrupted = true)
      (ending : (catchUp.ended head height processed (loop.heeding .catchingUp true)).Ends middle
        result rest final) :
      Proceeds options head height left processed loop world result (first ++ rest) final
  | failed {waited : Except Fault Unit} {fault : Fault} {first second rest : Trace}
      {middle last final : World others} (going : loop.stopping = false) (below : height.below head)
      (wait : (World.wait .beforeHeight).Ends world waited first middle)
      (calm : (World.wait .beforeHeight world).interrupted = false)
      (pass : (process options height).Ends middle (.error fault) second last)
      (failing : ((loop.heeding .catchingUp (process options height middle).interrupted).failed
        processed (some head) height fault).Ends last result rest final) :
      Proceeds options head height left processed loop world result (first ++ (second ++ rest)) final
  | onward {waited : Except Fault Unit} {first second rest : Trace}
      {middle last final : World others} (going : loop.stopping = false) (below : height.below head)
      (wait : (World.wait .beforeHeight).Ends world waited first middle)
      (calm : (World.wait .beforeHeight world).interrupted = false)
      (pass : (process options height).Ends middle (.ok ()) second last)
      (onward : (catchUp options head left (height + 1) (processed + 1)
        { loop.heeding .catchingUp (process options height middle).interrupted with
          next := some (height + 1) }).Ends last result rest final) :
      Proceeds options head height left processed loop world result (first ++ (second ++ rest)) final

theorem catchUp_cases {head height : Height} {left processed : Nat}
    {result : Except Fault (Except Fault Summary × Loop)}
    (ending : (catchUp options head (left + 1) height processed loop).Ends world result trace final) :
    Proceeds options head height left processed loop world result trace final := by
  unfold catchUp at ending
  split at ending
  · next stop =>
    refine .ended ?_ ending
    rcases Bool.or_eq_true_iff.mp stop with stopping | beyond
    · exact .inl stopping
    · exact .inr (by simpa using beyond)
  next go =>
  obtain ⟨going, below⟩ : loop.stopping = false ∧ height.below head = true := by simpa using go
  obtain ⟨waited, middle, first, rest, wait, further, rfl⟩ := heed_bind_told ending
  dsimp only at further
  cases asked : (World.wait .beforeHeight world).interrupted with
  | true =>
      rw [asked, Bool.or_true, if_pos rfl] at further
      refine .paused going below wait asked ?_
      rw [heeding, Bool.or_true]
      exact further
  | false =>
      rw [asked, going, Bool.or_false, if_neg Bool.false_ne_true] at further
      obtain ⟨passed, last, second, rest', pass, onward, rfl⟩ := heed_bind_told further
      cases passed with
      | error fault =>
          refine .failed going below wait asked pass ?_
          rw [heeding, going]
          exact onward
      | ok _ =>
          refine .onward going below wait asked pass ?_
          rw [heeding, going]
          exact onward

theorem catchUp_of_ended {head height : Height} (left processed : Nat)
    (reason : loop.stopping ∨ ¬ height.below head) :
    (catchUp options head left height processed loop : Call (World others) _) =
      catchUp.ended head height processed loop := by
  cases left with
  | zero => rfl
  | succ left =>
      unfold catchUp
      exact if_pos (by simpa using reason)

theorem catchUp_reports {head height : Height} {left processed : Nat} {loop : Loop}
    {result : Except Fault (Except Fault Summary × Loop)}
    (ending : (catchUp options head left height processed loop).Ends world result trace final) :
    ∃ report loop', result = .ok (report, loop') := by
  induction left generalizing height processed loop trace world with
  | zero => exact ⟨_, _, (ends_pure.mp ending).1⟩
  | succ left ih =>
      cases catchUp_cases ending with
      | ended _ ended => exact ⟨_, _, (ends_pure.mp ended).1⟩
      | paused _ _ _ _ ended => exact ⟨_, _, (ends_pure.mp ended).1⟩
      | failed _ _ _ _ _ failing =>
          obtain ⟨report, loop', same, _⟩ := failed_ends failing
          exact ⟨report, loop', same⟩
      | onward _ _ _ _ _ onward => exact ih onward

/-!
## Rounds
-/

/-- How a round goes on at its height until the head is told. -/
inductive Opens (options : FollowOptions) (height : Height) (loop : Loop) (world : World others)
    (result : Except Fault (Except Fault Summary × Loop)) : Trace → World others → Prop where
  | stopped (stopping : loop.stopping)
      (same : result = .ok (.ok { processed := 0, head := none, height }, loop)) :
      Opens options height loop world result [] world
  | broken {fault : Fault} {trace : Trace} {final : World others} (going : loop.stopping = false)
      (connect : World.connect.Ends world (.error fault) trace final)
      (same : result =
        .ok (.error fault, loop.heeding .fetchingHead (World.connect world).interrupted)) :
      Opens options height loop world result trace final
  | unconnected {first rest : Trace} {middle final : World others} (going : loop.stopping = false)
      (connect : World.connect.Ends world (.ok false) first middle)
      (failing : ((loop.heeding .fetchingHead (World.connect world).interrupted).failed 0 none height
        (.other "chain connection unavailable")).Ends middle result rest final) :
      Opens options height loop world result (first ++ rest) final
  | unheard {fault : Fault} {first second rest : Trace} {middle last final : World others}
      (going : loop.stopping = false) (connect : World.connect.Ends world (.ok true) first middle)
      (ask : (World.ask .status).Ends middle (.error fault) second last)
      (failing : (((loop.heeding .fetchingHead (World.connect world).interrupted).heeding
        .fetchingHead (World.ask .status middle).interrupted).failed 0 none height fault).Ends last
          result rest final) :
      Opens options height loop world result (first ++ (second ++ rest)) final
  | opened {status : Chain.Status} {first second rest : Trace} {middle last final : World others}
      (going : loop.stopping = false) (connect : World.connect.Ends world (.ok true) first middle)
      (ask : (World.ask .status).Ends middle (.ok status) second last)
      (onward : (catchUp options status.latest heightBound height 0
        ((loop.heeding .fetchingHead (World.connect world).interrupted).heeding .fetchingHead
          (World.ask .status middle).interrupted)).Ends last result rest final) :
      Opens options height loop world result (first ++ (second ++ rest)) final

theorem round_cases {height : Height} {result : Except Fault (Except Fault Summary × Loop)}
    (ending : (round options loop height).Ends world result trace final) :
    Opens options height loop world result trace final := by
  unfold round at ending
  split at ending
  · next stopping =>
    obtain ⟨same, rfl, rfl⟩ := ends_pure.mp ending
    exact .stopped stopping same
  next going =>
  have going := Bool.eq_false_iff.mpr going
  obtain ⟨connected, middle, first, _, connect, further, rfl⟩ := heed_bind_told ending
  rcases connected with fault | _ | _
  · obtain ⟨same, rfl, rfl⟩ := ends_pure.mp further
    rw [List.append_nil]
    exact .broken going connect same
  · exact .unconnected going connect further
  obtain ⟨answer, last, second, _, ask, onward, rfl⟩ := heed_bind_told further
  cases answer with
  | error fault => exact .unheard going connect ask onward
  | ok status => exact .opened going connect ask onward

theorem round_reports {height : Height} {result : Except Fault (Except Fault Summary × Loop)}
    (ending : (round options loop height).Ends world result trace final) :
    ∃ report loop', result = .ok (report, loop') := by
  cases round_cases ending with
  | stopped _ same => exact ⟨_, _, same⟩
  | broken _ _ same => exact ⟨_, _, same⟩
  | unconnected _ _ failing =>
      obtain ⟨report, loop', same, _⟩ := failed_ends failing
      exact ⟨report, loop', same⟩
  | unheard _ _ _ failing =>
      obtain ⟨report, loop', same, _⟩ := failed_ends failing
      exact ⟨report, loop', same⟩
  | opened _ _ _ onward => exact catchUp_reports onward

/-- A loop that resumes takes note of its next height if the ledger tells it. -/
theorem resume_cases {result : Except Fault (Except Fault Height × Loop)}
    (ending : (loop.resume options).Ends world result trace final) :
    ∃ point, (resumePoint options).Ends world point trace final ∧
      result = .ok (point, { loop with
        next := point.toOption.or loop.next
        stopping := loop.stopping || (resumePoint options world).interrupted }) := by
  obtain ⟨point, _, _, _, read, returning, rfl⟩ := heed_bind_told ending
  cases point with
  | error fault =>
      obtain ⟨rfl, rfl, rfl⟩ := ends_pure.mp returning
      exact ⟨.error fault, by rwa [List.append_nil], rfl⟩
  | ok height =>
      obtain ⟨rfl, rfl, rfl⟩ := ends_pure.mp returning
      exact ⟨.ok height, by rwa [List.append_nil], rfl⟩

theorem resume_succeeds {result : Except Fault (Except Fault Height × Loop)}
    (ending : (loop.resume options).Ends world result trace final) :
    ∃ point loop', result = .ok (point, loop') := by
  obtain ⟨_, _, same⟩ := resume_cases ending
  exact ⟨_, _, same⟩

/-- How a round begins: at the height that the loop knows, or at the one that it resumes at, if it
can. -/
inductive Begins (options : FollowOptions) (loop : Loop) (world : World others)
    (result : Except Fault (Except Fault Summary × Loop)) : Trace → World others → Prop where
  | known {height : Height} {trace : Trace} {final : World others} (next : loop.next = some height)
      (going : (round options loop height).Ends world result trace final) :
      Begins options loop world result trace final
  | resumed {height : Height} {resumed : Loop} {first rest : Trace} {middle final : World others}
      (next : loop.next = none)
      (resume : (loop.resume options).Ends world (.ok (.ok height, resumed)) first middle)
      (going : (round options resumed height).Ends middle result rest final) :
      Begins options loop world result (first ++ rest) final
  | unresumed {fault : Fault} {resumed : Loop} {first rest : Trace} {middle final : World others}
      (next : loop.next = none)
      (resume : (loop.resume options).Ends world (.ok (.error fault, resumed)) first middle)
      (failing : (resumed.failed 0 none options.startHeight fault).Ends middle result rest final) :
      Begins options loop world result (first ++ rest) final

theorem tick_cases {result : Except Fault (Except Fault Summary × Loop)}
    (ending : (loop.tick options).Ends world result trace final) :
    Begins options loop world result trace final := by
  unfold tick at ending
  cases position : loop.next with
  | some height =>
      rw [position] at ending
      exact .known position ending
  | none =>
      rw [position] at ending
      obtain ⟨_, -, failed⟩ | ⟨⟨point, _⟩, _, _, _, resume, going, rfl⟩ := ends_bind.mp ending
      · obtain ⟨_, _, impossible⟩ := resume_succeeds failed
        cases impossible
      cases point with
      | ok height => exact .resumed position resume going
      | error fault => exact .unresumed position resume going

theorem tick_reports {result : Except Fault (Except Fault Summary × Loop)}
    (ending : (loop.tick options).Ends world result trace final) :
    ∃ report loop', result = .ok (report, loop') := by
  cases tick_cases ending with
  | known _ going => exact round_reports going
  | resumed _ _ going => exact round_reports going
  | unresumed _ _ failing =>
      obtain ⟨report, loop', same, _⟩ := failed_ends failing
      exact ⟨report, loop', same⟩

end RollCall.Loop
