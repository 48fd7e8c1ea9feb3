import RollCall.Call

/-!
# How calls end

`call.Ends state result trace final` says that a call made in a state ends in a result and a final
state, and what is noted meanwhile. Whether its caller is asked to stop is left open. A call that is
put together from others is taken apart by the equivalences below, one for each way to put calls
together; a proof about it never opens the calls themselves.
-/

set_option autoImplicit false

namespace RollCall.Call

variable {σ τ α β : Type}

/-- How a call ends that is made in some state. -/
def Ends (call : Call σ α) (state : σ) (result : Except Fault α) (trace : Trace) (final : σ) :
    Prop :=
  ∃ interrupted, call state = { result := result, state := final, trace := trace, interrupted }

theorem ends (call : Call σ α) (state : σ) :
    call.Ends state (call state).result (call state).trace (call state).state :=
  ⟨_, rfl⟩

theorem Ends.result_eq {call : Call σ α} {state final : σ} {result : Except Fault α}
    {trace : Trace} (ending : call.Ends state result trace final) :
    (call state).result = result := by
  obtain ⟨_, same⟩ := ending
  rw [same]

theorem Ends.trace_eq {call : Call σ α} {state final : σ} {result : Except Fault α}
    {trace : Trace} (ending : call.Ends state result trace final) :
    (call state).trace = trace := by
  obtain ⟨_, same⟩ := ending
  rw [same]

theorem Ends.state_eq {call : Call σ α} {state final : σ} {result : Except Fault α}
    {trace : Trace} (ending : call.Ends state result trace final) :
    (call state).state = final := by
  obtain ⟨_, same⟩ := ending
  rw [same]

theorem ends_iff {call : Call σ α} {state final : σ} {result : Except Fault α} {trace : Trace} :
    call.Ends state result trace final ↔
      (call state).result = result ∧ (call state).trace = trace ∧ (call state).state = final := by
  constructor
  · intro ending
    exact ⟨ending.result_eq, ending.trace_eq, ending.state_eq⟩
  · rintro ⟨rfl, rfl, rfl⟩
    exact call.ends state

theorem ends_of_isOk {call : Call σ Unit} {state : σ} (succeeds : (call state).result.isOk) :
    call.Ends state (.ok ()) (call state).trace (call state).state := by
  have ending := call.ends state
  cases result : (call state).result with
  | error fault =>
      rw [result] at succeeds
      cases succeeds
  | ok value => rwa [result] at ending

theorem ends_of_not_isOk {call : Call σ α} {state : σ} (fails : ¬ (call state).result.isOk) :
    ∃ fault, call.Ends state (.error fault) (call state).trace (call state).state := by
  have ending := call.ends state
  cases result : (call state).result with
  | error fault => exact ⟨fault, by rwa [result] at ending⟩
  | ok value =>
      rw [result] at fails
      exact (fails rfl).elim

/-!
## Calls that only answer
-/

@[simp] theorem ends_pure {value : α} {state final : σ} {result : Except Fault α}
    {trace : Trace} :
    (pure value : Call σ α).Ends state result trace final ↔
      result = .ok value ∧ trace = [] ∧ final = state := by
  rw [ends_iff]
  exact ⟨fun ⟨h, t, s⟩ => ⟨h.symm, t.symm, s.symm⟩, fun ⟨h, t, s⟩ => ⟨h.symm, t.symm, s.symm⟩⟩

@[simp] theorem ends_fail {fault : Fault} {state final : σ} {result : Except Fault α}
    {trace : Trace} :
    (Call.fail fault : Call σ α).Ends state result trace final ↔
      result = .error fault ∧ trace = [] ∧ final = state := by
  rw [ends_iff]
  exact ⟨fun ⟨h, t, s⟩ => ⟨h.symm, t.symm, s.symm⟩, fun ⟨h, t, s⟩ => ⟨h.symm, t.symm, s.symm⟩⟩

@[simp] theorem ends_ofExcept {answer : Except Fault α} {state final : σ}
    {result : Except Fault α} {trace : Trace} :
    (Call.ofExcept answer : Call σ α).Ends state result trace final ↔
      result = answer ∧ trace = [] ∧ final = state := by
  rw [ends_iff]
  exact ⟨fun ⟨h, t, s⟩ => ⟨h.symm, t.symm, s.symm⟩, fun ⟨h, t, s⟩ => ⟨h.symm, t.symm, s.symm⟩⟩

@[simp] theorem ends_read {state final : σ} {result : Except Fault σ} {trace : Trace} :
    (Call.read : Call σ σ).Ends state result trace final ↔
      result = .ok state ∧ trace = [] ∧ final = state := by
  rw [ends_iff]
  exact ⟨fun ⟨h, t, s⟩ => ⟨h.symm, t.symm, s.symm⟩, fun ⟨h, t, s⟩ => ⟨h.symm, t.symm, s.symm⟩⟩

@[simp] theorem ends_modify {change : σ → σ} {state final : σ} {result : Except Fault Unit}
    {trace : Trace} :
    (Call.modify change).Ends state result trace final ↔
      result = .ok () ∧ trace = [] ∧ final = change state := by
  rw [ends_iff]
  exact ⟨fun ⟨h, t, s⟩ => ⟨h.symm, t.symm, s.symm⟩, fun ⟨h, t, s⟩ => ⟨h.symm, t.symm, s.symm⟩⟩

@[simp] theorem ends_note {entry : Note} {state final : σ} {result : Except Fault Unit}
    {trace : Trace} :
    (Call.note entry).Ends state result trace final ↔
      result = .ok () ∧ trace = [entry] ∧ final = state := by
  rw [ends_iff]
  exact ⟨fun ⟨h, t, s⟩ => ⟨h.symm, t.symm, s.symm⟩, fun ⟨h, t, s⟩ => ⟨h.symm, t.symm, s.symm⟩⟩

@[simp] theorem ends_log {level : Log.Level} {source : Log.Source} {message : String}
    {facts : Option Members} {state final : σ} {result : Except Fault Unit} {trace : Trace} :
    (Call.log level source message facts).Ends state result trace final ↔
      result = .ok () ∧ trace = [.logged { level, source, message, facts }] ∧ final = state :=
  ends_note

/-!
## Calls put together from others
-/

theorem bind_of_error {call : Call σ α} {next : α → Call σ β} {state : σ} {fault : Fault}
    (failed : (call state).result = .error fault) :
    (call >>= next) state = { call state with result := .error fault } := by
  change call.andThen next state = _
  simp only [andThen, failed]

theorem bind_of_ok {call : Call σ α} {next : α → Call σ β} {state : σ} {value : α}
    (succeeded : (call state).result = .ok value) :
    (call >>= next) state =
      { result := (next value (call state).state).result
        state := (next value (call state).state).state
        trace := (call state).trace ++ (next value (call state).state).trace
        interrupted :=
          (call state).interrupted || (next value (call state).state).interrupted } := by
  change call.andThen next state = _
  simp only [andThen, succeeded]

/-- One call after another ends in the fault of the first, or as the second does. -/
theorem ends_bind {call : Call σ α} {next : α → Call σ β} {state final : σ}
    {result : Except Fault β} {trace : Trace} :
    (call >>= next).Ends state result trace final ↔
      (∃ fault, result = .error fault ∧ call.Ends state (.error fault) trace final) ∨
      ∃ value middle first second, call.Ends state (.ok value) first middle ∧
        (next value).Ends middle result second final ∧ trace = first ++ second := by
  constructor
  · intro ending
    cases ended : (call state).result with
    | error fault =>
        obtain ⟨_, same⟩ := ending
        rw [bind_of_error ended] at same
        cases same
        exact .inl ⟨fault, rfl, ended ▸ call.ends state⟩
    | ok value =>
        obtain ⟨_, same⟩ := ending
        rw [bind_of_ok ended] at same
        cases same
        exact .inr ⟨value, _, _, _, ended ▸ call.ends state, ends _ _, rfl⟩
  · rintro (⟨fault, rfl, failed⟩ | ⟨value, middle, first, second, succeeded, continued, rfl⟩)
    · obtain ⟨ended, rfl, rfl⟩ := ends_iff.mp failed
      exact ⟨_, bind_of_error ended⟩
    · obtain ⟨ended, rfl, rfl⟩ := ends_iff.mp succeeded
      obtain ⟨rfl, rfl, rfl⟩ := ends_iff.mp continued
      exact ⟨_, bind_of_ok ended⟩

/-- Where one call after another succeeds, both do. -/
theorem ends_bind_ok {call : Call σ α} {next : α → Call σ β} {state final : σ} {value : β}
    {trace : Trace} :
    (call >>= next).Ends state (.ok value) trace final ↔
      ∃ answer middle first second, call.Ends state (.ok answer) first middle ∧
        (next answer).Ends middle (.ok value) second final ∧ trace = first ++ second := by
  rw [ends_bind]
  constructor
  · rintro (⟨_, impossible, _⟩ | both)
    · cases impossible
    · exact both
  · exact .inr

@[simp] theorem ends_attempt {call : Call σ α} {state final : σ}
    {result : Except Fault (Except Fault α)} {trace : Trace} :
    call.attempt.Ends state result trace final ↔
      ∃ inner, result = .ok inner ∧ call.Ends state inner trace final := by
  rw [ends_iff]
  constructor
  · rintro ⟨rfl, rfl, rfl⟩
    exact ⟨_, rfl, call.ends state⟩
  · rintro ⟨inner, rfl, ending⟩
    exact ⟨congrArg _ ending.result_eq, ending.trace_eq, ending.state_eq⟩

/-- A call after one that hands its fault on as a value. -/
theorem ends_attempt_bind {call : Call σ α} {next : Except Fault α → Call σ β} {state final : σ}
    {result : Except Fault β} {trace : Trace} :
    (call.attempt >>= next).Ends state result trace final ↔
      ∃ inner middle first second, call.Ends state inner first middle ∧
        (next inner).Ends middle result second final ∧ trace = first ++ second := by
  rw [ends_bind]
  constructor
  · rintro (⟨_, _, failed⟩ | ⟨inner, middle, first, second, attempted, continued, rfl⟩)
    · obtain ⟨_, impossible, _⟩ := ends_attempt.mp failed
      cases impossible
    · obtain ⟨_, same, ending⟩ := ends_attempt.mp attempted
      cases same
      exact ⟨inner, middle, first, second, ending, continued, rfl⟩
  · rintro ⟨inner, middle, first, second, ending, continued, rfl⟩
    exact .inr ⟨inner, middle, first, second, ends_attempt.mpr ⟨inner, rfl, ending⟩, continued, rfl⟩

theorem ends_watch {call : Call σ α} {state final : σ}
    {result : Except Fault (Except Fault α × Bool)} {trace : Trace}
    (ending : call.watch.Ends state result trace final) :
    ∃ inner, result = .ok (inner, (call state).interrupted) ∧
      call.Ends state inner trace final := by
  obtain ⟨rfl, rfl, rfl⟩ := ends_iff.mp ending
  exact ⟨_, rfl, call.ends state⟩

/-- A call on a part leaves the rest of the state to how the part is put back. -/
theorem ends_inside {part : τ → σ} {replace : σ → τ → τ} {call : Call σ α} {state final : τ}
    {result : Except Fault α} {trace : Trace} :
    (call.inside part replace).Ends state result trace final ↔
      ∃ inner, call.Ends (part state) result trace inner ∧ final = replace inner state := by
  rw [ends_iff]
  constructor
  · rintro ⟨rfl, rfl, rfl⟩
    exact ⟨_, call.ends (part state), rfl⟩
  · rintro ⟨inner, ending, rfl⟩
    exact ⟨ending.result_eq, ending.trace_eq, congrArg (replace · state) ending.state_eq⟩

/-!
## Calls after ones that only answer
-/

theorem ends_pure_bind {value : α} {next : α → Call σ β} {state final : σ}
    {result : Except Fault β} {trace : Trace} :
    ((pure value : Call σ α) >>= next).Ends state result trace final ↔
      (next value).Ends state result trace final := by
  rw [ends_bind]
  constructor
  · rintro (⟨_, _, failed⟩ | ⟨_, _, _, _, answered, continued, rfl⟩)
    · cases (ends_pure.mp failed).1
    · obtain ⟨same, rfl, rfl⟩ := ends_pure.mp answered
      cases same
      exact continued
  · intro continued
    exact .inr ⟨value, state, [], trace, ends_pure.mpr ⟨rfl, rfl, rfl⟩, continued, rfl⟩

theorem ends_read_bind {next : σ → Call σ β} {state final : σ} {result : Except Fault β}
    {trace : Trace} :
    ((Call.read : Call σ σ) >>= next).Ends state result trace final ↔
      (next state).Ends state result trace final := by
  rw [ends_bind]
  constructor
  · rintro (⟨_, _, failed⟩ | ⟨_, _, _, _, answered, continued, rfl⟩)
    · cases (ends_read.mp failed).1
    · obtain ⟨same, rfl, rfl⟩ := ends_read.mp answered
      cases same
      exact continued
  · intro continued
    exact .inr ⟨state, state, [], trace, ends_read.mpr ⟨rfl, rfl, rfl⟩, continued, rfl⟩

theorem ends_modify_bind {change : σ → σ} {next : Unit → Call σ β} {state final : σ}
    {result : Except Fault β} {trace : Trace} :
    (Call.modify change >>= next).Ends state result trace final ↔
      (next ()).Ends (change state) result trace final := by
  rw [ends_bind]
  constructor
  · rintro (⟨_, _, failed⟩ | ⟨_, _, _, _, answered, continued, rfl⟩)
    · cases (ends_modify.mp failed).1
    · obtain ⟨_, rfl, rfl⟩ := ends_modify.mp answered
      exact continued
  · intro continued
    exact .inr ⟨(), _, [], trace, ends_modify.mpr ⟨rfl, rfl, rfl⟩, continued, rfl⟩

theorem ends_note_bind {entry : Note} {next : Unit → Call σ β} {state final : σ}
    {result : Except Fault β} {trace : Trace} :
    (Call.note entry >>= next).Ends state result trace final ↔
      ∃ rest, (next ()).Ends state result rest final ∧ trace = entry :: rest := by
  rw [ends_bind]
  constructor
  · rintro (⟨_, _, failed⟩ | ⟨_, _, _, rest, noted, continued, rfl⟩)
    · cases (ends_note.mp failed).1
    · obtain ⟨_, rfl, rfl⟩ := ends_note.mp noted
      exact ⟨rest, continued, rfl⟩
  · rintro ⟨rest, continued, rfl⟩
    exact .inr ⟨(), state, [entry], rest, ends_note.mpr ⟨rfl, rfl, rfl⟩, continued, rfl⟩

theorem ends_log_bind {level : Log.Level} {source : Log.Source} {message : String}
    {facts : Option Members} {next : Unit → Call σ β} {state final : σ} {result : Except Fault β}
    {trace : Trace} :
    (Call.log level source message facts >>= next).Ends state result trace final ↔
      ∃ rest, (next ()).Ends state result rest final ∧
        trace = .logged { level, source, message, facts } :: rest :=
  ends_note_bind

end RollCall.Call
