import RollCall.Proofs.Endings

/-!
# What calls keep

A relation between a state, what is noted from there on, and the state after it. A call keeps the
relation if it holds between every state that the call is made in and the end of the call. Relations
that hold where nothing happens and carry over from one part of a trace to the next are kept by every
call that is put together from calls that keep them.
-/

set_option autoImplicit false

namespace RollCall.Call

variable {σ α β : Type}

/-- A relation that holds where nothing happens, and that carries over. -/
structure Chaining (R : σ → Trace → σ → Prop) : Prop where
  refl : ∀ state, R state [] state
  trans : ∀ {state middle final first second},
    R state first middle → R middle second final → R state (first ++ second) final

/-- A call keeps a relation, however it ends. -/
def Keeps (R : σ → Trace → σ → Prop) (call : Call σ α) : Prop :=
  ∀ ⦃state result trace final⦄, call.Ends state result trace final → R state trace final

variable {R : σ → Trace → σ → Prop}

theorem Keeps.pure (chaining : Chaining R) (value : α) : Keeps R (Pure.pure value : Call σ α) := by
  intro state result trace final ending
  obtain ⟨_, rfl, rfl⟩ := ends_pure.mp ending
  exact chaining.refl _

theorem Keeps.fail (chaining : Chaining R) (fault : Fault) :
    Keeps R (Call.fail fault : Call σ α) := by
  intro state result trace final ending
  obtain ⟨_, rfl, rfl⟩ := ends_fail.mp ending
  exact chaining.refl _

theorem Keeps.ofExcept (chaining : Chaining R) (answer : Except Fault α) :
    Keeps R (Call.ofExcept answer : Call σ α) := by
  intro state result trace final ending
  obtain ⟨_, rfl, rfl⟩ := ends_ofExcept.mp ending
  exact chaining.refl _

theorem Keeps.read (chaining : Chaining R) : Keeps R (Call.read : Call σ σ) := by
  intro state result trace final ending
  obtain ⟨_, rfl, rfl⟩ := ends_read.mp ending
  exact chaining.refl _

theorem Keeps.modify {change : σ → σ} (kept : ∀ state, R state [] (change state)) :
    Keeps R (Call.modify change) := by
  intro state result trace final ending
  obtain ⟨_, rfl, rfl⟩ := ends_modify.mp ending
  exact kept _

theorem Keeps.note {entry : Note} (kept : ∀ state, R state [entry] state) :
    Keeps R (Call.note entry) := by
  intro state result trace final ending
  obtain ⟨_, rfl, rfl⟩ := ends_note.mp ending
  exact kept _

theorem Keeps.bind (chaining : Chaining R) {call : Call σ α} {next : α → Call σ β}
    (first : Keeps R call) (rest : ∀ value, Keeps R (next value)) : Keeps R (call >>= next) := by
  intro state result trace final ending
  rcases ends_bind.mp ending with ⟨_, _, failed⟩ | ⟨_, _, _, _, succeeded, continued, rfl⟩
  · exact first failed
  · exact chaining.trans (first succeeded) (rest _ continued)

theorem Keeps.attempt {call : Call σ α} (kept : Keeps R call) : Keeps R call.attempt := by
  intro state result trace final ending
  obtain ⟨_, _, inner⟩ := ends_attempt.mp ending
  exact kept inner

theorem Keeps.watch {call : Call σ α} (kept : Keeps R call) : Keeps R call.watch := by
  intro state result trace final ending
  obtain ⟨_, _, inner⟩ := ends_watch ending
  exact kept inner

theorem Keeps.inside {τ : Type} {S : τ → Trace → τ → Prop} {part : σ → τ}
    {replace : τ → σ → σ} {call : Call τ α} (kept : Keeps S call)
    (lifted : ∀ {state trace inner}, S (part state) trace inner →
      R state trace (replace inner state)) : Keeps R (call.inside part replace) := by
  intro state result trace final ending
  obtain ⟨inner, done, rfl⟩ := ends_inside.mp ending
  exact lifted (kept done)

theorem Keeps.mono {S : σ → Trace → σ → Prop} {call : Call σ α} (kept : Keeps R call)
    (weaker : ∀ {state trace final}, R state trace final → S state trace final) :
    Keeps S call :=
  fun _ _ _ _ ending => weaker (kept ending)

/-!
## Properties of calls
-/

/-- A property that carries over from calls to what they make one after the other. -/
structure Sequential (C : {α : Type} → Call σ α → Prop) : Prop where
  pure : ∀ {α : Type} (value : α), C (Pure.pure value : Call σ α)
  fail : ∀ {α : Type} (fault : Fault), C (Call.fail fault : Call σ α)
  bind : ∀ {α β : Type} {call : Call σ α} {next : α → Call σ β},
    C call → (∀ value, C (next value)) → C (call >>= next)

theorem Sequential.ofExcept {C : {α : Type} → Call σ α → Prop} (sequential : Sequential C)
    (answer : Except Fault α) : C (Call.ofExcept answer) := by
  cases answer with
  | error fault => exact sequential.fail fault
  | ok value => exact sequential.pure value

/-- A property that carries over to every call which is put together of calls that have it. -/
structure Closed (C : {α : Type} → Call σ α → Prop) : Prop extends Sequential C where
  attempt : ∀ {α : Type} {call : Call σ α}, C call → C call.attempt
  watch : ∀ {α : Type} {call : Call σ α}, C call → C call.watch

/-- To keep a relation, as a property of calls. -/
abbrev Keeping (R : σ → Trace → σ → Prop) {α : Type} (call : Call σ α) : Prop :=
  Keeps R call

theorem closed_keeping (chaining : Chaining R) : Closed (Keeping R) where
  pure := Keeps.pure chaining
  fail := Keeps.fail chaining
  bind := Keeps.bind chaining
  attempt := Keeps.attempt
  watch := Keeps.watch

/-!
## What is to blame for a fault
-/

variable {blame : σ → Fault → Trace → σ → Prop}

/-- The call keeps `R`, and whichever fault it ends in, its last part is to blame. -/
structure Blames (R : σ → Trace → σ → Prop) (blame : σ → Fault → Trace → σ → Prop)
    (call : Call σ α) : Prop where
  kept : Keeps R call
  blamed : ∀ ⦃state fault trace final⦄, call.Ends state (.error fault) trace final →
    ∃ before middle last, trace = before ++ last ∧ R state before middle ∧
      blame middle fault last final

namespace Blames

theorem direct (chaining : Chaining R) {call : Call σ α} (kept : Keeps R call)
    (blamed : ∀ ⦃state fault trace final⦄, call.Ends state (.error fault) trace final →
      blame state fault trace final) : Blames R blame call where
  kept := kept
  blamed state _ trace _ ending := ⟨[], state, trace, rfl, chaining.refl state, blamed ending⟩

theorem never {call : Call σ α} (kept : Keeps R call)
    (succeeds : ∀ ⦃state result trace final⦄, call.Ends state result trace final →
      ∃ value, result = .ok value) : Blames R blame call where
  kept := kept
  blamed state fault trace final ending := by
    obtain ⟨_, impossible⟩ := succeeds ending
    cases impossible

theorem pure (chaining : Chaining R) (value : α) :
    Blames R blame (Pure.pure value : Call σ α) :=
  .never (Keeps.pure chaining value) fun _ _ _ _ ending => ⟨value, (ends_pure.mp ending).1⟩

theorem note {entry : Note} (kept : Keeps R (Call.note entry)) : Blames R blame (Call.note entry) :=
  .never kept fun _ _ _ _ ending => ⟨(), (ends_note.mp ending).1⟩

theorem ofExcept (chaining : Chaining R) {answer : Except Fault α}
    (own : ∀ fault, answer = .error fault → ∀ state, blame state fault [] state) :
    Blames R blame (Call.ofExcept answer : Call σ α) :=
  .direct chaining (Keeps.ofExcept chaining answer) fun state fault trace final ending => by
    obtain ⟨same, rfl, rfl⟩ := ends_ofExcept.mp ending
    exact own fault same.symm final

theorem bind (chaining : Chaining R) {call : Call σ α} {next : α → Call σ β}
    (first : Blames R blame call) (rest : ∀ value, Blames R blame (next value)) :
    Blames R blame (call >>= next) where
  kept := Keeps.bind chaining first.kept fun value => (rest value).kept
  blamed state fault trace final ending := by
    obtain ⟨_, same, failed⟩ | ⟨value, middle, start, more, succeeded, continued, rfl⟩ :=
      ends_bind.mp ending
    · cases same
      exact first.blamed failed
    · obtain ⟨before, there, last, rfl, held, blamed⟩ := (rest value).blamed continued
      exact ⟨start ++ before, there, last, (List.append_assoc ..).symm,
        chaining.trans (first.kept succeeded) held, blamed⟩

end Blames

end RollCall.Call
