import RollCall.Proofs.Keeping

/-!
# What there are words for

A fault is put into words wherever it is logged or passed on as the cause of another. Where there are
none, what was to say so ends in `Fault.wordless` and does nothing more.
-/

set_option autoImplicit false

namespace RollCall

namespace Fault

variable {fault : Fault} {words : String}

theorem message_of_some (worded : fault.words? = some words) : fault.message = .ok words := by
  rw [message, worded]
  rfl

theorem message_of_none (silent : fault.words? = none) : fault.message = .error wordless := by
  rw [message, silent]
  rfl

theorem message_eq_ok_iff : fault.message = .ok words ↔ fault.words? = some words := by
  constructor
  · intro reported
    cases worded : fault.words? with
    | none =>
        rw [message_of_none worded] at reported
        cases reported
    | some told =>
        rw [message_of_some worded] at reported
        cases reported
        rfl
  · exact message_of_some

theorem message_eq_error_iff {unreported : Fault} :
    fault.message = .error unreported ↔ fault.words? = none ∧ unreported = wordless := by
  constructor
  · intro reported
    cases worded : fault.words? with
    | none =>
        rw [message_of_none worded] at reported
        cases reported
        exact ⟨rfl, rfl⟩
    | some told =>
        rw [message_of_some worded] at reported
        cases reported
  · rintro ⟨silent, rfl⟩
    exact message_of_none silent

/-- A record that hides the member which tells how it is displayed. -/
def unspeakable : Fault := .raised (.record [(Value.displayName, .null)])

theorem words?_unspeakable : unspeakable.words? = none := by
  simp [unspeakable, words?, Value.display?]

end Fault

/-- A result that there are words for: a value, or a fault that has some. -/
def IsTold {α : Type} : Except Fault α → Prop
  | .ok _ => True
  | .error fault => fault.words? ≠ none

instance {α : Type} : DecidablePred (@IsTold α)
  | .ok _ => isTrue trivial
  | .error fault => inferInstanceAs (Decidable (fault.words? ≠ none))

theorem isTold_error_iff {α : Type} {fault : Fault} :
    IsTold (.error fault : Except Fault α) ↔ ∃ words, fault.words? = some words :=
  Option.ne_none_iff_exists'

namespace Call

variable {σ α : Type}

/-- What follows a fault that is put into words takes place if there are any. -/
theorem ends_message_bind {fault : Fault} {next : String → Call σ α} {state final : σ}
    {result : Except Fault α} {trace : Trace} :
    (Call.ofExcept fault.message >>= next).Ends state result trace final ↔
      (fault.words? = none ∧ result = .error .wordless ∧ trace = [] ∧ final = state) ∨
      ∃ words, fault.words? = some words ∧ (next words).Ends state result trace final := by
  constructor
  · intro ending
    rcases ends_bind.mp ending with ⟨_, rfl, failed⟩ | ⟨words, _, _, _, reported, continued, rfl⟩
    · obtain ⟨same, rfl, rfl⟩ := ends_ofExcept.mp failed
      obtain ⟨silent, rfl⟩ := Fault.message_eq_error_iff.mp same.symm
      exact .inl ⟨silent, rfl, rfl, rfl⟩
    · obtain ⟨same, rfl, rfl⟩ := ends_ofExcept.mp reported
      exact .inr ⟨words, Fault.message_eq_ok_iff.mp same.symm, continued⟩
  · rintro (⟨silent, rfl, rfl, rfl⟩ | ⟨words, worded, continued⟩)
    · rw [Fault.message_of_none silent]
      exact ends_bind.mpr (.inl ⟨_, rfl, ends_ofExcept.mpr ⟨rfl, rfl, rfl⟩⟩)
    · rw [Fault.message_of_some worded]
      exact ends_bind.mpr (.inr ⟨words, state, [], trace, ends_ofExcept.mpr ⟨rfl, rfl, rfl⟩,
        continued, rfl⟩)

theorem Keeps.message_bind {R : σ → Trace → σ → Prop} (chaining : Chaining R) (fault : Fault)
    {next : String → Call σ α} (kept : ∀ words, Keeps R (next words)) :
    Keeps R (Call.ofExcept fault.message >>= next) :=
  Keeps.bind chaining (Keeps.ofExcept chaining _) kept

end Call

end RollCall
