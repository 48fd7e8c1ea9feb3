import RollCall.Proofs.Keeping
import RollCall.Proofs.Rows
import RollCall.World

/-!
# Collaborators that can be reasoned about

The indexer's own notes tell what it asked, stored and dispatched. Collaborators are *discreet* if
they leave such notes to the indexer. A ledger is *kept in tables* if it does what an operation says
to them or refuses and does nothing; which operations are refused, and when, is left open.
-/

set_option autoImplicit false

namespace RollCall

open Call

/-!
## What is noted
-/

/-- Only notes that are allowed are taken. -/
def Noting {σ : Type} (allowed : Note → Prop) (_ : σ) (trace : Trace) (_ : σ) : Prop :=
  ∀ note ∈ trace, allowed note

namespace Noting

variable {σ τ α : Type} {allowed : Note → Prop}

theorem chaining : Chaining (Noting allowed : σ → Trace → σ → Prop) where
  refl := by
    intro state note member
    cases member
  trans := by
    intro state middle final first second before after note member
    rcases List.mem_append.mp member with earlier | later
    · exact before note earlier
    · exact after note later

theorem modify (change : σ → σ) : Keeps (Noting allowed) (Call.modify change) :=
  Keeps.modify fun _ note member => by cases member

theorem inside {part : τ → σ} {replace : σ → τ → τ} {call : Call σ α}
    (kept : Keeps (Noting allowed) call) : Keeps (Noting allowed) (call.inside part replace) :=
  Keeps.inside kept fun inner => inner

theorem note {entry : Note} (may : allowed entry) :
    Keeps (Noting allowed) (Call.note entry : Call σ Unit) := by
  apply Keeps.note
  intro state note member
  rw [List.mem_singleton.mp member]
  exact may

theorem mono {wider : Note → Prop} {call : Call σ α} (kept : Keeps (Noting allowed) call)
    (weaker : ∀ note, allowed note → wider note) : Keeps (Noting wider) call :=
  kept.mono fun noted note member => weaker note (noted note member)

end Noting

/-- Whether a note is one that collaborators may take: a log line, a request or a statement. -/
def Note.isOutside : Note → Bool
  | .logged _ => true
  | .requested _ => true
  | .executed _ => true
  | _ => false

/-- Nothing but what collaborators may note is noted. -/
abbrev Quiet {σ : Type} : σ → Trace → σ → Prop :=
  Noting fun note => note.isOutside

theorem quiet_log {σ : Type} (level : Log.Level) (source : Log.Source) (message : String)
    (facts : Option Members) : Keeps Quiet (Call.log level source message facts : Call σ Unit) :=
  Noting.note rfl

/-- Collaborators that leave the indexer's notes to the indexer. -/
structure Collaborators.Discreet (others : Collaborators) : Prop where
  connect : Keeps Quiet others.provider.connect
  close : Keeps Quiet others.provider.close
  ask : ∀ question, Keeps Quiet (others.provider.ask question)
  books : ∀ operation, Keeps Quiet (others.books operation)
  agent : ∀ request, Keeps Quiet (others.agent request)
  pause : ∀ pause, Keeps Quiet (others.pause pause)

theorem Trace.operations_of_quiet {trace : Trace} (quiet : ∀ note ∈ trace, note.isOutside) :
    trace.operations = [] := by
  apply List.filterMap_eq_nil_iff.mpr
  intro note member
  have outside := quiet note member
  cases note <;> simp_all [Note.isOutside]

theorem Trace.mem_operations {trace : Trace} {operation : Ledger.Operation}
    (member : operation ∈ trace.operations) : .recorded operation true ∈ trace := by
  obtain ⟨note, noted, same⟩ := List.mem_filterMap.mp member
  split at same
  · cases same
    exact noted
  · cases same

@[simp] theorem Trace.operations_append (first second : Trace) :
    Trace.operations (first ++ second) = first.operations ++ second.operations :=
  List.filterMap_append

@[simp] theorem Trace.operations_nil : Trace.operations [] = [] := rfl

@[simp] theorem Trace.operations_done (operation : Ledger.Operation) (rest : Trace) :
    Trace.operations (.recorded operation true :: rest) = operation :: rest.operations := rfl

@[simp] theorem Trace.operations_refused (operation : Ledger.Operation) (rest : Trace) :
    Trace.operations (.recorded operation false :: rest) = rest.operations := rfl

@[simp] theorem Trace.operations_logged (line : Log.Line) (rest : Trace) :
    Trace.operations (.logged line :: rest) = rest.operations := rfl

/-!
## Ledgers kept in tables
-/

namespace Ledger

/-- A ledger in front of tables: it does what an operation says, or refuses and does nothing. -/
def Books.KeptIn {σ : Type} (books : Books σ) (tables : σ → Tables) : Prop :=
  ∀ ⦃operation store result trace final⦄, (books operation).Ends store result trace final →
    (result = .ok ((tables store).perform operation).1 ∧
      tables final = ((tables store).perform operation).2) ∨
    ((∃ fault, result = .error fault) ∧ tables final = tables store)

end Ledger

end RollCall
