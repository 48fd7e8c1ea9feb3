import RollCall.Chain.Client
import RollCall.Ledger.Database
import RollCall.Proofs.Blame
import RollCall.Proofs.InMemory

/-!
# Nothing inside a height halts the loop

Neither clients over HTTP nor those of a chain in memory raise a fault that repeating a round cannot
clear, and neither do tables in memory, nor a database behind a pool that raises no fault of the
indexer's own. With them no round meets a fault that ends the loop, whatever the node answers and
whatever else fails; it goes on until it is asked to stop, or until there are no words for what a
collaborator raised.
-/

set_option autoImplicit false

namespace RollCall

open Call

/-!
## Faults that a round can clear
-/

namespace Call

variable {σ τ α β : Type} {P Q : Fault → Prop}

/-- Whichever fault the call ends in has the property. -/
def Raises (P : Fault → Prop) (call : Call σ α) : Prop :=
  ∀ ⦃state fault trace final⦄, call.Ends state (.error fault) trace final → P fault

namespace Raises

theorem pure (value : α) : Raises P (Pure.pure value : Call σ α) :=
  fun _ _ _ _ ending => by cases (ends_pure.mp ending).1

theorem fail {fault : Fault} (holds : P fault) : Raises P (Call.fail fault : Call σ α) :=
  fun _ _ _ _ ending => by
    cases (ends_fail.mp ending).1
    exact holds

theorem ofExcept {answer : Except Fault α} (holds : ∀ fault, answer = .error fault → P fault) :
    Raises P (Call.ofExcept answer : Call σ α) :=
  fun _ fault _ _ ending => holds fault (ends_ofExcept.mp ending).1.symm

theorem read : Raises P (Call.read : Call σ σ) :=
  fun _ _ _ _ ending => by cases (ends_read.mp ending).1

theorem modify (change : σ → σ) : Raises P (Call.modify change) :=
  fun _ _ _ _ ending => by cases (ends_modify.mp ending).1

theorem note (entry : Note) : Raises P (Call.note entry : Call σ Unit) :=
  fun _ _ _ _ ending => by cases (ends_note.mp ending).1

theorem interrupt : Raises P (Call.interrupt : Call σ Unit) :=
  fun _ _ _ _ ending => by cases ending.result_eq

theorem attempt (call : Call σ α) : Raises P call.attempt := by
  intro _ _ _ _ ending
  obtain ⟨_, impossible, _⟩ := ends_attempt.mp ending
  cases impossible

theorem bind {call : Call σ α} {next : α → Call σ β} (first : Raises P call)
    (rest : ∀ value, Raises P (next value)) : Raises P (call >>= next) := by
  intro _ _ _ _ ending
  obtain ⟨_, same, failed⟩ | ⟨value, _, _, _, -, continued, -⟩ := ends_bind.mp ending
  · cases same
    exact first failed
  · exact rest value continued

theorem inside {call : Call σ α} (raises : Raises P call) (part : τ → σ) (replace : σ → τ → τ) :
    Raises P (call.inside part replace) := by
  intro _ _ _ _ ending
  obtain ⟨_, inner, _⟩ := ends_inside.mp ending
  exact raises inner

theorem mono {call : Call σ α} (raises : Raises P call) (weaker : ∀ fault, P fault → Q fault) :
    Raises Q call :=
  fun _ fault _ _ ending => weaker fault (raises ending)

end Raises

end Call

/-- Repeating a round may clear the fault, or the fault is not the indexer's own. -/
def Fault.Clears (fault : Fault) : Prop :=
  fault.isPermanent = false

theorem Fault.clears_of_foreign {fault : Fault} (foreign : fault.retryable? = none) :
    fault.Clears := by
  rw [Fault.Clears, isPermanent, foreign]
  rfl

theorem Fault.clears_of_isRefusal {fault : Fault} (refusal : fault.isRefusal) : fault.Clears := by
  cases fault with
  | refused => rfl
  | _ => cases refusal

theorem Fault.clears_of_message {fault unreported : Fault}
    (failed : fault.message = .error unreported) : unreported.Clears := by
  obtain ⟨-, rfl⟩ := message_eq_error_iff.mp failed
  rfl

/-- Reading comes to a value or to a fault that clears. -/
def Clearing {α : Type} (answer : Except Fault α) : Prop :=
  ∀ fault, answer = .error fault → fault.Clears

namespace Clearing

variable {α β : Type}

theorem pure (value : α) : Clearing (Pure.pure value : Except Fault α) :=
  fun _ impossible => by cases impossible

theorem bind {first : Except Fault α} {next : α → Except Fault β} (clears : Clearing first)
    (rest : ∀ value, Clearing (next value)) : Clearing (first >>= next) := by
  cases first with
  | error fault =>
      intro other same
      cases same
      exact clears fault rfl
  | ok value => exact rest value

theorem mapM {read : α → Except Fault β} (clears : ∀ value, Clearing (read value))
    (values : List α) : Clearing (values.mapM read) := by
  induction values with
  | nil => exact .pure _
  | cons value rest ih =>
      rw [List.mapM_cons]
      exact .bind (clears value) fun _ => .bind ih fun _ => .pure _

theorem demand (form : Option α) : Clearing (Fault.demand form) := by
  intro fault failed
  cases form with
  | none =>
      cases failed
      rfl
  | some value => cases failed

end Clearing

/-!
## Nodes
-/

namespace Chain

namespace Client

variable {ν : Type} {network : Network ν}

theorem through_raises {α : Type} {P : Fault → Prop} {call : Call ν α} (raises : Raises P call) :
    Raises P (through call) := by
  intro state fault trace final ending
  obtain ⟨_, -, failed⟩ | ⟨⟨result, closed⟩, middle, _, _, watched, rest, -⟩ := ends_bind.mp ending
  · obtain ⟨_, impossible, -⟩ := ends_watch failed
    cases impossible
  obtain ⟨_, same, ended⟩ := ends_watch watched
  cases same
  have concluded : result = .error fault := by
    dsimp only at rest
    split at rest
    · obtain ⟨_, -, failed⟩ | ⟨_, _, _, _, -, answered, -⟩ := ends_bind.mp rest
      · cases (ends_modify.mp failed).1
      · exact (ends_ofExcept.mp answered).1.symm
    · exact (ends_ofExcept.mp rest).1.symm
  subst concluded
  exact raises.inside _ _ ended

variable (pauses : ∀ delay, Raises (fun _ => False) (network.pause delay))
  (chances : Raises (fun _ => False) network.chance)

include pauses chances

theorem wait_raises {P : Fault → Prop} (settings : ClientSettings) (method : String)
    (attempts : Nat) : Raises P (wait network settings method attempts) := by
  have none {α : Type} {call : Call ν α} (never : Raises (fun _ => False) call) :
      Raises P (through call) := (through_raises never).mono fun _ => False.elim
  unfold wait
  split
  · refine .bind (none chances) fun random => ?_
    exact .bind (.note _) fun _ => none (pauses _)
  · exact .pure _

theorem attemptAll_raises (settings : ClientSettings) (method url : String)
    (left attempts : Nat) (last : Option Fault) :
    Raises Fault.Clears (attemptAll network settings method url left attempts last) := by
  induction left generalizing attempts last with
  | zero => exact .pure _
  | succ left ih =>
      refine .bind .read fun state => ?_
      dsimp only
      split
      · exact .pure _
      · refine .bind (wait_raises pauses chances settings method attempts) fun _ => ?_
        refine .bind (.attempt _) fun outcome => ?_
        cases outcome with
        | ok result => exact .pure _
        | error fault =>
            dsimp only
            split
            · next refusal => exact .fail (Fault.clears_of_isRefusal refusal)
            · exact ih _ _

omit pauses chances in
theorem address_clears (settings : ClientSettings) (method : String) (parameters : Members) :
    Clearing (address settings method parameters) := by
  unfold address
  split
  · intro fault failed
    cases failed
    rfl
  · refine .bind (.mapM (fun parameter => ?_) _) fun _ => .pure _
    exact .bind (.demand _) fun _ => .pure _

omit pauses chances in
theorem lastWords_clears (last : Option Fault) : Clearing (lastWords last) := by
  unfold lastWords
  split
  · exact .pure _
  · exact .pure _
  · exact fun _ => Fault.clears_of_message

theorem fetch_raises (settings : ClientSettings) (method : String) (parameters : Members) :
    Raises Fault.Clears (fetch network settings method parameters) := by
  refine .bind (.ofExcept (address_clears settings method parameters)) fun url => ?_
  refine .bind (attemptAll_raises pauses chances settings method _ _ _ _) fun outcome => ?_
  cases outcome with
  | ok result => exact .pure _
  | error last =>
      refine .bind (.modify _) fun _ => ?_
      exact .bind (.ofExcept (lastWords_clears last)) fun _ => .fail rfl

theorem ask_raises (settings : ClientSettings) (question : Question) :
    Raises Fault.Clears (ask network settings question) := by
  have fetches := fetch_raises pauses chances settings
  cases question with
  | status => exact .bind (fetches _ _) fun _ => .pure _
  | blockResults height => exact .bind (fetches _ _) fun _ => .pure _
  | commit height => exact .bind (fetches _ _) fun _ => .pure _
  | query path data => exact .bind (fetches _ _) fun _ => .pure _

end Client

theorem Simulated.watch_raises {P : Fault → Prop} (question : Question) :
    Raises P (watch question) := by
  refine .bind .read fun state => ?_
  split
  · split
    · refine .bind (.modify _) fun _ => ?_
      split
      · exact .interrupt
      · exact .pure _
    · exact .pure _
  · exact .pure _

theorem Simulated.takeFailure_raises {P : Fault → Prop} (method : String) :
    Raises P (takeFailure method) := by
  refine .bind .read fun state => ?_
  dsimp only
  split
  · exact .pure _
  · exact .bind (.modify _) fun _ => .pure _

theorem Simulated.ask_raises (question : Question) :
    Raises Fault.Clears (Simulated.provider.ask question) := by
  refine .bind (watch_raises question) fun _ => .bind .read fun state => ?_
  dsimp only
  split
  · exact .fail rfl
  · refine .bind (takeFailure_raises _) fun failed => ?_
    split
    · exact .bind (.modify _) fun _ => .fail rfl
    · exact .bind .read fun _ => .pure _

/-- Clients over HTTP or of a chain in memory. Connecting may fail in any way, or come to any
client. -/
inductive Provider.Genuine : {ν χ : Type} → Provider ν χ → Prop
  | http {ν : Type} {network : Network ν} (settings : ClientSettings)
      (pauses : ∀ delay, Raises (fun _ => False) (network.pause delay))
      (chances : Raises (fun _ => False) network.chance) : Genuine (Client.provider network settings)
  | simulated : Genuine Simulated.provider
  | connecting {ν χ : Type} {provider : Provider ν χ} (genuine : Genuine provider)
      (connect : Call ν χ) : Genuine { provider with connect }
  | refusing {ν χ : Type} {provider : Provider ν χ} (genuine : Genuine provider) :
      Genuine provider.refusing

theorem Provider.Genuine.raises {ν χ : Type} {provider : Provider ν χ} (genuine : provider.Genuine)
    (question : Question) : Raises Fault.Clears (provider.ask question) := by
  induction genuine with
  | http settings pauses chances => exact Client.ask_raises pauses chances settings question
  | simulated => exact Simulated.ask_raises question
  | connecting _ _ ih => exact ih
  | refusing _ ih =>
      simp only [Provider.refusing]
      exact ih.inside _ _

end Chain

/-!
## Ledgers
-/

namespace Ledger

namespace Clearing

theorem integer (cells : Members) (column : String) : Clearing (Cell.integer cells column) := by
  refine .bind (.demand _) fun number => ?_
  split
  · exact .pure _
  · refine .bind (.demand _) fun shown => ?_
    intro fault failed
    cases failed
    rfl

theorem number (cells : Members) (column : String) : Clearing (Cell.number cells column) := by
  have mapped : Cell.number cells column =
      Cell.integer cells column >>= fun value => Pure.pure (Number.ofInt value) := by
    unfold Cell.number
    cases Cell.integer cells column <;> rfl
  rw [mapped]
  exact .bind (integer cells column) fun _ => .pure _

theorem text (cells : Members) (column : String) : Clearing (Cell.text cells column) := by
  unfold Cell.text
  split
  · exact .pure _
  · exact .demand _

theorem proposal (cells : Members) : Clearing (proposals.read cells) :=
  .bind (number cells _) fun _ => .bind (number cells _) fun _ => .bind (text cells _) fun _ =>
    .bind (number cells _) fun _ => .bind (number cells _) fun _ => .bind (number cells _) fun _ =>
      .pure _

theorem grant (cells : Members) : Clearing (grants.read cells) :=
  .bind (number cells _) fun _ => .bind (text cells _) fun _ => .bind (number cells _) fun _ =>
    .bind (number cells _) fun _ => .bind (number cells _) fun _ => .bind (text cells _) fun _ =>
      .pure _

end Clearing

namespace Database

variable {δ : Type} {database : Database δ} {options : FollowOptions}
  (foreign : ∀ statement, Raises (·.retryable? = none) (database.run statement))

section

include foreign

theorem execute_raises (text : String) (values : List Value) :
    Raises Fault.Clears (database.execute text values) :=
  .bind (.note _) fun _ => (foreign _).mono fun _ => Fault.clears_of_foreign

end

theorem storing_raises {α : Type} (operation : String) (details : Members) (call : Call δ α) :
    Raises Fault.Clears (storing operation details call) := by
  refine .bind (.attempt call) fun outcome => ?_
  cases outcome with
  | ok value => exact .pure _
  | error fault =>
      exact .bind (.ofExcept fun _ => Fault.clears_of_message) fun _ => .fail rfl

theorem insert_raises {ρ : Type} (table : Table ρ) (cells : Members) :
    Raises Fault.Clears (database.insert table cells) := by
  refine .bind (.ofExcept fun fault failed => ?_) fun statement => ?_
  · cases failed
  · refine .bind (storing_raises _ _ _) fun rows => ?_
    cases rows with
    | nil => exact .fail rfl
    | cons row rest => exact .ofExcept (Clearing.integer row "id")

include foreign

theorem lowestAt_raises {ρ : Type} {table : Table ρ}
    (reads : ∀ cells, Clearing (table.read cells)) (column : String) (height : Height) :
    Raises Fault.Clears (database.lowestAt? table column height) := by
  refine .bind (execute_raises foreign _ _) fun rows => ?_
  cases rows with
  | nil => exact .pure _
  | cons row rest => exact .bind (.ofExcept (reads row)) fun _ => .pure _

theorem hasVote_raises (table : String) (height : Height) (voter : Number) :
    Raises Fault.Clears (database.hasVote table height voter) :=
  .bind (execute_raises foreign _ _) fun _ => .pure _

/-- Whatever the indexer asks of a database outside the handlers clears if it fails. -/
theorem books_raises {operation : Operation} (outside : operation.IsOutside options) :
    Raises Fault.Clears (database.books operation) := by
  obtain rfl | ⟨height, lookup | casting | rfl⟩ := outside
  · refine .bind (execute_raises foreign _ _) fun rows => ?_
    cases rows with
    | nil => exact .pure _
    | cons row rest => exact .bind (.ofExcept (Clearing.demand _)) fun _ => .pure _
  -- Reading a row back may fail, too: a number of the database need not be one of the indexer.
  · cases operation <;> first | exact lookup.elim | skip
    · exact lowestAt_raises foreign Clearing.proposal _ _
    · exact lowestAt_raises foreign Clearing.proposal _ _
    · exact lowestAt_raises foreign Clearing.grant _ _
  · cases operation <;> first | exact casting.elim | skip
    · exact hasVote_raises foreign _ _ _
    · exact insert_raises _ _
    · exact hasVote_raises foreign _ _ _
    · exact insert_raises _ _
  · exact .bind (storing_raises _ _ _) fun _ => .pure _

end Database

namespace Refusing

variable {σ : Type}

/-- The ledger behind is sound, and none of the refusals is one of the indexer's own faults. -/
def Foreign (sound : σ → Prop) (state : Refusing σ) : Prop :=
  sound state.ledger ∧ ∀ name faults, state.refusals.lookup name = some faults →
    ∀ fault ∈ faults, Fault.retryable? fault = none

variable {sound : σ → Prop}

theorem Foreign.refuse {state : Refusing σ} (held : state.Foreign sound) {name : String}
    {faults : List Fault} (foreign : ∀ fault ∈ faults, Fault.retryable? fault = none) :
    (state.refuse name faults).Foreign sound := by
  refine ⟨held.1, fun wanted listed found => ?_⟩
  rw [Refusing.refuse, lookup_replaceById] at found
  split at found
  · cases found
    exact foreign
  · exact held.2 wanted listed found

/-- What is refused is refused with a foreign fault; all else is up to the ledger behind. -/
theorem writes_ends {behind : Books σ} {operation : Operation} {state final : Refusing σ}
    {result : Except Fault operation.Answer} {trace : Trace} (held : state.Foreign sound)
    (ending : (writes behind operation).Ends state result trace final) :
    (∃ fault, result = .error fault ∧ fault.retryable? = none ∧ final.Foreign sound) ∨
      ∃ ledger, (behind operation).Ends state.ledger result trace ledger ∧
        final = { state with ledger } := by
  unfold writes at ending
  split at ending
  · have started := ends_read_bind.mp ending
    split at started
    · next fault faults found =>
      have foreign := held.2 _ _ found
      have failed := ends_modify_bind.mp started
      obtain ⟨rfl, -, rfl⟩ := ends_fail.mp failed
      refine .inl ⟨fault, rfl, foreign fault List.mem_cons_self, held.refuse ?_⟩
      exact fun other member => foreign other (List.mem_cons_of_mem _ member)
    · exact .inr (ends_inside.mp started)
  · exact .inr (ends_inside.mp ending)

end Refusing

/-- Tables in memory, a database whose pool raises no faults of the indexer's own, or one of these
where some operations that store are refused; and which of their states there can be. -/
inductive Books.Genuine : {σ : Type} → Books σ → (σ → Prop) → Prop
  | tables : Genuine Tables.books fun _ => True
  | database {δ : Type} {database : Database δ}
      (foreign : ∀ statement, Raises (·.retryable? = none) (database.run statement)) :
      Genuine database.books fun _ => True
  | refusing {σ : Type} {books : Books σ} {sound : σ → Prop} (genuine : Genuine books sound) :
      Genuine (Refusing.writes books) (Refusing.Foreign sound)

namespace Books.Genuine

variable {σ : Type} {books : Books σ} {sound : σ → Prop} (genuine : books.Genuine sound)

include genuine

theorem keeps (operation : Operation) :
    Keeps (fun store _ final => sound store → sound final) (books operation) := by
  induction genuine with
  | tables => exact fun _ _ _ _ _ _ => trivial
  | database => exact fun _ _ _ _ _ _ => trivial
  | refusing _ ih =>
      intro state result trace final ending held
      obtain ⟨_, -, -, held'⟩ | ⟨ledger, behind, rfl⟩ := Refusing.writes_ends held ending
      · exact held'
      · exact ⟨ih behind held.1, held.2⟩

theorem clears {options : FollowOptions} {operation : Operation}
    (outside : operation.IsOutside options) {store final : σ} {fault : Fault} {trace : Trace}
    (held : sound store) (ending : (books operation).Ends store (.error fault) trace final) :
    fault.Clears := by
  induction genuine with
  | tables => cases ending.result_eq
  | database foreign => exact Database.books_raises foreign outside ending
  | refusing _ ih =>
      obtain ⟨_, same, foreign, -⟩ | ⟨_, behind, -⟩ := Refusing.writes_ends held ending
      · cases same
        exact Fault.clears_of_foreign foreign
      · exact ih held.1 behind

end Books.Genuine

end Ledger

/-- The node and the ledger are such as there are. -/
structure Collaborators.Genuine (others : Collaborators) (sound : others.Store → Prop) : Prop where
  provider : others.provider.Genuine
  books : others.books.Genuine sound

namespace Loop

open World

variable {others : Collaborators} {sound : others.Store → Prop} {options : FollowOptions}

/-- The ledger stays in a state that there can be. -/
def Lasting (sound : others.Store → Prop) (world : World others) (_ : Trace)
    (final : World others) : Prop :=
  sound world.store → sound final.store

theorem lasting_chaining : Chaining (Lasting sound) where
  refl _ := id
  trans first second := second ∘ first

theorem between_always : Between options fun (_ : World others) _ _ => True where
  chaining := chaining_any
  log _ _ := trivial
  connect _ _ _ _ _ := trivial
  wait _ _ _ _ _ _ := trivial
  status _ _ _ _ _ := trivial
  progress _ _ _ _ _ := trivial

variable (genuine : others.Genuine sound)

include genuine in
theorem steps_lasting :
    Steps (Keeping (Lasting sound)) (fun _ => True) (fun _ => True) (fun _ => True) where
  closed := closed_keeping lasting_chaining
  record operation _ world result trace final ending := by
    obtain ⟨_, _, _, _, recorded, noting, -⟩ := ends_attempt_bind.mp ending
    obtain ⟨_, inner, rfl⟩ := ends_inside.mp recorded
    obtain ⟨_, concluded, -⟩ := ends_note_bind.mp noting
    obtain ⟨-, -, rfl⟩ := ends_ofExcept.mp concluded
    exact genuine.books.keeps operation inner
  ask question _ := by
    have asking : Keeps (Lasting sound) ((Chain.Connection.ask others.provider question).inside
        World.chain fun chain world => { world with chain }) := by
      intro world result trace final ending
      obtain ⟨_, -, rfl⟩ := ends_inside.mp ending
      exact id
    refine Keeps.bind lasting_chaining asking fun answer => ?_
    exact Keeps.bind lasting_chaining (Keeps.note fun _ => id) fun _ => Keeps.pure lasting_chaining _
  consult request world result trace final ending := by
    obtain ⟨_, asked, -⟩ := ends_note_bind.mp ending
    obtain ⟨_, -, rfl⟩ := ends_inside.mp asked
    exact id
  note _ _ := Keeps.note fun _ => id

include genuine in
theorem between_lasting : Between options (Lasting sound) where
  chaining := lasting_chaining
  log _ _ := id
  connect world result trace final ending := by
    obtain ⟨_, -, rfl⟩ := ends_inside.mp ending
    exact id
  wait pause world result trace final ending := by
    obtain ⟨_, -, rfl⟩ := ends_inside.mp ending
    exact id
  status := (steps_lasting genuine).ask _ trivial
  progress := (steps_lasting genuine).record _ trivial

variable {world final : World others} {trace : Trace} {loop : Loop}

include genuine

/-- What there is raises nothing that a round cannot clear. -/
theorem not_raised {fault : Fault} (held : sound world.store) (permanent : fault.isPermanent) :
    ¬ Raised options world fault trace final := by
  have clears : ¬ fault.Clears := by
    rw [Fault.Clears, permanent]
    exact Bool.noConfusion
  rintro (⟨outside, raised, -⟩ | ⟨raised, -⟩)
  · exact clears (genuine.books.clears outside held raised)
  · exact clears (genuine.provider.raises _ raised)

theorem clears_of_blames {α : Type} {call : Call (World others) α} {fault : Fault}
    (blames : Blames (Lasting sound) (Blamed options) call) (held : sound world.store)
    (ending : call.Ends world (.error fault) trace final) : fault.retryable? ≠ some false := by
  intro unclearable
  have permanent : fault.isPermanent := by simp [Fault.isPermanent, unclearable]
  obtain ⟨_, _, _, -, lasting, blamed⟩ := blames.blamed ending
  exact not_raised genuine (lasting held) permanent (blamed (.inl permanent))

omit genuine in
/-- What a round comes to that no fault halts: a summary, or none right after there were no words for
what a collaborator raised. -/
inductive Passed (options : FollowOptions) (trace : Trace) (final : World others) :
    Except Fault Summary → Prop
  | summed {summary : Summary} (clears : summary.permanent = false) :
      Passed options trace final (.ok summary)
  | silenced {before last : Trace} {middle : World others} (whole : trace = before ++ last)
      (speechless : Speechless options middle last final) :
      Passed options trace final (.error .wordless)

theorem tick_clears {result : Except Fault (Except Fault Summary × Loop)} (held : sound world.store)
    (ending : (loop.tick options).Ends world result trace final) :
    sound final.store ∧ ∃ report loop', result = .ok (report, loop') ∧
      loop'.haltedBy = loop.haltedBy ∧ Passed options trace final report := by
  have between : Between options (Lasting sound) := between_lasting genuine
  have steps := steps_lasting genuine
  have blames (height : Height) : Blames (Lasting sound) (Blamed options) (process options height) :=
    process_blames lasting_chaining steps
  have lasting := tick_keeps between.around (fun height => (blames height).kept) loop ending
  obtain ⟨report, loop', rfl⟩ := tick_reports ending
  refine ⟨lasting held, report, loop', rfl, ?_⟩
  cases tick_ended steps between ending with
  | clear clears same => exact ⟨same, .summed clears⟩
  | halted permanent _ _ _ lasting raised =>
      exact (not_raised genuine (lasting held) permanent raised).elim
  | silenced same whole _ speechless => exact ⟨same, .silenced whole speechless⟩

/-!
## Rounds until the loop is asked to stop
-/

omit genuine

/-- So many rounds, each with a summary and the pause after it. -/
inductive Rounds (options : FollowOptions) :
    Nat → World others → Loop → Trace → World others → Loop → Prop
  | none {world : World others} {loop : Loop} : Rounds options 0 world loop [] world loop
  | more {count : Nat} {world middle there final : World others} {loop ticked rested last : Loop}
      {summary : Summary} {rest : Except Fault Unit} {first second third : Trace}
      (going : loop.stopping = false)
      (tick : (loop.tick options).Ends world (.ok (.ok summary, ticked)) first middle)
      (wait : (ticked.heed (World.wait .betweenRounds)).Ends middle (.ok (rest, rested)) second there)
      (others : Rounds options count there rested third final last) :
      Rounds options (count + 1) world loop (first ++ (second ++ third)) final last

/-- How at most so many rounds end that no fault halts: once the loop is asked to stop, once they are
all done, or with one of which there is no summary. -/
inductive Ceased (options : FollowOptions) (limit : Nat) (world : World others) (loop : Loop) :
    Except Fault Unit → Trace → World others → Loop → Prop
  | stopped {count : Nat} {trace : Trace} {final : World others} {loop' : Loop}
      (rounds : Rounds options count world loop trace final loop')
      (reason : loop'.stopping ∨ count = limit) :
      Ceased options limit world loop (.ok ()) trace final loop'
  | unreported {count : Nat} {first second : Trace} {middle final : World others}
      {looped loop' : Loop} (rounds : Rounds options count world loop first middle looped)
      (below : count < limit) (going : looped.stopping = false)
      (tick : (looped.tick options).Ends middle (.ok (.error .wordless, loop')) second final) :
      Ceased options limit world loop (.error .wordless) (first ++ second) final loop'

theorem Ceased.after {limit : Nat} {middle there : World others} {ticked rested last : Loop}
    {summary : Summary} {rest : Except Fault Unit} {outcome : Except Fault Unit}
    {first second third : Trace} (ceased : Ceased options limit there rested outcome third final last)
    (going : loop.stopping = false)
    (tick : (loop.tick options).Ends world (.ok (.ok summary, ticked)) first middle)
    (wait : (ticked.heed (World.wait .betweenRounds)).Ends middle (.ok (rest, rested)) second
      there) :
    Ceased options (limit + 1) world loop outcome (first ++ (second ++ third)) final last := by
  cases ceased with
  | stopped rounds reason =>
      exact .stopped (.more going tick wait rounds) (reason.imp_right (congrArg (· + 1)))
  | unreported rounds below still unreported =>
      rw [← List.append_assoc second, ← List.append_assoc first]
      exact .unreported (.more going tick wait rounds) (Nat.succ_lt_succ below) still unreported

include genuine

theorem rounds_ends {limit : Nat} {result : Except Fault (Except Fault Unit × Loop)}
    (held : sound world.store) (running : loop.haltedBy = none)
    (ending : (rounds options limit loop).Ends world result trace final) :
    ∃ outcome loop', result = .ok (outcome, loop') ∧
      Ceased options limit world loop outcome trace final loop' := by
  induction limit generalizing world loop trace with
  | zero =>
      obtain ⟨rfl, rfl, rfl⟩ := ends_pure.mp ending
      exact ⟨_, loop, rfl, .stopped .none (.inr rfl)⟩
  | succ limit ih =>
      unfold rounds at ending
      split at ending
      · next stopping =>
        obtain ⟨rfl, rfl, rfl⟩ := ends_pure.mp ending
        exact ⟨_, loop, rfl, .stopped .none (.inl stopping)⟩
      · next going =>
        have going := Bool.eq_false_iff.mpr going
        obtain ⟨_, -, failed⟩ | ⟨⟨report, ticked⟩, middle, first, _, tick, onward, rfl⟩ :=
          ends_bind.mp ending
        · obtain ⟨-, _, _, impossible, -⟩ := tick_clears genuine held failed
          cases impossible
        obtain ⟨held', _, _, same, halted, passed⟩ := tick_clears genuine held tick
        cases same
        cases passed with
        | silenced =>
            obtain ⟨rfl, rfl, rfl⟩ := ends_pure.mp onward
            have ceased := Ceased.unreported .none (Nat.succ_pos limit) going tick
            exact ⟨_, ticked, rfl, by simpa using ceased⟩
        | summed =>
            rw [running] at halted
            simp only [halted] at onward
            obtain ⟨_, -, failed⟩ | ⟨⟨_, rested⟩, there, second, third, heeded, others, rfl⟩ :=
              ends_bind.mp onward
            · obtain ⟨_, impossible, -⟩ := heed_ends failed
              cases impossible
            obtain ⟨_, same, waited⟩ := heed_ends heeded
            cases same
            -- Being asked to stop in the pause shows in the loop that the next round starts with.
            have between : Between options (Lasting sound) := between_lasting genuine
            have there := between.wait _ waited held'
            obtain ⟨outcome, loop', rfl, ceased⟩ := ih there (by exact halted) others
            exact ⟨outcome, loop', rfl, ceased.after going tick heeded⟩

theorem start_ends {limit : Nat} {result : Except Fault (Except Fault Unit × Loop)}
    (held : sound world.store) (running : loop.haltedBy = none)
    (ending : (loop.start options limit).Ends world result trace final) :
    ∃ outcome made loop' line, Ceased options limit world loop outcome made final loop' ∧
      trace = made ++ [.logged line] ∧ result = .ok (outcome, { loop' with phase := .stopped }) := by
  obtain ⟨_, -, failed⟩ | ⟨⟨_, ended⟩, _, made, _, went, rest, rfl⟩ := ends_bind.mp ending
  · obtain ⟨_, _, impossible, -⟩ := rounds_ends genuine held running failed
    cases impossible
  obtain ⟨_, loop', same, ceased⟩ := rounds_ends genuine held running went
  cases same
  obtain ⟨_, returned, rfl⟩ := ends_log_bind.mp rest
  obtain ⟨rfl, rfl, rfl⟩ := ends_pure.mp returned
  exact ⟨_, made, ended, _, ceased, rfl, rfl⟩

theorem run_running {outside : World others → World others → Prop} {start : World others}
    (undisturbed : ∀ world world', outside world world' → sound world.store → sound world'.store)
    (begins : sound start.store) (run : Run options outside start trace world loop) :
    sound world.store ∧ loop.haltedBy = none := by
  induction run with
  | begin => exact ⟨begins, rfl⟩
  | resume _ resumed ih =>
      have between : Between options (Lasting sound) := between_lasting genuine
      refine ⟨resume_keeps between.around _ resumed ih.1, ?_⟩
      obtain ⟨_, _, same⟩ := resume_cases resumed
      cases same
      exact ih.2
  | tick _ ticked ih =>
      obtain ⟨held, _, _, same, halted, -⟩ := tick_clears genuine ih.1 ticked
      cases same
      exact ⟨held, halted.trans ih.2⟩
  | stop _ ih => exact ih
  | restart _ ih => exact ⟨ih.1, rfl⟩
  | meanwhile _ done ih => exact ⟨undisturbed _ _ done ih.1, ih.2⟩

omit genuine

/-- A round ends the loop only right after a collaborator raised a fault that no round can clear,
outside the handlers of events, and it ends without a summary only right after there were no words
for what a collaborator raised. Those that there are raise no fault of the one kind: whatever they
answer and whatever else fails, the loop goes on until it is asked to stop or meets the other. -/
theorem nothing_inside_a_height_halts (others : Collaborators) (options : FollowOptions) :
    (∀ (loop loop' : Loop) (report : Except Fault Summary) (world final : World others) trace,
      (loop.tick options).Ends world (.ok (report, loop')) trace final →
      (∀ summary, report = .ok summary → summary.permanent →
        ∃ fault before last line middle, loop'.haltedBy = some fault ∧ fault.isPermanent ∧
          trace = before ++ last ++ [.logged line] ∧ Raised options middle fault last final) ∧
      ∀ unreported, report = .error unreported → unreported = .wordless ∧
        ∃ before last middle, trace = before ++ last ∧ Speechless options middle last final) ∧
    (∀ (operation : Ledger.Operation) height, operation.IsOutside options →
      ¬ operation.IsHandlersAt height) ∧
    (∀ tag event height ordinal (world final : World others) result trace,
      (dispatch tag event height ordinal).Ends world result trace final →
      (∃ outcome, result = .ok outcome) ∨
        result = .error .wordless ∧ ∃ before last middle, trace = before ++ last ∧
          Unspoken height middle .wordless last final) ∧
    ∀ sound, others.Genuine sound →
      (∀ (world final : World others) fault trace, sound world.store →
        ((resumePoint options).Ends world (.error fault) trace final ∨
          (ask .status).Ends world (.error fault) trace final ∨
          ∃ height, (process options height).Ends world (.error fault) trace final) →
        fault.retryable? ≠ some false) ∧
      ∀ outside start trace world loop,
        (∀ world world', outside world world' → sound world.store → sound world'.store) →
        sound start.store → Run options outside start trace world loop →
        (∀ result more final, (loop.tick options).Ends world result more final →
          ∃ report loop', result = .ok (report, loop') ∧ loop'.haltedBy = none ∧
            Passed options more final report) ∧
        ∀ limit result more final, (loop.start options limit).Ends world result more final →
          ∃ outcome made loop' line, Ceased options limit world loop outcome made final loop' ∧
            more = made ++ [.logged line] ∧
            result = .ok (outcome, { loop' with phase := .stopped }) := by
  refine ⟨?_, fun operation height outside => outside.not_handlers height, ?_, ?_⟩
  · intro loop loop' report world final trace ending
    cases tick_ended steps_any between_always ending with
    | clear clears _ =>
        refine ⟨fun summary same permanent => ?_, nofun⟩
        cases same
        rw [clears] at permanent
        cases permanent
    | halted permanent _ halted whole _ raised =>
        exact ⟨fun _ _ _ => ⟨_, _, _, _, _, halted, permanent, whole, raised⟩, nofun⟩
    | silenced _ whole _ speechless =>
        refine ⟨nofun, fun unreported same => ?_⟩
        cases same
        exact ⟨rfl, _, _, _, whole, speechless⟩
  · intro tag event height ordinal world final result trace ending
    cases result with
    | ok outcome => exact .inl ⟨outcome, rfl⟩
    | error fault =>
        obtain ⟨before, middle, last, whole, -, unspoken⟩ :=
          (dispatch_unspoken chaining_any steps_any tag event ordinal).blamed ending
        obtain rfl := unspoken.1
        exact .inr ⟨rfl, before, last, middle, whole, unspoken⟩
  · intro sound genuine
    have steps := steps_lasting genuine
    refine ⟨fun world final fault trace held => ?_, ?_⟩
    · rintro (resuming | asking | ⟨height, processing⟩)
      · exact clears_of_blames genuine (resumePoint_blames lasting_chaining steps) held resuming
      · have blames : Blames (Lasting sound) (Blamed options) (ask .status) :=
          ask_blames lasting_chaining steps .status
        exact clears_of_blames genuine blames held asking
      · exact clears_of_blames genuine (process_blames lasting_chaining steps) held processing
    · intro outside start trace world loop undisturbed begins run
      obtain ⟨held, running⟩ := run_running genuine undisturbed begins run
      refine ⟨fun result more final ending => ?_, fun limit result more final ending => ?_⟩
      · obtain ⟨-, report, loop', rfl, same, passed⟩ := tick_clears genuine held ending
        exact ⟨report, loop', rfl, same.trans running, passed⟩
      · exact start_ends genuine held running ending

/-- A block without events, of which the ledger refuses to save that it is done. -/
def unsaved (fault : Fault) : World Collaborators.inMemory :=
  .inMemory { head := 6 } {} [("saveProgress", [fault])]

theorem foreign_unsaved {fault : Fault} (foreign : fault.retryable? = none) :
    Ledger.Refusing.Foreign (fun _ => True) (unsaved fault).store := by
  refine ⟨trivial, fun name faults found other member => ?_⟩
  simp only [unsaved, World.inMemory, List.lookup_cons, List.lookup_nil] at found
  split at found <;> cases found
  rw [List.mem_singleton.mp member]
  exact foreign

theorem genuine_inMemory :
    Collaborators.inMemory.Genuine (Ledger.Refusing.Foreign fun _ => True) :=
  ⟨.simulated, .refusing .tables⟩

theorem ends_of_report {α : Type} {read : Summary → α} {value : Option α} {world : World others}
    {loop : Loop}
    (computed : (loop.tick options world).result.toOption.map
      (fun told => told.1.toOption.map read) = some value) :
    ∃ report loop' trace final, (loop.tick options).Ends world (.ok (report, loop')) trace final ∧
      report.toOption.map read = value := by
  have ending := (loop.tick options).ends world
  obtain ⟨report, loop', same⟩ := tick_reports ending
  rw [same] at computed ending
  exact ⟨report, loop', _, _, ending, Option.some.inj computed⟩

/-- The one refusal ends the loop and the other does not. -/
theorem halts_by_refusal :
    (∃ summary loop' trace final, (({} : Loop).tick (optionsFrom 5)).Ends
        (unsaved (.setting "progress" "5" "none")) (.ok (.ok summary, loop')) trace final ∧
      summary.permanent ∧ ∃ fault before last line middle, loop'.haltedBy = some fault ∧
        fault.isPermanent ∧ trace = before ++ last ++ [.logged line] ∧
        Raised (optionsFrom 5) middle fault last final) ∧
    ∃ summary loop' trace final, (({} : Loop).tick (optionsFrom 5)).Ends
        (unsaved (.other "saveProgress refused")) (.ok (.ok summary, loop')) trace final ∧
      summary.error = some "saveProgress refused" ∧ summary.permanent = false ∧
      loop'.haltedBy = none := by
  obtain ⟨raised, -, -, goesOn⟩ :=
    nothing_inside_a_height_halts Collaborators.inMemory (optionsFrom 5)
  constructor
  · have computed : ((({} : Loop).tick (optionsFrom 5))
        (unsaved (.setting "progress" "5" "none"))).result.toOption.map
          (fun told => told.1.toOption.map Summary.permanent) = some (some true) := by
      decide +kernel
    obtain ⟨report, loop', trace, final, ending, told⟩ := ends_of_report computed
    cases report with
    | error fault => cases told
    | ok summary =>
        have permanent : summary.permanent = true := Option.some.inj told
        have halted := (raised _ _ _ _ _ _ ending).1 summary rfl permanent
        exact ⟨summary, loop', trace, final, ending, permanent, halted⟩
  · have computed : ((({} : Loop).tick (optionsFrom 5))
        (unsaved (.other "saveProgress refused"))).result.toOption.map
          (fun told => told.1.toOption.map Summary.error) =
            some (some (some "saveProgress refused")) := by
      decide +kernel
    obtain ⟨report, loop', trace, final, ending, told⟩ := ends_of_report computed
    have undisturbed (world world' : World Collaborators.inMemory) : False →
        Ledger.Refusing.Foreign (fun _ => True) world.store →
          Ledger.Refusing.Foreign (fun _ => True) world'.store := False.elim
    have foreign : Ledger.Refusing.Foreign (fun _ => True)
        (unsaved (.other "saveProgress refused")).store := foreign_unsaved rfl
    obtain ⟨-, runs⟩ := goesOn _ genuine_inMemory
    obtain ⟨ticks, -⟩ := runs (fun _ _ => False) _ _ _ _ undisturbed foreign .begin
    obtain ⟨_, _, same, halted, passed⟩ := ticks _ _ _ ending
    cases same
    cases passed with
    | silenced => cases told
    | summed clears =>
        exact ⟨_, loop', trace, final, ending, Option.some.inj told, clears, halted⟩

/-- Where the ledger refuses to save a height and there are no words for why, the round has no summary
and the loop ends. -/
theorem not_tick_always_reports :
    ¬ ∀ (sound : Collaborators.inMemory.Store → Prop) (world : World Collaborators.inMemory),
      Collaborators.inMemory.Genuine sound → sound world.store →
      ∀ report loop' trace final,
        (({} : Loop).tick (optionsFrom 5)).Ends world (.ok (report, loop')) trace final →
        ∃ summary, report = .ok summary := by
  intro always
  have computed : ((({} : Loop).tick (optionsFrom 5)) (unsaved .unspeakable)).result.toOption.map
      (fun told => told.1.toOption.map Summary.permanent) = some none := by
    decide +kernel
  obtain ⟨report, loop', trace, final, ending, told⟩ := ends_of_report computed
  obtain ⟨summary, rfl⟩ :=
    always _ _ genuine_inMemory (foreign_unsaved rfl) report loop' trace final ending
  cases told

end Loop

end RollCall
