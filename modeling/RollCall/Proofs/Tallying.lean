import RollCall.Proofs.Integrity
import RollCall.Proofs.Serving

/-!
# Whose votes are missing

Each voter index has at most one vote at a height, and the first signature of an index gives it. So
the votes that a height is still missing are those of the signatures whose index has none, less the
later ones of each index, and storing some of the first of them leaves the others missing.
-/

set_option autoImplicit false

namespace RollCall

open Call

/-!
## Rows under the next numbers
-/

namespace Ledger

section Rows

variable {ρ : Type}

/-- Rows with more of them at the end, each under the next number. -/
def appendAll (more : List ρ) (rows : List (Numbered ρ)) : List (Numbered ρ) :=
  rows ++ (more.zipIdx (rows.length + 1)).map fun entry => { id := entry.2, row := entry.1 }

@[simp] theorem appendAll_nil (rows : List (Numbered ρ)) : appendAll [] rows = rows := by
  simp [appendAll]

theorem appendAll_cons (row : ρ) (more : List ρ) (rows : List (Numbered ρ)) :
    appendAll (row :: more) rows = appendAll more (append row rows).2 := by
  simp [appendAll, append]

theorem appendAll_append (first second : List ρ) (rows : List (Numbered ρ)) :
    appendAll (first ++ second) rows = appendAll second (appendAll first rows) := by
  induction first generalizing rows with
  | nil => simp
  | cons row first ih => rw [List.cons_append, appendAll_cons, appendAll_cons, ih]

@[simp] theorem length_appendAll (more : List ρ) (rows : List (Numbered ρ)) :
    (appendAll more rows).length = rows.length + more.length := by
  simp [appendAll]

end Rows

/-!
## The votes of some signers
-/

namespace Tables

/-- How many votes are stored, on proposals and on grants. -/
def voteCount (tables : Tables) : Nat :=
  tables.proposalVotes.length + tables.grantVotes.length

/-- The tables with the votes of some signers on a target, whatever votes there are. -/
def withVotesOf (tables : Tables) (target : Target) (height : Height) (voters : List Signer) :
    Tables :=
  match target with
  | .granted grant =>
      { tables with
        grantVotes := appendAll (voters.map (·.grantVote grant height)) tables.grantVotes }
  | _ =>
      { tables with
        proposalVotes :=
          appendAll (voters.map (·.proposalVote target.id height)) tables.proposalVotes }

/-- Of some signers those whose votes are missing: the first of each voter index without a vote. -/
def missing (tables : Tables) (target : Target) (height : Height) (signers : List Signer) :
    List Signer :=
  (signers.filter fun signer => !tables.hasVote target height signer).eraseDupsBy
    fun later first => later.account.index == first.account.index

variable (tables : Tables) {target : Target} {height : Height}

@[simp] theorem withVotesOf_nil : tables.withVotesOf target height [] = tables := by
  cases target <;> simp [withVotesOf]

theorem withVotesOf_cons (voter : Signer) (voters : List Signer) :
    tables.withVotesOf target height (voter :: voters) =
      (tables.storeVote target height voter).withVotesOf target height voters := by
  cases target <;> simp [withVotesOf, storeVote, perform, appendAll_cons]

theorem withVotesOf_append (first second : List Signer) :
    tables.withVotesOf target height (first ++ second) =
      (tables.withVotesOf target height first).withVotesOf target height second := by
  cases target <;> simp [withVotesOf, appendAll_append]

@[simp] theorem target?_withVotesOf (voters : List Signer) (other : Height) :
    (tables.withVotesOf target height voters).target? other = tables.target? other := by
  cases target <;> rfl

@[simp] theorem voteCount_withVotesOf (voters : List Signer) :
    (tables.withVotesOf target height voters).voteCount = tables.voteCount + voters.length := by
  cases target <;> simp [withVotesOf, voteCount] <;> omega

/-!
## Votes that are missing
-/

theorem hasVote_storeVote (counted : height ≠ .nan) (voter signer : Signer) :
    (tables.storeVote target height voter).hasVote target height signer =
      (tables.hasVote target height signer || signer.account.index == voter.account.index) := by
  have self : height.equals height = true := Number.equals_iff.mpr ⟨rfl, counted⟩
  have index : (Number.ofNat voter.account.index).equals (.ofNat signer.account.index) =
      (signer.account.index == voter.account.index) := by
    rw [Bool.eq_iff_iff, Number.equals_ofNat_iff, Number.ofNat_inj, beq_iff_eq, eq_comm]
  cases target <;>
    simp [hasVote, storeVote, perform, append, Signer.proposalVote, Signer.grantVote, self, index]

theorem hasVote_withVotesOf {tables : Tables} {signer : Signer} (counted : height ≠ .nan)
    (voters : List Signer)
    (has : tables.hasVote target height signer ∨ signer ∈ voters) :
    (tables.withVotesOf target height voters).hasVote target height signer := by
  induction voters generalizing tables with
  | nil => simpa using has
  | cons voter voters ih =>
      rw [withVotesOf_cons]
      apply ih
      rw [hasVote_storeVote tables counted]
      rcases has with has | member
      · simp [has]
      · rcases List.mem_cons.mp member with rfl | later
        · simp
        · exact .inr later

@[simp] theorem missing_nil : tables.missing target height [] = [] := rfl

theorem missing_cons_of_hasVote {tables : Tables} {signer : Signer}
    (has : tables.hasVote target height signer) (rest : List Signer) :
    tables.missing target height (signer :: rest) = tables.missing target height rest := by
  simp [missing, has]

/-- Once the vote of a signer is stored, no vote of that index is missing any more. -/
theorem missing_cons_of_not_hasVote {tables : Tables} {signer : Signer} (counted : height ≠ .nan)
    (new : ¬ tables.hasVote target height signer) (rest : List Signer) :
    tables.missing target height (signer :: rest) =
      signer :: (tables.storeVote target height signer).missing target height rest := by
  simp only [missing, List.filter_cons, new, Bool.not_false, if_true, List.eraseDupsBy_cons,
    List.filter_filter, hasVote_storeVote tables counted]
  congr 2
  refine List.filter_congr fun other _ => ?_
  cases tables.hasVote target height other <;>
    cases other.account.index == signer.account.index <;> rfl

theorem missing_append (counted : height ≠ .nan) (first second : List Signer) :
    tables.missing target height (first ++ second) =
      tables.missing target height first ++
        (tables.withVotesOf target height (tables.missing target height first)).missing target
          height second := by
  induction first generalizing tables with
  | nil => simp
  | cons signer rest ih =>
      by_cases has : tables.hasVote target height signer
      · rw [List.cons_append, missing_cons_of_hasVote has, missing_cons_of_hasVote has]
        exact ih tables
      · rw [List.cons_append, missing_cons_of_not_hasVote counted has,
          missing_cons_of_not_hasVote counted has, withVotesOf_cons, ih, List.cons_append]

/-- Where some of the first missing votes are stored, the others are missing still. -/
theorem missing_withVotesOf {tables : Tables} (counted : height ≠ .nan)
    {signers earlier later : List Signer}
    (split : tables.missing target height signers = earlier ++ later) :
    (tables.withVotesOf target height earlier).missing target height signers = later := by
  -- a signer with a vote drops out on both sides; one without heads `earlier`, if there is any
  induction signers generalizing tables earlier with
  | nil =>
      obtain ⟨rfl, rfl⟩ := List.append_eq_nil_iff.mp split.symm
      simp
  | cons signer rest ih =>
      by_cases has : tables.hasVote target height signer
      · rw [missing_cons_of_hasVote has] at split
        rw [missing_cons_of_hasVote (hasVote_withVotesOf counted earlier (.inl has))]
        exact ih split
      · rw [missing_cons_of_not_hasVote counted has] at split
        cases earlier with
        | nil =>
            rw [withVotesOf_nil, missing_cons_of_not_hasVote counted has]
            exact split
        | cons voter earlier =>
            obtain ⟨rfl, others⟩ := List.cons_eq_cons.mp split
            rw [missing_cons_of_hasVote
              (hasVote_withVotesOf counted _ (.inr List.mem_cons_self)), withVotesOf_cons]
            exact ih others

end Tables

end Ledger

/-!
## Who signed
-/

namespace Chain.Content

variable {content : Content}

/-- A signer of a signature: the account of its address, under the address as it is signed but in
upper case, and with the flag of the signature. -/
structure Signs (content : Content) (signature : Signature) (signer : Signer) : Prop where
  known : content.account? signature.address = some signer.account
  address : signer.account.address = Text.upper signature.address
  flag : signer.flag = signature.flag

theorem address_of_account? {address : String} {account : Account}
    (known : content.account? address = some account) : account.address = Text.upper address := by
  obtain ⟨bytes, _, told⟩ := Option.bind_eq_some_iff.mp known
  unfold accountOf Account.read at told
  repeat' split at told
  all_goals cases told
  rfl

theorem signs_of_signersOf? {signatures : List Signature} {signers : List Signer}
    (known : content.signersOf? signatures = some signers) :
    List.Forall₂ content.Signs signatures signers := by
  induction signatures generalizing signers with
  | nil =>
      cases known
      exact .nil
  | cons signature rest ih =>
      obtain ⟨account, found, others⟩ := Option.bind_eq_some_iff.mp known
      obtain ⟨later, known', rfl⟩ := Option.map_eq_some_iff.mp others
      exact .cons ⟨found, address_of_account? found, rfl⟩ (ih known')

theorem signers_unique {signatures : List Signature} {signers others : List Signer}
    (signed : List.Forall₂ content.Signs signatures signers)
    (signed' : List.Forall₂ content.Signs signatures others) : signers = others := by
  refine List.right_unique_forall₂' ?_ signed signed'
  rintro signature ⟨account, flag⟩ ⟨account', flag'⟩ one two
  cases one.known.symm.trans two.known
  cases one.flag.trans two.flag.symm
  rfl

theorem exists_signersOf? {signatures : List Signature}
    (resolving : ∀ signature ∈ signatures, content.account? signature.address ≠ none) :
    ∃ signers, content.signersOf? signatures = some signers := by
  induction signatures with
  | nil => exact ⟨[], rfl⟩
  | cons signature rest ih =>
      obtain ⟨account, found⟩ := Option.ne_none_iff_exists'.mp
        (resolving signature List.mem_cons_self)
      obtain ⟨later, known⟩ :=
        ih fun other member => resolving other (List.mem_cons_of_mem _ member)
      exact ⟨{ account, flag := signature.flag } :: later, by simp [signersOf?, found, known]⟩

end Chain.Content

/-!
## Storing the votes that are missing
-/

namespace World

variable {others : Collaborators} (discreet : others.Discreet)
  {tables : others.Store → Ledger.Tables} (kept : others.books.KeptIn tables)

variable {target : Target} {height : Height} {world final : World others} {trace : Trace}

section Storing

include discreet kept

theorem storeVote_stores {signer : Signer}
    (ending : (storeVote target height signer).Ends world (.ok ()) trace final) :
    tables final.store = (tables world.store).storeVote target height signer := by
  obtain ⟨_, stored⟩ | ⟨⟨_, impossible⟩, _⟩ := storeVote_ends discreet kept ending
  · exact stored
  · cases impossible

theorem storeVotes_succeeds (counted : height ≠ .nan) {signers : List Signer} {inserted : Nat}
    (ending : (storeVotes target height signers).Ends world (.ok inserted) trace final) :
    inserted = ((tables world.store).missing target height signers).length ∧
      tables final.store = (tables world.store).withVotesOf target height
        ((tables world.store).missing target height signers) := by
  induction signers generalizing world trace inserted with
  | nil =>
      obtain ⟨same, _, rfl⟩ := ends_pure.mp ending
      cases same
      simp
  | cons signer rest ih =>
      obtain ⟨has, middle, _, _, asked, more, _⟩ := ends_bind_ok.mp ending
      obtain ⟨same, answered⟩ := hasVote_ends discreet kept asked
      obtain rfl := answered has rfl
      split at more
      · next has =>
        rw [Ledger.Tables.missing_cons_of_hasVote has, ← same]
        exact ih more
      · next new =>
        rw [Ledger.Tables.missing_cons_of_not_hasVote counted new, Ledger.Tables.withVotesOf_cons]
        obtain ⟨_, stored, _, _, storing, later, _⟩ := ends_bind_ok.mp more
        obtain ⟨count, _, _, _, voting, returned, _⟩ := ends_bind_ok.mp later
        obtain ⟨⟨⟩, _, rfl⟩ := ends_pure.mp returned
        rw [← same, ← storeVote_stores discreet kept storing, List.length_cons]
        obtain ⟨rfl, votes⟩ := ih voting
        exact ⟨rfl, votes⟩

end Storing

/-- What bringing the votes of a height up to date comes to where every signer is known: nothing if
no record is of the height, and else one vote of each voter index that had none. -/
inductive Tally (content : Chain.Content) (height : Height) (start : Ledger.Tables) :
    Reconciliation → Trace → Ledger.Tables → Prop where
  | undecided {trace : Trace} (missing : start.target? height = none)
      (nothing : start.Undecided height)
      (unasked : ∀ question, .asked question ∉ trace) :
      Tally content height start { target := none, inserted := 0, skipped := 0 } trace start
  | decided {target : Target} {signers : List Signer} {inserted skipped : Int} {trace : Trace}
      (found : start.target? height = some target) (decides : start.Decides height target)
      (signed : List.Forall₂ content.Signs (content.signatures height) signers)
      (counted : inserted = (start.missing target height signers).length)
      (others : inserted + skipped = (content (.commit height)).signatures.length) :
      Tally content height start { target := some target, inserted, skipped } trace
        (start.withVotesOf target height (start.missing target height signers))

/-- Of the votes that tables are missing at a height some are stored, the first ones. -/
inductive PartlyVoted (content : Chain.Content) (height : Height) (start : Ledger.Tables) :
    Ledger.Tables → Prop where
  | unvoted : PartlyVoted content height start start
  | voted {target : Target} {signers earlier later : List Signer}
      (found : start.target? height = some target)
      (signed : List.Forall₂ content.Signs (content.signatures height) signers)
      (split : start.missing target height signers = earlier ++ later) :
      PartlyVoted content height start (start.withVotesOf target height earlier)

section Resuming

variable {content : Chain.Content} {start left last last' : Ledger.Tables}
  {first second : Reconciliation} {trace' : Trace}

theorem Tally.partlyVoted (tally : Tally content height start first trace last) :
    PartlyVoted content height start last := by
  cases tally with
  | undecided => exact .unvoted
  | decided found _ signed => exact .voted found signed (List.append_nil _).symm

/-- Where some of the missing votes are stored, what is left to do is to store the others. -/
theorem Tally.resume (once : Tally content height start first trace last)
    (part : PartlyVoted content height start left)
    (tally : Tally content height left second trace' last') :
    last' = last ∧ second.target = first.target ∧
      second.inserted + second.skipped = first.inserted + first.skipped ∧
      left.voteCount + second.inserted = last.voteCount := by
  cases once with
  | undecided missing =>
      cases part with
      | unvoted =>
          -- The votes left to store are those behind the ones that were stored.
          cases tally with
          | undecided => simp
          | decided found => cases missing.symm.trans found
      | voted found => cases missing.symm.trans found
  | @decided target signers _ _ _ found _ signed inserted skipped =>
      have counted := Ledger.Tables.counted_of_target? found
      obtain ⟨earlier, later, split, rfl⟩ : ∃ earlier later,
          start.missing target height signers = earlier ++ later ∧
            left = start.withVotesOf target height earlier := by
        cases part with
        | unvoted => exact ⟨[], _, rfl, by simp⟩
        | voted found' signed' split =>
            cases found.symm.trans found'
            cases Chain.Content.signers_unique signed signed'
            exact ⟨_, _, split, rfl⟩
      cases tally with
      | undecided missing =>
          rw [Ledger.Tables.target?_withVotesOf, found] at missing
          cases missing
      | decided found' _ signed' inserted' skipped' =>
          rw [Ledger.Tables.target?_withVotesOf, found] at found'
          cases found'
          cases Chain.Content.signers_unique signed signed'
          rw [Ledger.Tables.missing_withVotesOf counted split] at inserted' ⊢
          rw [split, Ledger.Tables.withVotesOf_append]
          exact ⟨rfl, rfl, skipped'.trans skipped.symm, by simp [inserted']⟩

end Resuming

section Lookups

include discreet kept

theorem target_leaves : Keeps (fun (world : World others) _ (final : World others) =>
    tables final.store = tables world.store) (target? height) := by
  refine target_keeps ((steps_untouched discreet kept id).parts fun _ => trivial) ?_
  intro operation lookup tables
  cases operation <;> first | rfl | exact lookup.elim

theorem target_unasked : Keeps (Noting fun note => ∀ question, note ≠ .asked question)
    (target? height : Call (World others) _) := by
  refine target_keeps (parts_noting discreet kept _ (fun _ => True) (fun _ => False) ?_ (by simp)
    (by simp)) fun _ _ => trivial
  rintro note outside question rfl
  cases outside

end Lookups

section Telling

variable {content : Chain.Content}

include discreet kept

theorem reconcileTarget_succeeds {reconciliation : Reconciliation} (counted : height ≠ .nan)
    (ending : (reconcileTarget target height).Ends world (.ok reconciliation) trace final)
    (said : ∀ note ∈ trace, note.IsSaid content) :
    ∃ signers, content.signers? height = some signers ∧
      tables final.store = (tables world.store).withVotesOf target height
        ((tables world.store).missing target height signers) ∧
      reconciliation =
        { target := some target
          inserted := ((tables world.store).missing target height signers).length
          skipped := (content (.commit height)).signatures.length -
            ((tables world.store).missing target height signers).length } := by
  obtain ⟨commit, fetched, _, _, asked, more, rfl⟩ := ends_bind_ok.mp ending
  obtain ⟨signers, known, _, _, resolved, casting, rfl⟩ := ends_bind_ok.mp more
  obtain ⟨inserted, voted, _, _, stored, logging, rfl⟩ := ends_bind_ok.mp casting
  obtain ⟨_, returned, _⟩ := ends_log_bind.mp logging
  obtain ⟨⟨⟩, _, rfl⟩ := ends_pure.mp returned
  obtain ⟨untouched, asking, _, ⟨_, same, rfl⟩ | ⟨⟨_, impossible⟩, _⟩⟩ := ask_ends discreet asked
  swap
  · cases impossible
  cases same
  obtain rfl : commit = content (.commit height) := said (.answered _ commit) (by simp) _ _ rfl
  have found := signers_ends discreet resolved fun note member =>
    Note.tellsOf_of_isSaid (said note (by simp [member])) true
  have same := signers_keeps ((steps_sameStore discreet).parts fun _ => trivial)
    (fun _ _ => trivial) _ resolved
  obtain ⟨rfl, votes⟩ := storeVotes_succeeds discreet kept counted stored
  rw [same, untouched] at votes ⊢
  exact ⟨signers, found, votes, rfl⟩

theorem reconcile_succeeds {reconciliation : Reconciliation}
    (ending : (reconcile height).Ends world (.ok reconciliation) trace final)
    (said : ∀ note ∈ trace, note.IsSaid content) :
    Tally content height (tables world.store) reconciliation trace (tables final.store) := by
  obtain ⟨found, looked, looking, _, looks, more, rfl⟩ := ends_bind_ok.mp ending
  have untouched := target_leaves discreet kept looks
  obtain rfl := target_reads discreet kept looks
  cases decided : (tables world.store).target? height with
  | none =>
      rw [decided] at more
      obtain ⟨_, returned, rfl⟩ := ends_note_bind.mp (ends_pure_bind.mp more)
      obtain ⟨⟨⟩, rfl, rfl⟩ := ends_pure.mp returned
      rw [untouched]
      refine .undecided decided (Ledger.Tables.undecided_of_target? decided) ?_
      intro question member
      rcases List.mem_append.mp member with earlier | last
      · exact target_unasked discreet kept looks _ earlier question rfl
      · simp at last
  | some target =>
      have counted := Ledger.Tables.counted_of_target? decided
      rw [decided] at more
      obtain ⟨_, _, _, _, came, ended, rfl⟩ := ends_bind_ok.mp more
      obtain ⟨_, returned, rfl⟩ := ends_note_bind.mp ended
      obtain ⟨⟨⟩, _, rfl⟩ := ends_pure.mp returned
      obtain ⟨signers, known, votes, rfl⟩ := reconcileTarget_succeeds discreet kept counted came
        fun note member => said note (by simp [member])
      rw [votes, untouched]
      exact .decided decided (Ledger.Tables.decides_of_target? decided)
        (Chain.Content.signs_of_signersOf? known) rfl (by omega)

end Telling

/-!
## Where nothing fails
-/

section Serving

variable {content : Chain.Content} {P : World others → Prop} (serving : Serving content P)

include discreet kept serving

theorem Serving.tells : Parts (Keeping fun (world : World others) trace final =>
    P world → P final ∧ ∀ note ∈ trace, note.IsSaid content) (fun _ => True) (fun _ => True) where
  sequential := by
    refine (closed_keeping ⟨fun world ready => ⟨ready, by simp⟩, ?_⟩).toSequential
    intro world middle final first second one two ready
    obtain ⟨ready', said⟩ := one ready
    obtain ⟨ready'', said'⟩ := two ready'
    exact ⟨ready'', List.forall_mem_append.mpr ⟨said, said'⟩⟩
  record := by
    intro operation _ world result trace final ending ready
    obtain ⟨_, _, ready'⟩ := (serving.record operation).ends ready ending
    refine ⟨ready', fun note member => ?_⟩
    obtain ⟨quiet, allQuiet, ⟨_, _, rfl⟩ | ⟨_, _, rfl⟩⟩ := record_ends discreet kept ending
    all_goals
      rcases List.mem_append.mp member with quietly | last
      · exact fun question answer told =>
          (Note.unsaid_of_outside (allQuiet note quietly) question answer told).elim
      · rw [List.mem_singleton.mp last]
        simp [Note.IsSaid]
  ask := by
    intro question _ world result trace final ending ready
    obtain ⟨_, rfl, rfl, ready'⟩ := (serving.ask question).ends ready ending
    refine ⟨ready', fun note member other answer told => ?_⟩
    obtain ⟨_, asking, noted, ⟨_, same, rfl⟩ | ⟨⟨_, impossible⟩, _⟩⟩ := ask_ends discreet ending
    · cases same
      subst told
      rcases List.mem_append.mp member with earlier | last
      · rcases noted _ earlier with outside | impossible
        · cases outside
        · cases impossible
      · cases List.mem_singleton.mp last
        rfl
    · cases impossible
  log _ _ _ _ := Keeps.note fun _ ready => ⟨ready, by simp [Note.IsSaid]⟩

theorem reconcile_tallies {result : Except Fault Reconciliation} (ready : P world)
    (resolving : ∀ signature ∈ content.signatures height,
      content.account? signature.address ≠ none)
    (ending : (reconcile height).Ends world result trace final) :
    ∃ reconciliation, result = .ok reconciliation ∧ P final ∧
      Tally content height (tables world.store) reconciliation trace (tables final.store) := by
  obtain ⟨signers, known⟩ := Chain.Content.exists_signersOf? resolving
  obtain ⟨reconciliation, rfl⟩ := reconcile_serves serving discreet kept ready (.inr known) ending
  have parts := Serving.tells discreet kept serving
  obtain ⟨ready', said⟩ := reconcile_keeps parts (fun _ _ => trivial) (fun _ _ => trivial)
    (fun _ _ => trivial) (Keeps.note fun _ ready => ⟨ready, by simp [Note.IsSaid]⟩) ending ready
  exact ⟨reconciliation, rfl, ready', reconcile_succeeds discreet kept ending said⟩

/-- Bringing the votes of a height up to date stores those that are missing, and doing it again
changes nothing: what was inserted is skipped then, with all that was skipped before. -/
theorem reconcile_once_and_again {result : Except Fault Reconciliation} (ready : P world)
    (resolving : ∀ signature ∈ content.signatures height,
      content.account? signature.address ≠ none)
    (ending : (reconcile height).Ends world result trace final) :
    ∃ first, result = .ok first ∧ P final ∧
      Tally content height (tables world.store) first trace (tables final.store) ∧
      ∀ ⦃world' result' trace' final'⦄, P world' → tables world'.store = tables final.store →
        (reconcile height).Ends world' result' trace' final' →
        result' = .ok { first with inserted := 0, skipped := first.inserted + first.skipped } ∧
          tables final'.store = tables final.store := by
  obtain ⟨first, rfl, ready', tally⟩ :=
    reconcile_tallies discreet kept serving ready resolving ending
  refine ⟨first, rfl, ready', tally, ?_⟩
  intro world' result' trace' final' ready'' same again
  obtain ⟨⟨target, inserted, skipped⟩, rfl, _, tally'⟩ :=
    reconcile_tallies discreet kept serving ready'' resolving again
  rw [same] at tally'
  obtain ⟨untouched, target', total, count⟩ := tally.resume tally.partlyVoted tally'
  refine ⟨?_, untouched⟩
  simp only [Except.ok.injEq, Reconciliation.mk.injEq] at target' total count ⊢
  exact ⟨target', by omega, by omega⟩

end Serving

/-- A chain with a block that is signed under three addresses of two validators and one that is
empty. -/
def signedChain : Chain.Simulated where
  commits := [(.ofNat 1, [Chain.signedBy "AA01", Chain.signedBy "", Chain.signedBy "AA02",
    Chain.signedBy "aa03"])]
  accounts := [("AA01", .number (.ofNat 11)), ("AA02", .number (.ofNat 12)),
    ("AA03", .number (.ofNat 11))]

/-- Tables with a grant of the height of that block, on which one of the two has voted. -/
def grantedTables : Ledger.Tables where
  grants := [⟨.ofNat 5, "AA05", .ofNat 1, .ofNat 9, .ofNat 3, "AA03", true⟩]
  grantVotes := [⟨1, ⟨.ofNat 3, "AA03", .ofNat 5, "AA05", .ofNat 12, "AA02", .ofNat 1, .ofNat 2⟩⟩]

theorem signedChain_resolving :
    ∀ signature ∈ Chain.Content.signatures signedChain.answer (.ofNat 1),
      Chain.Content.account? signedChain.answer signature.address ≠ none := by
  decide +kernel

theorem reconcile_once_and_again_on_grant :
    ∃ first trace final trace' final',
      (reconcile (.ofNat 1)).Ends (World.inMemory signedChain grantedTables) (.ok first) trace
        final ∧
      Tally signedChain.answer (.ofNat 1) grantedTables first trace final.store.ledger ∧
      (reconcile (.ofNat 1)).Ends final (.ok { first with inserted := 0, skipped := 4 }) trace'
        final' ∧
      final'.store.ledger = final.store.ledger := by
  have ending := Call.ends (reconcile (.ofNat 1)) (World.inMemory signedChain grantedTables)
  obtain ⟨first, succeeded, ready, tally, again⟩ := reconcile_once_and_again
    Collaborators.discreet_inMemory Collaborators.keptIn_inMemory (serving_ready signedChain.answer)
    (Loop.ready_inMemory signedChain grantedTables) signedChain_resolving ending
  have ending' := Call.ends (reconcile (.ofNat 1)) (reconcile (.ofNat 1)
    (World.inMemory signedChain grantedTables)).state
  obtain ⟨succeeded', same⟩ := again ready rfl ending'
  have all : first.inserted + first.skipped = 4 := by
    generalize (reconcile (.ofNat 1) (World.inMemory signedChain
      grantedTables)).state.store.ledger = last at tally
    cases tally with
    | undecided missing => cases missing
    | decided _ _ _ _ skipped => exact skipped
  rw [all] at succeeded'
  rw [succeeded] at ending
  rw [succeeded'] at ending'
  exact ⟨first, _, _, _, _, ending, tally, ending', same⟩

/-- Where nothing is decided no signature is skipped, neither the first time nor the second. -/
theorem not_reconcile_skips_all :
    ∃ first second trace final trace' final', (∀ signature ∈
        Chain.Content.signatures signedChain.answer (.ofNat 1),
          Chain.Content.account? signedChain.answer signature.address ≠ none) ∧
      (reconcile (.ofNat 1)).Ends (World.inMemory signedChain {}) (.ok first) trace final ∧
      (reconcile (.ofNat 1)).Ends final (.ok second) trace' final' ∧
      second.skipped ≠ (signedChain.answer (.commit (.ofNat 1))).signatures.length := by
  refine ⟨_, _, _, _, _, _, signedChain_resolving, ⟨_, rfl⟩, ⟨_, rfl⟩, ?_⟩
  decide

end World

end RollCall
