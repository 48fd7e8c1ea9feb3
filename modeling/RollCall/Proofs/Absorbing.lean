import RollCall.Proofs.Rows
import RollCall.Proofs.Words

/-!
# What a block makes of the tables

The handlers of a block's events, as one function of the tables: nothing is refused, and what is
logged or said to the agent does not count. Each kind of row is looked at for itself.
-/

set_option autoImplicit false

namespace RollCall

/-!
## What one event stores
-/

namespace Event

def grantRow? (event : Event) (height : Height) : Option Ledger.Grant :=
  match event.typed? with
  | some ⟨.grant, content⟩ => some (content.row height)
  | _ => none

def validatorRow? (event : Event) : Option Ledger.Validator :=
  match event.typed? with
  | some ⟨.grant, content⟩ => some content.validatorRow
  | _ => none

def discussionRow? (event : Event) (height : Height) (ordinal : Number) :
    Option Ledger.Discussion :=
  match event.typed? with
  | some ⟨.discussion, content⟩ => some (content.row height ordinal)
  | _ => none

end Event

namespace Ledger

/-- Two proposals are one, or are of one id and both made at a height. -/
def Proposal.SameMaking (height : Height) (first again : Proposal) : Prop :=
  first = again ∨ first.id = again.id ∧ first.createdAt = height ∧ again.createdAt = height

/-- The rows with one stored, if there is one. -/
def storing {ρ κ : Type} [BEq κ] (id : ρ → κ) (row : Option ρ) (rows : List ρ) : List ρ :=
  row.elim rows (replaceById id · rows)

/-- The rows after some entries, each of which stores a row or none upon those so far. -/
def storingAll {ρ κ ε : Type} [BEq κ] (id : ρ → κ) (row? : List ρ → ε → Option ρ) (rows : List ρ)
    (entries : List ε) : List ρ :=
  entries.foldl (fun rows entry => storing id (row? rows entry) rows) rows

namespace Tables

def proposalRow? (tables : Tables) (height : Height) (event : Event) : Option Proposal :=
  event.proposalId?.bind fun id =>
    (event.wordOn id).row? height (byId? Proposal.id tables.proposals id)

/-- Whether a discussion is stored for a place in a block. -/
def hasDiscussion (tables : Tables) (height : Height) (ordinal : Number) : Bool :=
  tables.discussions.any fun discussion =>
    discussion.row.height.equals height && discussion.row.ordinal.equals ordinal

/-- The tables after an event of a block. -/
def absorb (tables : Tables) (height : Height) (ordinal : Number) (event : Event) : Tables :=
  { tables with
    validators := storing Validator.id event.validatorRow? tables.validators
    proposals := storing Proposal.id (tables.proposalRow? height event) tables.proposals
    grants := storing Grant.id (event.grantRow? height) tables.grants
    discussions :=
      if tables.hasDiscussion height ordinal then tables.discussions
      else (event.discussionRow? height ordinal).elim tables.discussions
        fun row => (append row tables.discussions).2 }

/-- The tables after events of a block, of which `ordinal` came before. -/
def absorbAll (tables : Tables) (height : Height) : List Event → Nat → Tables
  | [], _ => tables
  | event :: rest, ordinal =>
      (tables.absorb height (.ofNat ordinal) event).absorbAll height rest (ordinal + 1)

end Tables

/-!
## Rows by id in the course of a block
-/

section Storing

variable {ρ : Type} {id : ρ → Number}

theorem byId?_storing (row : Option ρ) (rows : List ρ) (wanted : Number) :
    byId? id (storing id row rows) wanted =
      (row.filter (id · = wanted)).or (byId? id rows wanted) := by
  cases row with
  | none => rfl
  | some row =>
      change byId? id (replaceById id row rows) wanted = _
      rw [byId?_replaceById, Option.filter_some]
      split <;> simp_all

theorem ids_prefix_storing (row : Option ρ) (rows : List ρ) :
    rows.map id <+: (storing id row rows).map id := by
  cases row with
  | none => exact List.prefix_rfl
  | some row =>
      rcases map_id_replaceById id row rows with ⟨ids, _⟩ | ⟨ids, _⟩
      · exact ids ▸ List.prefix_rfl
      · exact ids ▸ List.prefix_append _ _

theorem nodup_storing {rows : List ρ} (distinct : (rows.map id).Nodup) (row : Option ρ) :
    ((storing id row rows).map id).Nodup := by
  cases row with
  | none => exact distinct
  | some row => exact nodup_replaceById distinct row

theorem ids_prefix_storingAll {ε : Type} (row? : List ρ → ε → Option ρ) (rows : List ρ)
    (entries : List ε) : rows.map id <+: (storingAll id row? rows entries).map id := by
  induction entries generalizing rows with
  | nil => exact List.prefix_rfl
  | cons entry rest ih => exact (ids_prefix_storing _ _).trans (ih _)

theorem nodup_storingAll {ε : Type} (row? : List ρ → ε → Option ρ) {rows : List ρ}
    (distinct : (rows.map id).Nodup) (entries : List ε) :
    ((storingAll id row? rows entries).map id).Nodup := by
  induction entries generalizing rows with
  | nil => exact distinct
  | cons entry rest ih => exact ih (nodup_storing distinct _)

theorem byId?_storingAll {ε : Type} (row? : ε → Option ρ) (rows : List ρ) (entries : List ε)
    (wanted : Number) :
    byId? id (storingAll id (fun _ => row?) rows entries) wanted =
      entries.foldl (fun old entry => ((row? entry).filter (id · = wanted)).or old)
        (byId? id rows wanted) := by
  induction entries generalizing rows with
  | nil => rfl
  | cons entry rest ih =>
      rw [List.foldl_cons, ← byId?_storing]
      exact ih _

/-- Rows with at least the ids of others, and none that those lack, have just these ids. -/
theorem ids_eq_of_extended {rows more : List ρ} (extended : rows.map id <+: more.map id)
    (distinct : (more.map id).Nodup)
    (none_new : ∀ wanted, byId? id rows wanted = none → byId? id more wanted = none) :
    more.map id = rows.map id := by
  refine (extended.eq_of_length_le (List.Nodup.subperm distinct ?_).length_le).symm
  intro wanted member
  by_contra missing
  exact byId?_eq_none_iff.mp (none_new wanted (byId?_eq_none_iff.mpr missing)) member

/-- What takes the place of something in the course of a list does so again. -/
theorem foldl_or_again {α β : Type} (next : α → Option β) (entries : List α) (old : Option β) :
    entries.foldl (fun old entry => (next entry).or old)
        (entries.foldl (fun old entry => (next entry).or old) old) =
      entries.foldl (fun old entry => (next entry).or old) old := by
  have last : ∀ old, entries.foldl (fun old entry => (next entry).or old) old =
      (entries.foldl (fun old entry => (next entry).or old) none).or old := by
    induction entries with
    | nil => intro old; rfl
    | cons entry rest ih =>
        intro old
        rw [List.foldl_cons, List.foldl_cons, ih, ih ((next entry).or none), Option.or_none,
          Option.or_assoc]
  rw [last (entries.foldl _ old), last old, ← Option.or_assoc, Option.or_self]

/-- Entries of which each stores the same again, whatever is there, store nothing new the second
time. -/
theorem storingAll_again {ε : Type} (row? : ε → Option ρ) {rows : List ρ}
    (distinct : (rows.map id).Nodup) (entries : List ε) :
    storingAll id (fun _ => row?) (storingAll id (fun _ => row?) rows entries) entries =
      storingAll id (fun _ => row?) rows entries := by
  have once := nodup_storingAll (fun _ => row?) distinct entries
  have same : ∀ wanted, byId? id (storingAll id (fun _ => row?)
      (storingAll id (fun _ => row?) rows entries) entries) wanted =
      byId? id (storingAll id (fun _ => row?) rows entries) wanted := by
    intro wanted
    rw [byId?_storingAll, byId?_storingAll, foldl_or_again]
  refine rows_ext once (ids_eq_of_extended (ids_prefix_storingAll _ _ _)
    (nodup_storingAll _ once entries) fun wanted none => (same wanted).trans none) same

end Storing

/-!
## Each kind of row in the course of a block
-/

namespace Tables

variable (tables : Tables) (height : Height)

theorem progress_absorbAll (events : List Event) (ordinal : Nat) :
    (tables.absorbAll height events ordinal).progress = tables.progress := by
  induction events generalizing tables ordinal with
  | nil => rfl
  | cons event rest ih => exact ih _ _

/-- What is saved as done plays no part in what a block says. -/
theorem absorbAll_advance (id : String) (done : Height) (events : List Event) (ordinal : Nat) :
    (tables.advance id done).absorbAll height events ordinal =
      (tables.absorbAll height events ordinal).advance id done := by
  induction events generalizing tables ordinal with
  | nil => rfl
  | cons event rest ih => exact ih (tables.absorb height (.ofNat ordinal) event) _

theorem proposalVotes_absorbAll (events : List Event) (ordinal : Nat) :
    (tables.absorbAll height events ordinal).proposalVotes = tables.proposalVotes := by
  induction events generalizing tables ordinal with
  | nil => rfl
  | cons event rest ih => exact ih _ _

theorem grantVotes_absorbAll (events : List Event) (ordinal : Nat) :
    (tables.absorbAll height events ordinal).grantVotes = tables.grantVotes := by
  induction events generalizing tables ordinal with
  | nil => rfl
  | cons event rest ih => exact ih _ _

variable {tables} in
theorem Keyed.absorbAll (keyed : tables.Keyed) (events : List Event) (ordinal : Nat) :
    (tables.absorbAll height events ordinal).Keyed := by
  induction events generalizing tables ordinal with
  | nil => exact keyed
  | cons event rest ih =>
      apply ih
      exact ⟨nodup_storing keyed.validators _, nodup_storing keyed.proposals _,
        nodup_storing keyed.grants _⟩

/-!
### Rows with an id of their own
-/

theorem validators_absorbAll (events : List Event) (ordinal : Nat) :
    (tables.absorbAll height events ordinal).validators =
      storingAll Validator.id (fun _ => Event.validatorRow?) tables.validators events := by
  induction events generalizing tables ordinal with
  | nil => rfl
  | cons event rest ih => exact ih _ _

theorem grants_absorbAll (events : List Event) (ordinal : Nat) :
    (tables.absorbAll height events ordinal).grants =
      storingAll Grant.id (fun _ event => event.grantRow? height) tables.grants events := by
  induction events generalizing tables ordinal with
  | nil => rfl
  | cons event rest ih => exact ih _ _

theorem proposals_absorbAll (events : List Event) (ordinal : Nat) :
    (tables.absorbAll height events ordinal).proposals =
      storingAll Proposal.id (fun rows => proposalRow? { proposals := rows } height)
        tables.proposals events := by
  induction events generalizing tables ordinal with
  | nil => rfl
  | cons event rest ih => exact ih _ _

/-!
### Discussions
-/

/-- Every discussion among some events of a block, of which `ordinal` came before, is stored. -/
def Discussed (tables : Tables) (height : Height) : List Event → Nat → Prop
  | [], _ => True
  | event :: rest, ordinal =>
      ((event.discussionRow? height (.ofNat ordinal)).isSome →
        tables.hasDiscussion height (.ofNat ordinal)) ∧
      tables.Discussed height rest (ordinal + 1)

variable {tables height} in
theorem hasDiscussion_absorb {ordinal other : Number} {event : Event}
    (has : tables.hasDiscussion height other) :
    (tables.absorb height ordinal event).hasDiscussion height other := by
  change List.any _ _
  dsimp only [absorb]
  split
  · exact has
  · cases event.discussionRow? height ordinal with
    | none => exact has
    | some row =>
        change (tables.discussions ++ [_]).any _
        rw [List.any_append, Bool.or_eq_true]
        exact .inl has

variable {tables height} in
theorem hasDiscussion_absorbAll {other : Number} (has : tables.hasDiscussion height other)
    (events : List Event) (ordinal : Nat) :
    (tables.absorbAll height events ordinal).hasDiscussion height other := by
  induction events generalizing tables ordinal with
  | nil => exact has
  | cons event rest ih => exact ih (hasDiscussion_absorb has) _

variable {tables height} in
theorem hasDiscussion_absorb_self (begun : (0 : Height).below height) {ordinal : Nat}
    {event : Event} (speaks : (event.discussionRow? height (.ofNat ordinal)).isSome) :
    (tables.absorb height (.ofNat ordinal) event).hasDiscussion height (.ofNat ordinal) := by
  change List.any _ _
  dsimp only [absorb]
  split
  · next has => exact has
  · obtain ⟨row, spoken⟩ := Option.isSome_iff_exists.mp speaks
    rw [spoken]
    change (tables.discussions ++ [_]).any _
    rw [List.any_append, Bool.or_eq_true]
    refine .inr ?_
    have placed : row.height = height ∧ row.ordinal = .ofNat ordinal := by
      unfold Event.discussionRow? at spoken
      split at spoken
      · cases spoken
        exact ⟨rfl, rfl⟩
      · cases spoken
    simp [placed.1, placed.2, Number.equals_self_of_below begun, Number.equals_ofNat_iff]

theorem discussed_absorbAll (begun : (0 : Height).below height) (events : List Event)
    (ordinal : Nat) :
    (tables.absorbAll height events ordinal).Discussed height events ordinal := by
  induction events generalizing tables ordinal with
  | nil => trivial
  | cons event rest ih =>
      exact ⟨fun speaks => hasDiscussion_absorbAll (hasDiscussion_absorb_self begun speaks) _ _,
        ih _ _⟩

variable {tables height} in
theorem discussions_absorbAll_of_discussed {events : List Event} {ordinal : Nat}
    (discussed : tables.Discussed height events ordinal) :
    (tables.absorbAll height events ordinal).discussions = tables.discussions := by
  induction events generalizing tables ordinal with
  | nil => rfl
  | cons event rest ih =>
      have same : (tables.absorb height (.ofNat ordinal) event).discussions = tables.discussions := by
        dsimp only [absorb]
        split
        · rfl
        · next missing =>
          cases spoken : event.discussionRow? height (.ofNat ordinal) with
          | none => rfl
          | some row => exact absurd (discussed.1 (by rw [spoken]; rfl)) missing
      refine (ih ?_).trans same
      have rest' := discussed.2
      clear ih discussed
      generalize ordinal + 1 = next at rest'
      induction rest generalizing next with
      | nil => trivial
      | cons other more ih => exact ⟨fun speaks => hasDiscussion_absorb (rest'.1 speaks), ih _ rest'.2⟩

theorem discussions_absorbAll_again (begun : (0 : Height).below height) (events : List Event)
    (ordinal : Nat) :
    ((tables.absorbAll height events ordinal).absorbAll height events ordinal).discussions =
      (tables.absorbAll height events ordinal).discussions :=
  discussions_absorbAll_of_discussed (tables.discussed_absorbAll height begun events ordinal)

/-!
### Proposals
-/

theorem byId?_proposals_absorb (ordinal : Number) (event : Event) (wanted : Number) :
    byId? Proposal.id (tables.absorb height ordinal event).proposals wanted =
      Event.Word.after height (byId? Proposal.id tables.proposals wanted) (event.wordOn wanted) := by
  change byId? Proposal.id (storing Proposal.id _ _) wanted = _
  rw [byId?_storing, proposalRow?]
  cases about : event.proposalId? with
  | none =>
      rw [Event.wordOn_of_none about]
      rfl
  | some id =>
      rw [Option.bind_some]
      by_cases same : id = wanted
      · subst same
        unfold Event.Word.after
        cases new : (event.wordOn id).row? height (byId? Proposal.id tables.proposals id) with
        | none => rfl
        | some row =>
            have same := Event.id_of_row? (fun old found => id_of_byId? found) new
            rw [Option.filter_some, if_pos (by simpa using same)]
      · rw [Event.wordOn_of_ne about same, Event.Word.after_silent]
        cases new : (event.wordOn id).row? height (byId? Proposal.id tables.proposals id) with
        | none => rfl
        | some row =>
            have other : row.id ≠ wanted := by
              rw [Event.id_of_row? (fun old found => id_of_byId? found) new]
              exact same
            rw [Option.filter_some, if_neg (by simpa using other), Option.none_or]

theorem byId?_proposals_absorbAll (events : List Event) (ordinal : Nat) (wanted : Number) :
    byId? Proposal.id (tables.absorbAll height events ordinal).proposals wanted =
      Event.Word.afterAll height (events.map (·.wordOn wanted))
        (byId? Proposal.id tables.proposals wanted) := by
  induction events generalizing tables ordinal with
  | nil => rfl
  | cons event rest ih =>
      rw [absorbAll, ih, byId?_proposals_absorb]
      rfl

/-!
### Blocks that are done again
-/

/-- The same tables, but for proposals that were made at a height. -/
structure Remade (height : Height) (first again : Tables) : Prop where
  rest : again = { first with proposals := again.proposals }
  ids : again.proposals.map Proposal.id = first.proposals.map Proposal.id
  each : ∀ id, Event.Word.Remade height (byId? Proposal.id first.proposals id)
    (byId? Proposal.id again.proposals id)

variable {tables height}

theorem Remade.proposals {first again : Tables} (remade : Remade height first again)
    (keyed : first.Keyed) :
    List.Forall₂ (Proposal.SameMaking height) first.proposals again.proposals := by
  apply forall₂_of_byId? keyed.proposals remade.ids
  intro wanted row other found found'
  have same := remade.each wanted
  rw [found, found'] at same
  obtain same | ⟨_, _, one, another, made, made'⟩ := same
  · exact .inl (Option.some_inj.mp same)
  · cases one
    cases another
    exact .inr ⟨(id_of_byId? found).trans (id_of_byId? found').symm, made, made'⟩

section Again

variable (begun : (0 : Height).below height) (keyed : tables.Keyed)

include begun keyed

/-- Done again, a block leaves everything as it is but proposals that were made at its height. -/
theorem remade_absorbAll_again (events : List Event) (ordinal : Nat) :
    Remade height (tables.absorbAll height events ordinal)
      ((tables.absorbAll height events ordinal).absorbAll height events ordinal) := by
  have each : ∀ id, Event.Word.Remade height
      (byId? Proposal.id (tables.absorbAll height events ordinal).proposals id)
      (byId? Proposal.id
        ((tables.absorbAll height events ordinal).absorbAll height events ordinal).proposals id) := by
    intro id
    rw [byId?_proposals_absorbAll, byId?_proposals_absorbAll, byId?_proposals_absorbAll]
    exact Event.Word.afterAll_remade begun _ _
  have twice := (keyed.absorbAll height events ordinal).absorbAll height events ordinal
  refine ⟨Tables.ext (progress_absorbAll _ _ _ _) ?_ rfl ?_
    (discussions_absorbAll_again _ _ begun _ _) (proposalVotes_absorbAll _ _ _ _)
    (grantVotes_absorbAll _ _ _ _), ?_, each⟩
  · rw [validators_absorbAll, validators_absorbAll, storingAll_again _ keyed.validators]
  · rw [grants_absorbAll, grants_absorbAll, storingAll_again _ keyed.grants]
  · refine ids_eq_of_extended ?_ twice.proposals fun wanted => (each wanted).none_iff.mp
    rw [proposals_absorbAll (tables.absorbAll height events ordinal)]
    exact ids_prefix_storingAll _ _ _

/-- Done again, a block leaves the proposals as they are, unless it settles one before it makes
it. -/
theorem proposals_absorbAll_again_iff (events : List Event) (ordinal : Nat) :
    ((tables.absorbAll height events ordinal).absorbAll height events ordinal).proposals =
        (tables.absorbAll height events ordinal).proposals ↔
      ∀ id, byId? Proposal.id tables.proposals id = none →
        ¬ Event.Word.SettledEarly (events.map (·.wordOn id)) := by
  constructor
  · intro same id fresh early
    obtain ⟨row, again, once, isOpen, _, twice, here, _⟩ :=
      Event.Word.afterAll_of_settledEarly begun early
    have found : byId? Proposal.id (tables.absorbAll height events ordinal).proposals id =
        some row := by
      rw [byId?_proposals_absorbAll, fresh, once]
    have found' := found
    rw [← same, byId?_proposals_absorbAll, found, twice] at found'
    cases found'
    exact Number.below_irrefl _ (isOpen.symm.trans here ▸ begun)
  · intro late
    apply rows_ext (keyed.absorbAll height events ordinal).proposals
      (remade_absorbAll_again begun keyed events ordinal).ids
    intro wanted
    rw [byId?_proposals_absorbAll, byId?_proposals_absorbAll]
    rcases Event.Word.afterAll_again begun (events.map (·.wordOn wanted))
      (byId? Proposal.id tables.proposals wanted) with same | ⟨fresh, early⟩
    · exact same
    · exact absurd early (late wanted fresh)

/-- Done again, a block changes nothing, unless it settles a proposal before it makes it. -/
theorem absorbAll_again {events : List Event} {ordinal : Nat}
    (late : ∀ id, byId? Proposal.id tables.proposals id = none →
      ¬ Event.Word.SettledEarly (events.map (·.wordOn id))) :
    (tables.absorbAll height events ordinal).absorbAll height events ordinal =
      tables.absorbAll height events ordinal := by
  rw [(remade_absorbAll_again begun keyed events ordinal).rest,
    (proposals_absorbAll_again_iff begun keyed events ordinal).mpr late]

end Again

end Tables

end Ledger

end RollCall
