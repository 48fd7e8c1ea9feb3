import RollCall.Proofs.Performing

/-!
# Heights in the ledger

Rows carry the height at which they were stored. No row carries a height below the one where the loop
starts or above the one whose block was fetched last, and no proposal is settled below the height at
which it was made. What carries this is that each operation of a pass stores its own height only, or
takes the height at which a proposal was made over from the ledger; and that the heights of passes
never go back.
-/

set_option autoImplicit false

namespace RollCall

open Call

/-!
## Dated rows
-/

namespace Number

theorem atMost_self {left right : Number} (least : left.atMost right) : right.atMost right := by
  rcases Bool.or_eq_true_iff.mp least with below | same
  · exact Bool.or_eq_true_iff.mpr (.inr (equals_self_of_below below))
  · obtain ⟨rfl, counted⟩ := equals_iff.mp same
    exact Bool.or_eq_true_iff.mpr (.inr (equals_iff.mpr ⟨rfl, counted⟩))

theorem atMost_of_below {left right : Number} (below : left.below right) : left.atMost right :=
  Bool.or_eq_true_iff.mpr (.inl below)

theorem below_of_atMost_of_below {left middle right : Number} (first : left.atMost middle)
    (second : middle.below right) : left.below right := by
  rcases Bool.or_eq_true_iff.mp first with below | same
  · exact below_trans below second
  · exact (equals_iff.mp same).1 ▸ second

end Number

namespace Ledger

namespace Tables

/-- Rows carry heights that fit, and no proposal is settled below the height at which it was made. A
proposal that is not settled carries 0 instead. -/
structure Dated (fits : Height → Prop) (tables : Tables) : Prop where
  created : ∀ row ∈ tables.proposals, fits row.createdAt
  settled : ∀ row ∈ tables.proposals,
    row.settledAt = 0 ∨ row.createdAt.atMost row.settledAt ∧ fits row.settledAt
  grants : ∀ row ∈ tables.grants, fits row.height
  discussions : ∀ row ∈ tables.discussions, fits row.row.height
  proposalVotes : ∀ row ∈ tables.proposalVotes, fits row.row.height
  grantVotes : ∀ row ∈ tables.grantVotes, fits row.row.height

theorem Dated.mono {fits wider : Height → Prop} {tables : Tables} (dated : tables.Dated fits)
    (weaker : ∀ height, fits height → wider height) : tables.Dated wider where
  created row member := weaker _ (dated.created row member)
  settled row member := (dated.settled row member).imp_right (And.imp_right (weaker _))
  grants row member := weaker _ (dated.grants row member)
  discussions row member := weaker _ (dated.discussions row member)
  proposalVotes row member := weaker _ (dated.proposalVotes row member)
  grantVotes row member := weaker _ (dated.grantVotes row member)

theorem dated_empty (fits : Height → Prop) : Dated fits {} := by
  constructor <;> simp

/-- Whether an operation is one that a pass over a height asks for when it meets some tables, as far
as heights go: a proposal is new then, or a stored one that is settled. -/
def Follows (height : Height) (tables : Tables) : Operation → Prop
  | .upsertProposal row =>
      row.createdAt = height ∧ row.settledAt = 0 ∨
        row.settledAt = height ∧ ∃ stored ∈ tables.proposals, stored.createdAt = row.createdAt
  | .upsertGrant row => row.height = height
  | .insertDiscussion row => row.height = height
  | .insertProposalVote row => row.height = height
  | .insertGrantVote row => row.height = height
  | .proposalSettledAt asked => asked = height
  | _ => True

theorem Dated.perform {fits : Height → Prop} {height : Height} {tables : Tables}
    {operation : Operation} (dated : tables.Dated fits) (here : fits height)
    (greatest : ∀ other, fits other → other.atMost height)
    (follows : tables.Follows height operation) : (tables.perform operation).2.Dated fits := by
  cases operation with
  | upsertProposal row =>
      rcases follows with ⟨rfl, unsettled⟩ | ⟨rfl, stored, member, same⟩
      · exact { dated with
          created := forall_replaceById dated.created here
          settled := forall_replaceById dated.settled (.inl unsettled) }
      · have created : fits row.createdAt := same ▸ dated.created stored member
        exact { dated with
          created := forall_replaceById dated.created created
          settled := forall_replaceById dated.settled (.inr ⟨greatest _ created, here⟩) }
  | upsertGrant row =>
      exact { dated with grants := forall_replaceById dated.grants (follows ▸ here) }
  | insertDiscussion row =>
      exact { dated with
        discussions := forall_append (Q := fun row : Discussion => fits row.height) dated.discussions
          (follows ▸ here) }
  | insertProposalVote row =>
      exact { dated with
        proposalVotes := forall_append (Q := fun row : ProposalVote => fits row.height) dated.proposalVotes
          (follows ▸ here) }
  | insertGrantVote row =>
      exact { dated with
        grantVotes := forall_append (Q := fun row : GrantVote => fits row.height) dated.grantVotes
          (follows ▸ here) }
  | _ => exact { dated with }

end Tables

end Ledger

/-!
## What a pass asks for
-/

namespace World

variable {others : Collaborators} (discreet : others.Discreet)
  {tables : others.Store → Ledger.Tables} (kept : others.books.KeptIn tables)

include discreet kept

/-- What a pass over a height has asked for so far. -/
abbrev Following (tables : others.Store → Ledger.Tables) (height : Height) :
    World others → Trace → World others → Prop :=
  Performs (Ledger.Tables.Follows height) tables

theorem parts_following (height : Height) : Parts (Keeping (Following tables height))
    (fun operation => ∀ tables : Ledger.Tables, tables.Follows height operation) (fun _ => True) :=
  (steps_performs discreet kept).parts (by simp)

theorem onSettlement_following (event : Event.Settlement) (height : Height) :
    Keeps (Following tables height) (onSettlement event height : Call (World others) Unit) := by
  have parts := parts_following discreet kept height
  intro world result trace final ending
  refine record_bind_performs discreet kept ending trivial fun looked storing => ?_
  cases found : ((tables world.store).perform (.proposal (.ofNat event.proposal))).1 with
  | none =>
      rw [found] at storing
      exact parts.sequential.fail _ storing
  | some proposal =>
      rw [found] at storing
      dsimp only at storing
      split at storing
      · exact parts.sequential.fail _ storing
      · refine record_bind_performs discreet kept storing (.inr ⟨rfl, proposal, ?_, rfl⟩)
          fun _ logging => parts.log _ _ _ _ logging
        -- The row that is settled is the one that was looked up.
        rw [looked]
        exact Ledger.mem_of_byId? found

theorem handler_following (height : Height) (ordinal : Number) (kind : Event.Kind)
    (content : kind.Content) :
    Keeps (Following tables height)
      (handler height ordinal kind content : Call (World others) Unit) := by
  have parts := parts_following discreet kept height
  have advises := advise_keeps (steps_performs (P := Ledger.Tables.Follows height) discreet kept)
    (by simp)
  cases kind with
  | grant => exact onGrant_keeps parts _ (fun _ => rfl) (fun _ => trivial)
  | discussion => exact onDiscussion_keeps parts advises _ _ (fun _ => trivial) (fun _ => rfl)
  | proposal =>
      exact onProposal_keeps parts advises _ (fun _ => trivial) fun _ => .inl ⟨rfl, rfl⟩
  | settlement => exact onSettlement_following discreet kept _ height

theorem process_following (options : FollowOptions) (height : Height) :
    Keeps (Following tables height) (Loop.process options height : Call (World others) Unit) := by
  have steps := steps_performs (P := Ledger.Tables.Follows height) discreet kept
  have parts := parts_following discreet kept height
  refine process_of_stages parts.sequential parts.log (steps.ask _ trivial) (fun events => ?_) ?_
    (steps.record _ fun _ => trivial)
  · refine dispatchAll_of_dispatch parts.sequential (fun event ordinal => ?_) events 0
    exact dispatch_of_handler steps.closed parts.log
      (fun kind content _ _ => handler_following discreet kept height ordinal kind content)
      fun outcome => steps.note _ (by simp)
  · refine reconcile_keeps parts ?_ ?_ (fun _ _ => trivial) (steps.note _ (by simp))
    · intro operation casting tables
      cases operation <;> first | exact casting | exact casting.elim | trivial
    · intro operation lookup tables
      cases operation <;> first | exact lookup | exact lookup.elim | trivial

end World

/-!
## The height in flight
-/

namespace Trace

/-- The heights whose blocks were fetched, in order. -/
def fetched (trace : Trace) : List Height :=
  trace.filterMap fun
    | .answered (.blockResults height) _ => some height
    | _ => none

/-- The height whose block was fetched last. -/
def inFlight? (trace : Trace) : Option Height :=
  trace.fetched.getLast?

/-- The block of a height was fetched, and the height was not saved after. -/
def Failed (trace : Trace) (id : String) (height : Height) : Prop :=
  ∃ before results after, trace = before ++ .answered (.blockResults height) results :: after ∧
    height ∉ Trace.saved after id

/-- What was done in empty tables has left rows between a height and the one in flight. -/
def Dated (first : Height) (trace : Trace) : Prop :=
  (({} : Ledger.Tables).replay trace.operations).Dated fun height =>
    first.atMost height ∧ ∃ last ∈ trace.inFlight?, height.atMost last

theorem inFlight?_append (trace more : Trace) :
    Trace.inFlight? (trace ++ more) = more.inFlight?.or trace.inFlight? := by
  rw [inFlight?, fetched, List.filterMap_append]
  exact List.getLast?_append

theorem inFlight?_eq_none {trace : Trace}
    (unfetched : ∀ height results, .answered (.blockResults height) results ∉ trace) :
    trace.inFlight? = none := by
  refine List.getLast?_eq_none_iff.mpr (List.filterMap_eq_nil_iff.mpr fun note member => ?_)
  split
  · exact (unfetched _ _ member).elim
  · rfl

theorem inFlight?_of_fetched {before after : Trace} {height : Height} {results : Chain.BlockResults}
    (only : ∀ other results, .answered (.blockResults other) results ∈ after → other = height) :
    Trace.inFlight? (before ++ .answered (.blockResults height) results :: after) = some height := by
  have same : ∀ last ∈ after.inFlight?, last = height := by
    intro last found
    obtain ⟨note, member, told⟩ := List.mem_filterMap.mp (List.mem_of_getLast? found)
    split at told
    · cases told
      exact only _ _ member
    · cases told
  rw [List.append_cons, inFlight?_append]
  cases found : after.inFlight? with
  | some last => rw [same last found]; rfl
  | none =>
      rw [Option.none_or, inFlight?_append]
      rfl

theorem fetched_of_inFlight? {trace : Trace} {height : Height} (flying : trace.inFlight? = some height) :
    ∃ before results after, trace = before ++ .answered (.blockResults height) results :: after := by
  obtain ⟨note, member, told⟩ := List.mem_filterMap.mp (List.mem_of_getLast? flying)
  obtain ⟨before, after, rfl⟩ := List.append_of_mem member
  split at told
  · cases told
    exact ⟨before, _, after, rfl⟩
  · cases told

theorem mem_fetched_singleton {note : Note} {height : Height} :
    height ∈ Trace.fetched [note] ↔ ∃ results, note = .answered (.blockResults height) results := by
  simp only [fetched, List.mem_filterMap, List.mem_singleton, exists_eq_left]
  constructor
  · intro told
    split at told
    · cases told
      exact ⟨_, rfl⟩
    · cases told
  · rintro ⟨results, rfl⟩
    rfl

theorem failed_iff_get {trace : Trace} {id : String} {height : Height} :
    trace.Failed id height ↔ ∃ place : Fin trace.length,
      height ∈ Trace.fetched [trace.get place] ∧ height ∉ Trace.saved (trace.drop (place + 1)) id := by
  constructor
  · rintro ⟨before, results, after, rfl, without⟩
    refine ⟨⟨before.length, by simp⟩, mem_fetched_singleton.mpr ⟨results, by simp⟩, ?_⟩
    simpa using without
  · rintro ⟨place, fetched, without⟩
    obtain ⟨results, same⟩ := mem_fetched_singleton.mp fetched
    refine ⟨trace.take place, results, trace.drop (place + 1), ?_, without⟩
    rw [← same, List.get_eq_getElem, ← List.drop_eq_getElem_cons, List.take_append_drop]

instance (trace : Trace) (id : String) (height : Height) : Decidable (trace.Failed id height) :=
  decidable_of_iff _ failed_iff_get.symm

theorem Failed.append {trace more : Trace} {id : String} {height : Height}
    (failed : trace.Failed id height) (unsaved : ∀ note ∈ more, ¬ note.IsSave) :
    Trace.Failed (trace ++ more) id height := by
  obtain ⟨before, results, after, rfl, without⟩ := failed
  refine ⟨before, results, after ++ more, by simp, ?_⟩
  rw [saved_append, saved_of_unsaved unsaved, List.append_nil]
  exact without

theorem Dated.append {first : Height} {trace more : Trace} (dated : trace.Dated first)
    (same : Ledger.Tables.replay (Ledger.Tables.replay {} trace.operations) more.operations =
      Ledger.Tables.replay {} trace.operations)
    (unfetched : more.inFlight? = none) : Trace.Dated first (trace ++ more) := by
  rw [Dated, operations_append, Ledger.Tables.replay_append, same, inFlight?_append, unfetched]
  exact dated

end Trace

namespace Loop

variable {others : Collaborators} (discreet : others.Discreet)
  {tables : others.Store → Ledger.Tables} (kept : others.books.KeptIn tables)
  {options : FollowOptions} {first : Nat} {count : Nat} {trace more : Trace}
  {world final : World others} {height : Height}

section Pass

variable {result : Except Fault Unit}
  (ending : (process options height).Ends world result more final)

include discreet kept ending

/-- Wherever a pass is broken off, its own block is in flight or nothing is done yet. -/
theorem process_inFlight {middle after : Trace} (split : more = middle ++ after) :
    middle.inFlight? = some height ∨ middle.inFlight? = none ∧ middle.operations = [] := by
  have only : ∀ other results, .answered (.blockResults other) results ∈ more → other = height := by
    intro other results member
    rcases process_notes discreet kept ending _ member with same | voting
    · cases same
      rfl
    · exact voting.elim
  have asking_only : ∀ {asking : Trace}, (∀ note ∈ asking, note.isOutside ∨
      note = .asked (.blockResults height)) → asking.inFlight? = none ∧ asking.operations = [] := by
    intro asking noted
    refine ⟨Trace.inFlight?_eq_none fun other results member => ?_,
      Trace.operations_of_undone fun note member operation done => ?_⟩
    · rcases noted _ member with outside | impossible
      · cases outside
      · cases impossible
    · subst done
      rcases noted _ member with outside | impossible
      · cases outside
      · cases impossible
  -- Whatever becomes of a fetched block, it is the one in flight from there on.
  have fetched_first : ∀ {results : Chain.BlockResults} {fetched : World others} {asking rest : Trace},
      (World.ask (.blockResults height)).Ends world (.ok results) asking fetched →
      more = asking ++ rest →
      middle.inFlight? = some height ∨ middle.inFlight? = none ∧ middle.operations = [] := by
    intro results fetched asking rest asked same
    obtain ⟨_, earlier, noted, ⟨_, told, rfl⟩ | ⟨⟨_, impossible⟩, _⟩⟩ :=
      World.ask_ends discreet asked
    swap
    · cases impossible
    cases told
    rw [split] at same only
    rw [List.append_assoc, List.singleton_append] at same
    -- The pass is broken off before its block is there, or behind it.
    rcases List.append_eq_append_iff.mp same with ⟨part, rfl, _⟩ | ⟨part, rfl, inside⟩
    · exact .inr (asking_only fun note member => noted note (List.mem_append_left _ member))
    · cases part with
      | nil =>
          rw [List.append_nil]
          exact .inr (asking_only noted)
      | cons note part =>
          obtain ⟨rfl, _⟩ := List.cons.inj inside
          exact .inl (Trace.inFlight?_of_fetched fun other results member =>
            only other results (by simp [member]))
  rcases process_ends ending with ⟨fault, rfl, failed⟩ | ⟨_, _, _, _, _, asked, _, same⟩ |
    ⟨_, _, _, _, _, _, _, asked, _, same, _⟩
  · obtain ⟨_, asking, noted, ⟨_, impossible, _⟩ | ⟨_, rfl⟩⟩ := World.ask_ends discreet failed
    · cases impossible
    · exact .inr (asking_only fun note member => noted note (by simp [split, member]))
  · exact fetched_first asked same
  · exact fetched_first asked same

/-- A pass over a height that no row is above keeps rows in order, wherever it is broken off. -/
theorem dated_process {start : Height} (dated : trace.Dated start)
    (stored : tables world.store = ({} : Ledger.Tables).replay trace.operations)
    (least : start.atMost height) (greatest : ∀ last ∈ trace.inFlight?, last.atMost height)
    {middle after : Trace} (split : more = middle ++ after) :
    Trace.Dated start (trace ++ middle) := by
  rcases process_inFlight discreet kept ending split with flying | ⟨unfetched, undone⟩
  swap
  · exact dated.append (by rw [undone]; rfl) unfetched
  have along := (World.process_following discreet kept options height ending).2
  rw [split, stored] at along
  rw [Trace.Dated, Trace.operations_append, Ledger.Tables.replay_append, Trace.inFlight?_append,
    flying]
  have here : start.atMost height ∧ ∃ last ∈ (some height).or trace.inFlight?, height.atMost last :=
    ⟨least, height, rfl, Number.atMost_self least⟩
  refine (Trace.Along.left along).holds (dated.mono fun other ⟨above, last, found, below⟩ => ?_)
    fun tables operation dated follows => dated.perform here ?_ follows
  · exact ⟨above, height, rfl, Number.atMost_trans below (greatest last found)⟩
  · rintro other ⟨_, last, same, below⟩
    cases same
    exact below

end Pass

/-!
## The invariant
-/

/-- Heights are saved in order, rows carry no height that the loop has not come to, and the height in
flight is done or has failed. -/
structure DatedInOrder (tables : others.Store → Ledger.Tables) (options : FollowOptions)
    (first count : Nat) (trace : Trace) (world : World others) (height : Height) : Prop
    extends SavedInOrder tables options first none count trace world height where
  stored : tables world.store = ({} : Ledger.Tables).replay trace.operations
  dated : ∀ before after, trace = before ++ after → before.Dated (.ofNat first)
  lookups : ∀ asked done, .recorded (.proposalSettledAt asked) done ∈ trace →
    (Number.ofNat first).atMost asked
  reached : ∀ last ∈ trace.inFlight?,
    last.below height ∨ last = height ∧ trace.Failed options.progressId height

theorem inFlight?_of_idle (idle : ∀ note ∈ trace, note.IsIdle options) : trace.inFlight? = none :=
  Trace.inFlight?_eq_none fun _ _ member => by cases idle _ member

section Kept

variable (holds : DatedInOrder tables options first count trace world height)

include holds

theorem DatedInOrder.idle (idle : Idle tables options world more final) :
    DatedInOrder tables options first count (trace ++ more) final height := by
  have replays := Trace.replay_of_idle idle.2 (({} : Ledger.Tables).replay trace.operations)
  have unsaved : ∀ note ∈ more, ¬ note.IsSave := fun note member =>
    Note.unsaved_of_idle (idle.2 note member)
  refine { holds.toSavedInOrder.idle (pausing_of_idle idle) with
    stored := ?_, dated := ?_, lookups := ?_, reached := ?_ }
  · rw [Trace.operations_append, Ledger.Tables.replay_append, replays, idle.1]
    exact holds.stored
  · intro before after split
    rcases List.append_eq_append_iff.mp split with ⟨middle, rfl, inside⟩ | ⟨middle, inside, _⟩
    · have still : ∀ note ∈ middle, note.IsIdle options := fun note member =>
        idle.2 note (by simp [inside, member])
      exact (holds.dated trace [] (by simp)).append (Trace.replay_of_idle still _)
        (inFlight?_of_idle still)
    · exact holds.dated before middle inside
  · intro asked done member
    rcases List.mem_append.mp member with earlier | later
    · exact holds.lookups asked done earlier
    · cases idle.2 _ later
  · rw [Trace.inFlight?_append, inFlight?_of_idle idle.2, Option.none_or]
    intro last found
    exact (holds.reached last found).imp_right (And.imp_right fun failed => failed.append unsaved)

variable (starts : options.startHeight = .ofNat first) {head : Height}
  (told : trace.reported? = some head) (below : height.below head)
  (counted : ¬ (Number.ofNat (Number.safeBound + 1)).below head)

omit holds in
include starts below counted in
theorem SavedInOrder.position
    (saved : SavedInOrder tables options first none count trace world height) :
    height = .ofNat (first + count) ∧ first + count ≤ Number.safeBound := by
  obtain ⟨position, safe⟩ := position_of_below starts counted (saved.next ▸ below)
  exact ⟨saved.next.trans position, safe⟩

include discreet kept starts below counted

theorem DatedInOrder.process {result : Except Fault Unit}
    (ending : (process options height).Ends world result more final) :
    tables final.store = ({} : Ledger.Tables).replay (Trace.operations (trace ++ more)) ∧
      (∀ before after, trace ++ more = before ++ after → before.Dated (.ofNat first)) ∧
      ∀ asked done, .recorded (.proposalSettledAt asked) done ∈ trace ++ more →
        (Number.ofNat first).atMost asked := by
  obtain ⟨rfl, _⟩ := holds.toSavedInOrder.position starts below counted
  have least : (Number.ofNat first).atMost (.ofNat (first + count)) :=
    Number.atMost_ofNat.mpr (Nat.le_add_right _ _)
  refine ⟨?_, ?_, ?_⟩
  · rw [Trace.operations_append, Ledger.Tables.replay_append, ← holds.stored]
    exact process_replays discreet kept ending
  · intro before after split
    rcases List.append_eq_append_iff.mp split with ⟨middle, rfl, inside⟩ | ⟨middle, inside, _⟩
    · refine dated_process discreet kept ending (holds.dated trace [] (by simp)) holds.stored least
        (fun last found => ?_) inside
      rcases holds.reached last found with earlier | ⟨rfl, _⟩
      · exact Number.atMost_of_below earlier
      · exact Number.atMost_self least
    · exact holds.dated before middle inside
  · intro asked done member
    rcases List.mem_append.mp member with earlier | later
    · exact holds.lookups asked done earlier
    · rcases process_notes discreet kept ending _ later with impossible | rfl | impossible | impossible
      · exact impossible.elim
      · exact least
      · exact impossible.elim
      · cases impossible

include told

theorem DatedInOrder.pass (ending : (Loop.process options height).Ends world (.ok ()) more final) :
    DatedInOrder tables options first (count + 1) (trace ++ more) final (height + 1) := by
  obtain ⟨stored, dated, lookups⟩ := holds.process discreet kept starts below counted ending
  refine { holds.toSavedInOrder.pass discreet kept starts told below counted ending with
    stored, dated, lookups, reached := ?_ }
  obtain ⟨rfl, safe⟩ := holds.toSavedInOrder.position starts below counted
  have next : (Number.ofNat (first + count)).below (.ofNat (first + count) + 1) := by
    rw [Number.add_one_of_safe safe]
    exact Number.below_ofNat.mpr (Nat.lt_succ_self _)
  rw [Trace.inFlight?_append]
  rcases process_inFlight discreet kept ending (List.append_nil _).symm with flying | ⟨unfetched, _⟩
  · rw [flying]
    rintro last ⟨⟩
    exact .inl next
  · rw [unfetched, Option.none_or]
    intro last found
    rcases holds.reached last found with earlier | ⟨rfl, _⟩
    · exact .inl (Number.below_trans earlier next)
    · exact .inl next

theorem DatedInOrder.failure {fault : Fault}
    (ending : (Loop.process options height).Ends world (.error fault) more final) :
    DatedInOrder tables options first count (trace ++ more) final height := by
  obtain ⟨stored, dated, lookups⟩ := holds.process discreet kept starts below counted ending
  obtain ⟨_, unsaved, _⟩ | ⟨impossible, _⟩ := process_saving discreet kept ending
  swap
  · cases impossible
  refine { holds.toSavedInOrder.failure discreet kept told below ending with
    stored, dated, lookups, reached := ?_ }
  rw [Trace.inFlight?_append]
  rcases process_inFlight discreet kept ending (List.append_nil _).symm with flying | ⟨unfetched, _⟩
  · rw [flying]
    rintro last ⟨⟩
    obtain ⟨before, results, after, rfl⟩ := Trace.fetched_of_inFlight? flying
    refine .inr ⟨rfl, trace ++ before, results, after, by simp, ?_⟩
    rw [Trace.saved_of_unsaved fun note member => unsaved note (by simp [member])]
    exact List.not_mem_nil
  · rw [unfetched, Option.none_or]
    intro last found
    exact (holds.reached last found).imp_right (And.imp_right fun failed => failed.append unsaved)

end Kept

include discreet kept in
theorem invariant_datedInOrder (starts : options.startHeight = .ofNat first) :
    Invariant options (Idle tables options) Note.InReach (fun _ => True)
      (fun trace world height =>
        ∃ count, DatedInOrder tables options first count trace world height) where
  between := between_idle discreet kept
  resumes := by
    rintro trace more world final height last ⟨count, holds⟩ read
    exact (invariant_savedInOrder discreet kept starts).resumes ⟨count, holds.toSavedInOrder⟩ read
  idle := by
    rintro trace more world final height ⟨count, holds⟩ idle _
    exact ⟨count, holds.idle idle⟩
  pass := by
    rintro trace more world final height head ⟨count, holds⟩ told below ending inReach
    exact ⟨count + 1,
      holds.pass discreet kept starts told below (Trace.head_inReach told inReach) ending⟩
  failure := by
    rintro trace more world final height head fault ⟨count, holds⟩ told below ending inReach
    exact ⟨⟨count, holds.failure discreet kept starts told below (Trace.head_inReach told inReach)
      ending⟩, trivial⟩

/-!
## Heights in every run
-/

/-- Heights are in order in what came of a run. Rows carry heights from the first on, up to the one in
flight and, in the end, up to the next; the next is carried only if it has failed before. No proposal
is settled below the height at which it was made, and none that is not settled is found as settled. -/
structure HeightsInOrder (tables : others.Store → Ledger.Tables) (options : FollowOptions)
    (first : Height) (trace : Trace) (world : World others) (loop : Loop) : Prop where
  stored : tables world.store = ({} : Ledger.Tables).replay trace.operations
  throughout : ∀ before after, trace = before ++ after → before.Dated first
  next : ∀ height, loop.next = some height →
    height = firstUndone options ((tables world.store).progressOf? options.progressId)
  upToNext : (tables world.store).Dated fun height => first.atMost height ∧
    height.atMost (firstUndone options ((tables world.store).progressOf? options.progressId))
  retried : trace.Failed options.progressId
      (firstUndone options ((tables world.store).progressOf? options.progressId)) ∨
    (tables world.store).Dated fun height => first.atMost height ∧
      height.below (firstUndone options ((tables world.store).progressOf? options.progressId))
  settledOnly : trace.Everywhere fun before note => ∀ height done proposal,
    note = .recorded (.proposalSettledAt height) done →
    ((({} : Ledger.Tables).replay before.operations).perform (.proposalSettledAt height)).1 =
      some proposal → proposal.settledAt ≠ 0

include discreet kept in
/-- From empty tables on heights are in order in every run in which no one else writes to the ledger
and heads stay where numbers count exactly, whatever the node answers and whatever fails. -/
theorem Run.heights_in_order (starts : options.startHeight = .ofNat first) (positive : 1 ≤ first)
    {outside : World others → World others → Prop} {start : World others}
    (empty : tables start.store = {})
    (undisturbed : ∀ world world', outside world world' → tables world'.store = tables world.store)
    {loop : Loop} (run : Run options outside start trace world loop)
    (inReach : ∀ head ∈ trace.heads, ¬ (Number.ofNat (Number.safeBound + 1)).below head) :
    HeightsInOrder tables options (.ofNat first) trace world loop := by
  have initially : DatedInOrder tables options first 0 [] start
      (firstUndone options (lastDone first none 0)) := by
    constructor
    case toSavedInOrder =>
      exact ⟨rfl, by rw [empty]; rfl, rfl, Trace.everywhere_of_forall (by simp),
        Trace.everywhere_of_forall (by simp)⟩
    case stored => exact empty
    case dated =>
      intro before after split
      rw [(List.append_eq_nil_iff.mp split.symm).1]
      exact Ledger.Tables.dated_empty _
    case lookups => simp
    case reached => exact fun last impossible => by cases impossible
  obtain ⟨height, ⟨count, holds⟩, next⟩ :=
    (invariant_datedInOrder discreet kept starts).run_holds discreet kept ⟨0, initially⟩
      (fun world => ⟨rfl, by simp⟩)
      (fun world world' done => ⟨undisturbed world world' done, by simp⟩) run
      fun note noted status told => inReach _ (Trace.mem_heads.mpr ⟨status, told ▸ noted, rfl⟩)
  have here : firstUndone options ((tables world.store).progressOf? options.progressId) = height := by
    rw [holds.progress, holds.next]
  have dated := holds.dated trace [] (List.append_nil _).symm
  rw [Trace.Dated, ← holds.stored] at dated
  constructor
  case stored => exact holds.stored
  case throughout => exact holds.dated
  case next => exact fun known found => (next known found).trans here.symm
  case upToNext =>
    rw [here]
    refine dated.mono fun other ⟨least, last, flying, below⟩ => ⟨least, ?_⟩
    rcases holds.reached last flying with earlier | ⟨rfl, _⟩
    · exact Number.atMost_trans below (Number.atMost_of_below earlier)
    · exact below
  case retried =>
    rw [here]
    by_cases failed : trace.Failed options.progressId height
    · exact .inl failed
    · refine .inr (dated.mono fun other ⟨least, last, flying, below⟩ => ⟨least, ?_⟩)
      rcases holds.reached last flying with earlier | ⟨_, impossible⟩
      · exact Number.below_of_atMost_of_below below earlier
      · exact (failed impossible).elim
  case settledOnly =>
    -- A proposal that is not settled carries 0, which no height that is looked up is.
    rintro before note after split asked done proposal rfl found unsettled
    have least := holds.lookups asked done (by simp [split])
    have same := (Ledger.lowest?_some found).2.1
    rw [unsettled] at same
    obtain ⟨rfl, _⟩ := Number.equals_iff.mp same
    have none : first ≤ 0 := Number.atMost_ofNat.mp least
    omega

/-- A world in which a proposal is made and settled, and the first height that is done is refused. -/
def settlingWorld : World Collaborators.inMemory :=
  World.inMemory
    { head := .ofNat 3
      blocks := [Chain.blockOf 1 [.making "7"], Chain.blockOf 2 [.settling "7"]]
      commits := [(.ofNat 1, [Chain.signedBy "AA01"])]
      accounts := [("AA01", .number (.ofNat 11))] }
    {} [("saveProgress", [.other "disk full"])]

/-- The first round leaves rows at the next height, which has failed. -/
theorem Run.heights_in_order_in_settlingWorld :
    (roundsAnew (optionsFrom 1) settlingWorld 1).2.store.ledger.proposalVotes.map (·.row.height) =
        [firstUndone (optionsFrom 1)
          ((roundsAnew (optionsFrom 1) settlingWorld 1).2.store.ledger.progressOf? "follow")] ∧
      HeightsInOrder Ledger.Refusing.ledger (optionsFrom 1) (.ofNat 1)
        (roundsAnew (optionsFrom 1) settlingWorld 1).1 (roundsAnew (optionsFrom 1) settlingWorld 1).2
        {} ∧
      (roundsAnew (optionsFrom 1) settlingWorld 2).2.store.ledger.proposals.map
        (fun row => (row.createdAt, row.settledAt)) = [(.ofNat 1, .ofNat 2)] ∧
      HeightsInOrder Ledger.Refusing.ledger (optionsFrom 1) (.ofNat 1)
        (roundsAnew (optionsFrom 1) settlingWorld 2).1 (roundsAnew (optionsFrom 1) settlingWorld 2).2
        {} := by
  have run := run_roundsAnew (optionsFrom 1) (fun _ _ => False) settlingWorld
  refine ⟨by decide +kernel, ?_, by decide +kernel, ?_⟩
  · exact (run 1).heights_in_order Collaborators.discreet_inMemory Collaborators.keptIn_inMemory rfl
      le_rfl rfl (fun _ _ impossible => impossible.elim) (by decide +kernel)
  · exact (run 2).heights_in_order Collaborators.discreet_inMemory Collaborators.keptIn_inMemory rfl
      le_rfl rfl (fun _ _ impossible => impossible.elim) (by decide +kernel)

/-- A world whose chain makes a proposal where numbers no longer count, and who asks to stop at the
second pause. -/
def proposingVastWorld : World Collaborators.inMemory :=
  World.inMemory
    { head := .ofNat 9007199254740994, blocks := [Chain.blockOf 9007199254740992 [.making "7"]] }
    {} [] 2

/-- Where numbers no longer count a row carries the next height although no attempt has failed. -/
theorem Run.not_heights_in_order_in_vastWorld :
    Run (optionsFrom 9007199254740992) (fun _ _ => False) proposingVastWorld
        (roundsAnew (optionsFrom 9007199254740992) proposingVastWorld 1).1
        (roundsAnew (optionsFrom 9007199254740992) proposingVastWorld 1).2 {} ∧
      ¬ HeightsInOrder Ledger.Refusing.ledger (optionsFrom 9007199254740992)
        (.ofNat 9007199254740992) (roundsAnew (optionsFrom 9007199254740992) proposingVastWorld 1).1
        (roundsAnew (optionsFrom 9007199254740992) proposingVastWorld 1).2 {} := by
  refine ⟨run_roundsAnew _ _ _ _, fun ordered => ?_⟩
  rcases ordered.retried with failed | dated
  · exact absurd failed (by decide +kernel)
  · have made : ∃ row ∈ (roundsAnew (optionsFrom 9007199254740992)
        proposingVastWorld 1).2.store.ledger.proposals, row.createdAt = .ofNat 9007199254740992 := by
      decide +kernel
    obtain ⟨row, stored, same⟩ := made
    exact absurd (same ▸ (dated.created row stored).2) (by decide +kernel)

end Loop

end RollCall
