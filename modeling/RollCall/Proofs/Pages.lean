import Mathlib.Data.List.Nodup
import RollCall.Proofs.InMemory
import RollCall.Proofs.Interactions
import RollCall.Proofs.Rows
import RollCall.Reading

/-!
# Pages part the tables

Read one after the other, the pages of a list show every row that matches once, newest first. What
carries this is that a page is cut out of one order of the rows which no page depends on, and that
the cuts meet: the place where a page ends is the place where the next one begins, as long as both
are safe integers.
-/

set_option autoImplicit false

namespace RollCall

open Call

/-!
## Places
-/

namespace Number

theorem mul_ofNat {left right : Nat} (safe : left * right ≤ safeBound) :
    ofNat left * ofNat right = ofNat (left * right) := by
  change nearest ((left : Rat) * right) = _
  rw [← Nat.cast_mul, nearest, if_pos (isSafeInteger_natCast.mpr safe)]
  rfl

theorem place_ofNat (length value : Nat) : place length (ofNat value) = Min.min length value := by
  simp [place, ofNat, ofInt]

/-- A place behind a list is its end, however far behind. -/
theorem place_of_not_below {length : Nat} {number : Number} (isNumber : number ≠ .nan)
    (reached : ¬ number.below (ofNat length)) : place length number = length := by
  cases number with
  | nan => exact absurd rfl isNumber
  | infinite negative => cases negative <;> simp_all [place, below, ofNat, ofInt]
  | finite value =>
      have least : (length : Rat) ≤ value := by simpa [below, ofNat, ofInt] using reached
      have positive : 0 ≤ value.num := Rat.num_nonneg.mpr (le_trans (Nat.cast_nonneg length) least)
      have whole : (length : Int) ≤ value.num.tdiv value.den := by
        rw [Int.tdiv_eq_ediv_of_nonneg positive, ← Rat.floor_def]
        exact Rat.le_floor_iff.mpr (by exact_mod_cast least)
      simp only [place]
      rw [if_neg (by omega)]
      exact Nat.min_eq_left (by omega)

theorem nearest_ne_nan (value : Rat) : nearest value ≠ .nan := by
  unfold nearest
  dsimp only
  split
  · simp
  · split <;> simp

theorem place_add (length left right : Nat) (few : length ≤ safeBound) :
    place length (ofNat left + ofNat right) = Min.min length (left + right) := by
  have sum : ofNat left + ofNat right = nearest ((left + right : Nat) : Rat) := by
    change nearest _ = _
    congr 1
    push_cast
    rfl
  rw [sum]
  rcases Nat.lt_or_ge safeBound (left + right) with large | safe
  · rw [place_of_not_below (nearest_ne_nan _)
      (nearest_natCast_not_below large (Nat.le_succ_of_le few)), Nat.min_eq_left (by omega)]
  · rw [nearest, if_pos (isSafeInteger_natCast.mpr safe)]
    exact place_ofNat length _

theorem below_or_below_of_ne {left right : Number} (isLeft : left ≠ .nan) (isRight : right ≠ .nan)
    (other : left ≠ right) : left.below right ∨ right.below left := by
  cases left with
  | nan => exact absurd rfl isLeft
  | infinite negative => cases right <;> cases negative <;> simp_all [below]
  | finite value =>
      cases right with
      | nan => exact absurd rfl isRight
      | infinite negative => cases negative <;> simp [below]
      | finite bound => simpa [below] using lt_or_gt_of_ne fun same => other (congrArg _ same)

theorem not_below_trans {left middle right : Number} (isLeft : left ≠ .nan)
    (isMiddle : middle ≠ .nan) (first : ¬ left.below middle) (second : ¬ middle.below right) :
    ¬ left.below right := by
  intro below
  by_cases same : left = middle
  · exact second (same ▸ below)
  · rcases below_or_below_of_ne isLeft isMiddle same with above | above
    · exact first above
    · exact second (below_trans above below)

theorem min_ofNat (left right : Nat) :
    Number.min (ofNat left) (ofNat right) = ofNat (Min.min left right) := by
  change (if (ofNat right).below (ofNat left) then ofNat right else ofNat left) = _
  split
  · next below => rw [Nat.min_eq_right (below_ofNat.mp below).le]
  · next above => rw [Nat.min_eq_left (not_lt.mp fun less => above (below_ofNat.mpr less))]

theorem max_one_ofInt (value : Int) :
    Number.max 1 (ofInt value) = ofNat (Max.max 1 value.toNat) := by
  by_cases negative : value < 0
  · have below : ¬ (ofNat 1).below (ofInt value) := by
      simp only [below, ofNat, ofInt, decide_eq_true_eq, not_lt]
      exact_mod_cast (by omega : value ≤ 1)
    change (if (ofNat 1).below (ofInt value) then ofInt value else ofNat 1) = _
    rw [if_neg below, Int.toNat_of_nonpos negative.le]
    rfl
  · have natural : ofInt value = ofNat value.toNat := by
      rw [ofNat, Int.toNat_of_nonneg (not_lt.mp negative)]
    rw [natural]
    exact max_ofNat 1 _

/-- Cutting a fraction off rounds down, except below zero. -/
theorem toNat_tdiv (value : Rat) :
    (value.num.tdiv value.den).toNat = value.floor.toNat := by
  rw [Rat.floor_def]
  by_cases negative : value.num < 0
  · have below : value.num / value.den < 0 := Int.ediv_neg_of_neg_of_pos negative (by simp [value.den_pos])
    have cut : 0 ≤ (-value.num).tdiv value.den := Int.tdiv_nonneg (by omega) (by simp)
    rw [Int.neg_tdiv] at cut
    omega
  · rw [Int.tdiv_eq_ediv_of_nonneg (not_lt.mp negative)]

/-- A number to sort by: a NaN comes last. -/
def rank : Number → Number
  | .nan => .infinite true
  | number => number

theorem rank_ne_nan (number : Number) : number.rank ≠ .nan := by
  cases number <;> simp [rank]

theorem rank_eq {number : Number} (isNumber : number ≠ .nan) : number.rank = number := by
  cases number <;> simp_all [rank]

end Number

/-!
## What is asked for
-/

namespace PageRequest

/-- How many rows a page shows when some number is asked for: at least one and at most `maxPageSize`,
which is what one gets for a number that is not finite. -/
def pageSize : Number → Nat
  | .finite value => Max.max 1 (Min.min 100 value.floor.toNat)
  | _ => 100

theorem clamp_ofNat (page : Nat) (size : Number) :
    clamp (.ofNat page) size = { page := .ofNat page, size := .ofNat (pageSize size) } := by
  have whole : (Number.ofNat page).truncate = .ofNat page := by
    simp [Number.truncate, Number.ofNat, Number.ofInt]
  have pages : Number.max 0 (Number.ofNat page).truncate = .ofNat page := by
    rw [whole, show (0 : Number) = .ofNat 0 from rfl, Number.max_ofNat, Nat.zero_max]
  have sizes : (clamp (.ofNat page) size).size = .ofNat (pageSize size) := by
    cases size with
    | nan => rfl
    | infinite negative => rfl
    | finite value =>
        change Number.min (.ofNat 100) (Number.max 1 (.ofInt (value.num.tdiv value.den))) = _
        rw [Number.max_one_ofInt, Number.toNat_tdiv, Number.min_ofNat, pageSize]
        congr 1
        omega
  exact congrArg₂ PageRequest.mk pages sizes

end PageRequest

namespace Ledger

/-!
## Pages of a table
-/

section

variable {ρ : Type} {id : ρ → Number}

/-- Every row is above those that follow it. -/
def Descending (id : ρ → Number) (rows : List ρ) : Prop :=
  rows.Pairwise fun earlier later => (id later).below (id earlier)

/-- The order in which a list is shown. -/
def inOrder (id : ρ → Number) (rows : List ρ) : List ρ :=
  rows.mergeSort fun left right => !(id left).below (id right)

theorem inOrder_perm (rows : List ρ) : (inOrder id rows).Perm rows :=
  List.mergeSort_perm _ _

theorem inOrder_descending {rows : List ρ} (distinct : (rows.map id).Nodup)
    (numbers : ∀ row ∈ rows, id row ≠ .nan) : Descending id (inOrder id rows) := by
  -- The order itself is not total, for the sake of a NaN; the order of ranks is.
  have total : ∀ left right : ρ, (!(id left).rank.below (id right).rank ||
      !(id right).rank.below (id left).rank) = true := by
    intro left right
    cases below : (id left).rank.below (id right).rank with
    | false => rfl
    | true =>
        rw [Bool.eq_false_iff.mpr fun above => Number.below_irrefl _ (Number.below_trans below above)]
        rfl
  have transitive : ∀ first second third : ρ, (!(id first).rank.below (id second).rank) = true →
      (!(id second).rank.below (id third).rank) = true →
      (!(id first).rank.below (id third).rank) = true := by
    intro first second third notFirst notSecond
    simp only [Bool.not_eq_true', Bool.eq_false_iff] at *
    exact Number.not_below_trans (Number.rank_ne_nan _) (Number.rank_ne_nan _) notFirst notSecond
  have same : inOrder id rows =
      rows.mergeSort fun left right => !(id left).rank.below (id right).rank := by
    have mapped := List.map_mergeSort (f := fun row : ρ => row)
      (r := fun left right => !(id left).below (id right))
      (s := fun left right => !(id left).rank.below (id right).rank) (l := rows) ?_
    · simpa [inOrder] using mapped
    · intro left isLeft right isRight
      rw [Number.rank_eq (numbers left isLeft), Number.rank_eq (numbers right isRight)]
  have sorted : (inOrder id rows).Pairwise fun left right =>
      (!(id left).rank.below (id right).rank) = true := by
    rw [same]
    exact List.pairwise_mergeSort transitive total rows
  have apart : (inOrder id rows).Pairwise fun left right => id left ≠ id right :=
    List.pairwise_map.mp (((inOrder_perm rows).map id).nodup_iff.mpr distinct)
  refine (sorted.and apart).imp_of_mem fun {earlier later} isEarlier isLater both => ?_
  have earlierIs := numbers earlier ((inOrder_perm rows).mem_iff.mp isEarlier)
  have laterIs := numbers later ((inOrder_perm rows).mem_iff.mp isLater)
  rw [Number.rank_eq earlierIs, Number.rank_eq laterIs] at both
  rcases Number.below_or_below_of_ne earlierIs laterIs both.2 with above | below
  · simp [above] at both
  · exact below

theorem cut_min {α : Type} (rows : List α) (start size : Nat) :
    (rows.take (Min.min rows.length (start + size))).drop (Min.min rows.length start) =
      (rows.drop start).take size := by
  rcases Nat.le_total rows.length start with behind | inside
  · rw [Nat.min_eq_left behind, List.drop_eq_nil_of_le (List.length_take_le' _ _),
      List.drop_eq_nil_of_le behind, List.take_nil]
  · have left : Min.min rows.length (start + size) - start =
        Min.min size (rows.drop start).length := by
      rw [List.length_drop]
      omega
    rw [Nat.min_eq_right inside, List.drop_take, left, ← List.take_eq_take_min]

theorem page_eq {rows : List ρ} (few : rows.length ≤ Number.safeBound) {page size : Nat}
    (safe : page * size ≤ Number.safeBound) :
    Ledger.page id { offset := .ofNat page * .ofNat size, limit := .ofNat size } rows =
      { rows := ((inOrder id rows).drop (page * size)).take size, total := rows.length } := by
  have length : rows.length = (inOrder id rows).length := (inOrder_perm rows).length_eq.symm
  simp only [Ledger.page, Number.mul_ofNat safe, Number.place_ofNat, Number.place_add _ _ _ few]
  congr 1
  rw [length]
  exact cut_min (inOrder id rows) (page * size) size

/-- Pages that follow one another make up the rows they are cut from. -/
theorem flatMap_pages {α : Type} (rows : List α) (size count : Nat) :
    ((List.range count).flatMap fun page => (rows.drop (page * size)).take size) =
      rows.take (count * size) := by
  induction count with
  | zero => simp
  | succ count ih =>
      rw [List.range_succ, List.flatMap_append, ih, List.flatMap_singleton, Nat.succ_mul,
        List.take_add]

end

/-!
## Ids
-/

namespace Tables

/-- Tables whose rows without an id of their own are numbered. -/
structure Serial (tables : Tables) : Prop where
  discussions : Ordered tables.discussions
  proposalVotes : Ordered tables.proposalVotes
  grantVotes : Ordered tables.grantVotes

theorem serial_empty : Serial {} :=
  ⟨rfl, rfl, rfl⟩

theorem Serial.perform {tables : Tables} (serial : tables.Serial) (operation : Operation) :
    (tables.perform operation).2.Serial := by
  cases operation with
  | insertDiscussion row =>
      exact ⟨serial.discussions.append row, serial.proposalVotes, serial.grantVotes⟩
  | insertProposalVote row =>
      exact ⟨serial.discussions, serial.proposalVotes.append row, serial.grantVotes⟩
  | insertGrantVote row =>
      exact ⟨serial.discussions, serial.proposalVotes, serial.grantVotes.append row⟩
  | _ => exact ⟨serial.discussions, serial.proposalVotes, serial.grantVotes⟩

theorem Serial.replay {tables : Tables} (serial : tables.Serial) (operations : List Operation) :
    (tables.replay operations).Serial := by
  induction operations generalizing tables with
  | nil => exact serial
  | cons operation rest ih => exact ih (serial.perform operation)

end Tables

/-!
## The lists
-/

/-- A list of the index, with what is asked for in it. -/
inductive Catalog where
  | proposals (proposer : Option String)
  | discussions (proposal : Number)
  | grants
  | proposalVotes (filter : ProposalVoteFilter)
  | grantVotes (filter : GrantVoteFilter)

namespace Catalog

@[reducible]
def Row : Catalog → Type
  | proposals _ => Proposal
  | discussions _ => Numbered Discussion
  | grants => Grant
  | proposalVotes _ => Numbered ProposalVote
  | grantVotes _ => Numbered GrantVote

/-- What rows are ordered by. -/
def key : (catalog : Catalog) → catalog.Row → Number
  | proposals _ => Proposal.id
  | discussions _ => fun row => .ofInt row.id
  | grants => Grant.id
  | proposalVotes _ => fun row => .ofInt row.id
  | grantVotes _ => fun row => .ofInt row.id

/-- The rows of the tables that match, in the order in which they were first stored. -/
def matching : (catalog : Catalog) → Tables → List catalog.Row
  | proposals none, tables => tables.proposals
  | proposals (some address), tables => tables.proposals.filter (·.proposerAddress = address)
  | discussions proposal, tables => tables.discussions.filter (·.row.proposal.equals proposal)
  | grants, tables => tables.grants
  | proposalVotes (.proposal id), tables => tables.proposalVotes.filter (·.row.proposal.equals id)
  | proposalVotes (.voter address), tables =>
      tables.proposalVotes.filter (·.row.voterAddress = address)
  | grantVotes (.grant id), tables => tables.grantVotes.filter (·.row.accountIndex.equals id)
  | grantVotes (.voter address), tables => tables.grantVotes.filter (·.row.voterAddress = address)

def read {others : Collaborators} (page size : Number) :
    (catalog : Catalog) → Call (World others) (Listing catalog.Row)
  | proposals proposer => World.listProposals page size proposer
  | discussions proposal => World.listDiscussions proposal page size
  | grants => World.listGrants page size
  | proposalVotes filter => World.listProposalVotes filter page size
  | grantVotes filter => World.listGrantVotes filter page size

theorem nodup_matching {tables : Tables} (keyed : tables.Keyed) (serial : tables.Serial)
    (catalog : Catalog) : ((catalog.matching tables).map catalog.key).Nodup := by
  cases catalog with
  | proposals proposer =>
      cases proposer with
      | none => exact keyed.proposals
      | some address => exact keyed.proposals.sublist (List.filter_sublist.map _)
  | discussions proposal =>
      exact serial.discussions.nodup.sublist (List.filter_sublist.map _)
  | grants => exact keyed.grants
  | proposalVotes filter =>
      cases filter <;>
        exact serial.proposalVotes.nodup.sublist (List.filter_sublist.map _)
  | grantVotes filter =>
      cases filter <;>
        exact serial.grantVotes.nodup.sublist (List.filter_sublist.map _)

end Catalog

end Ledger

open Ledger

namespace World

/-- A ledger in memory answers what does not store anything, whatever it refuses. -/
theorem record_reads (world : World .inMemory) (operation : Operation)
    (isRead : operation.isWrite = false)
    (untouched : (world.store.ledger.perform operation).2 = world.store.ledger) :
    (record operation).Ends world (.ok (world.store.ledger.perform operation).1)
      [.recorded operation true] world := by
  refine ends_attempt_bind.mpr ⟨_, world, [], _, ends_inside.mpr ⟨world.store, ?_, rfl⟩,
    ends_note_bind.mpr ⟨_, ends_ofExcept.mpr ⟨rfl, rfl, rfl⟩, rfl⟩, rfl⟩
  change (Refusing.writes Tables.books operation).Ends _ _ _ _
  rw [Refusing.writes, isRead, if_neg Bool.false_ne_true]
  refine ends_inside.mpr ⟨world.store.ledger, ?_, rfl⟩
  exact ⟨false, by simp only [Tables.books, untouched]⟩

theorem listing_ends {others : Collaborators} {ρ : Type} {page size : Number}
    (load : Window → Call (World others) (Page ρ)) {answer : Page ρ} {world final : World others}
    {trace : Trace}
    (loaded : (load (PageRequest.clamp page size).window).Ends world (.ok answer) trace final) :
    (listing page size load).Ends world (.ok { request := .clamp page size, page := answer }) trace
      final :=
  ends_bind.mpr (.inr ⟨answer, final, trace, [], loaded, ends_pure.mpr ⟨rfl, rfl, rfl⟩,
    (List.append_nil trace).symm⟩)

theorem catalog_read_ends (catalog : Catalog) (page size : Number) (world : World .inMemory) :
    ∃ trace, (catalog.read page size).Ends world
      (.ok { request := .clamp page size
             page := Ledger.page catalog.key (PageRequest.clamp page size).window
               (catalog.matching world.store.ledger) }) trace world := by
  cases catalog with
  | proposals proposer =>
      have read := listing_ends (fun window => record (.proposals window proposer))
        (record_reads world (.proposals (PageRequest.clamp page size).window proposer) rfl rfl)
      cases proposer with
      | none =>
          have answer : (world.store.ledger.perform
              (.proposals (PageRequest.clamp page size).window none)).1 =
                Ledger.page Proposal.id (PageRequest.clamp page size).window
                  world.store.ledger.proposals := by
            simp [Tables.perform]
          rw [answer] at read
          exact ⟨_, read⟩
      | some address => exact ⟨_, read⟩
  | discussions proposal =>
      exact ⟨_, listing_ends (fun window => record (.discussions proposal window))
        (record_reads world _ rfl rfl)⟩
  | grants =>
      exact ⟨_, listing_ends (fun window => record (.grants window)) (record_reads world _ rfl rfl)⟩
  | proposalVotes filter =>
      cases filter <;>
        exact ⟨_, listing_ends (fun window => record (.proposalVotes _ window))
          (record_reads world _ rfl rfl)⟩
  | grantVotes filter =>
      cases filter <;>
        exact ⟨_, listing_ends (fun window => record (.grantVotes _ window))
          (record_reads world _ rfl rfl)⟩

/-- Read from the first page on until all rows are shown, a list shows each row that matches once,
newest first, whatever size of page is asked for; and each page is as full as it can be. -/
theorem pages_partition (catalog : Catalog) {world : World .inMemory}
    {operations : List Operation} (reached : world.store.ledger = Tables.replay {} operations)
    (numbers : ∀ row ∈ catalog.matching world.store.ledger, catalog.key row ≠ .nan)
    (few : (catalog.matching world.store.ledger).length ≤ Number.safeBound) (requested : Number) :
    ∃ listings : Nat → Listing catalog.Row,
      let rows := catalog.matching world.store.ledger
      let size := PageRequest.pageSize requested
      (∀ page, page * size ≤ Number.safeBound →
        (∃ trace, (catalog.read (.ofNat page) requested).Ends world (.ok (listings page)) trace
          world) ∧
        (listings page).request = { page := .ofNat page, size := .ofNat size } ∧
        (listings page).page.total = rows.length ∧
        (listings page).page.rows.length = Min.min size (rows.length - page * size)) ∧
      ∀ count, rows.length ≤ count * size → (∀ page < count, page * size ≤ Number.safeBound) →
        ((List.range count).flatMap (listings · |>.page.rows)).Perm rows ∧
        Descending catalog.key ((List.range count).flatMap (listings · |>.page.rows)) := by
  have distinct : ((catalog.matching world.store.ledger).map catalog.key).Nodup := by
    rw [reached]
    exact catalog.nodup_matching (Tables.keyed_empty.replay _) (Tables.serial_empty.replay _)
  refine ⟨fun page =>
    { request := { page := .ofNat page, size := .ofNat (PageRequest.pageSize requested) }
      page :=
        { rows := ((inOrder catalog.key (catalog.matching world.store.ledger)).drop
            (page * PageRequest.pageSize requested)).take (PageRequest.pageSize requested)
          total := (catalog.matching world.store.ledger).length } }, ?_⟩
  intro rows size
  have length : (inOrder catalog.key rows).length = rows.length := (inOrder_perm rows).length_eq
  constructor
  · intro page safe
    refine ⟨?_, rfl, rfl, ?_⟩
    · obtain ⟨trace, read⟩ := catalog_read_ends catalog (.ofNat page) requested world
      rw [PageRequest.clamp_ofNat, PageRequest.window, page_eq few safe] at read
      exact ⟨trace, read⟩
    · rw [List.length_take, List.length_drop, length]
  · intro count enough _
    rw [flatMap_pages, List.take_of_length_le (length ▸ enough)]
    exact ⟨inOrder_perm rows, inOrder_descending distinct numbers⟩

/-- A world in which proposals of one proposer are stored one after the other. -/
def proposing (ids : List Number) : World .inMemory :=
  .inMemory {} (Tables.replay {} (ids.map fun id => .upsertProposal
    { id, proposerIndex := 3, proposerAddress := "AA03", data := [], createdAt := 1, settledAt := 0
      status := 1 }))

/-- Pages of two and a half rows are pages of two. -/
theorem pages_partition_proposing :
    ∃ listings : Nat → Listing Proposal,
      (∃ trace, (listProposals 2 (.finite (5 / 2)) (some "AA03")).Ends (proposing [4, 9, 2, 9, 7, 1])
        (.ok (listings 2)) trace (proposing [4, 9, 2, 9, 7, 1])) ∧
      (listings 2).page.total = 5 ∧ (listings 2).page.rows.length = 1 ∧
      Descending Proposal.id ((List.range 3).flatMap (listings · |>.page.rows)) := by
  have numbers : ∀ row ∈ (Catalog.proposals (some "AA03")).matching
      (proposing [4, 9, 2, 9, 7, 1]).store.ledger, row.id ≠ .nan := by decide +kernel
  have few : ((Catalog.proposals (some "AA03")).matching
      (proposing [4, 9, 2, 9, 7, 1]).store.ledger).length ≤ Number.safeBound := by decide +kernel
  obtain ⟨listings, pages, all⟩ := pages_partition (.proposals (some "AA03")) rfl numbers few
    (.finite (5 / 2))
  obtain ⟨read, _, total, rows⟩ := pages 2 (by decide +kernel)
  refine ⟨listings, read, total, rows.trans (by decide +kernel), ?_⟩
  exact (all 3 (by decide +kernel) (by decide +kernel)).2

/-- A size below all others asks for the greatest page; and where an id is not a number, no order of
the rows is descending. -/
theorem not_pages_partition :
    (Number.max 1 (Number.min maxPageSize (.infinite true)) = 1 ∧
      ∃ trace listing, (listProposals 0 (.infinite true) none).Ends (proposing [1, 2])
        (.ok listing) trace (proposing [1, 2]) ∧ listing.request.size = 100 ∧
        listing.page.rows.length = 2) ∧
    ∃ trace listing, (listProposals 0 100 none).Ends (proposing [.nan, 1]) (.ok listing) trace
      (proposing [.nan, 1]) ∧ ¬ Descending Proposal.id listing.page.rows := by
  constructor
  · obtain ⟨trace, read⟩ := catalog_read_ends (.proposals none) 0 (.infinite true) (proposing [1, 2])
    refine ⟨by decide +kernel, trace, _, read, rfl, ?_⟩
    rw [show (0 : Number) = .ofNat 0 from rfl, PageRequest.clamp_ofNat, PageRequest.window,
      page_eq (by decide +kernel) (by decide), List.length_take, List.length_drop,
      (inOrder_perm _).length_eq]
    decide +kernel
  · obtain ⟨trace, read⟩ := catalog_read_ends (.proposals none) 0 100 (proposing [.nan, 1])
    refine ⟨trace, _, read, ?_⟩
    rw [show (0 : Number) = .ofNat 0 from rfl, PageRequest.clamp_ofNat, PageRequest.window,
      page_eq (by decide +kernel) (by decide)]
    have kept : inOrder Proposal.id ((Catalog.proposals none).matching
        (proposing [.nan, 1]).store.ledger) = (proposing [.nan, 1]).store.ledger.proposals :=
      List.mergeSort_of_pairwise (by decide +kernel)
    intro descending
    rw [show (Catalog.proposals none).key = Proposal.id from rfl, kept] at descending
    exact absurd (List.rel_of_pairwise_cons descending List.mem_cons_self) (by decide)

end World

end RollCall
