import Mathlib.Data.List.Forall2
import Mathlib.Data.Option.Basic
import RollCall.Ledger.Tables
import RollCall.Proofs.Heights

/-!
# Rows by id

A row that is stored by an id of its own is what is found under that id from then on, and no other
id finds anything else than before. Rows with the same ids in the same order are the same rows if
every id finds the same.
-/

set_option autoImplicit false

namespace RollCall.Ledger

variable {ρ : Type} {id : ρ → Number}

/-!
## Storing and finding
-/

theorem any_id_iff {κ : Type} [BEq κ] [LawfulBEq κ] {id : ρ → κ} {key : κ} {rows : List ρ} :
    rows.any (id · == key) ↔ key ∈ rows.map id := by
  simp [List.mem_map]

theorem map_id_replaceById {κ : Type} [BEq κ] [LawfulBEq κ] (id : ρ → κ) (row : ρ)
    (rows : List ρ) :
    ((replaceById id row rows).map id = rows.map id ∧ id row ∈ rows.map id) ∨
      ((replaceById id row rows).map id = rows.map id ++ [id row] ∧ id row ∉ rows.map id) := by
  unfold replaceById
  split
  · next stored =>
    refine .inl ⟨?_, any_id_iff.mp stored⟩
    rw [List.map_map]
    apply List.map_congr_left
    intro other _
    by_cases same : id other = id row <;> simp [same]
  · next fresh =>
    exact .inr ⟨List.map_append, fun stored => fresh (any_id_iff.mpr stored)⟩

theorem nodup_replaceById {κ : Type} [BEq κ] [LawfulBEq κ] {id : ρ → κ} {rows : List ρ}
    (distinct : (rows.map id).Nodup) (row : ρ) : ((replaceById id row rows).map id).Nodup := by
  rcases map_id_replaceById id row rows with ⟨ids, _⟩ | ⟨ids, fresh⟩
  · rw [ids]
    exact distinct
  · rw [ids]
    exact List.nodup_append.mpr ⟨distinct, List.nodup_singleton _, fun key stored other new same =>
      fresh (List.mem_singleton.mp new ▸ same ▸ stored)⟩

theorem mem_ids_replaceById {κ : Type} [BEq κ] [LawfulBEq κ] {id : ρ → κ} {row : ρ}
    {rows : List ρ} {key : κ} :
    key ∈ (replaceById id row rows).map id ↔ key = id row ∨ key ∈ rows.map id := by
  rcases map_id_replaceById id row rows with ⟨ids, stored⟩ | ⟨ids, _⟩
  · rw [ids]
    exact ⟨.inr, fun either => either.elim (fun same => same ▸ stored) fun old => old⟩
  · rw [ids, List.mem_append, List.mem_singleton, or_comm]

theorem mem_replaceById {κ : Type} [BEq κ] {id : ρ → κ} {row other : ρ} {rows : List ρ}
    (member : other ∈ replaceById id row rows) : other = row ∨ other ∈ rows := by
  unfold replaceById at member
  split at member
  · obtain ⟨old, stored, same⟩ := List.mem_map.mp member
    split at same
    · exact .inl same.symm
    · exact .inr (same ▸ stored)
  · rcases List.mem_append.mp member with old | new
    · exact .inr old
    · exact .inl (List.mem_singleton.mp new)

theorem forall_replaceById {κ : Type} [BEq κ] {id : ρ → κ} {Q : ρ → Prop} {row : ρ}
    {rows : List ρ} (old : ∀ other ∈ rows, Q other) (new : Q row) :
    ∀ other ∈ replaceById id row rows, Q other := by
  intro other member
  rcases mem_replaceById member with rfl | stored
  · exact new
  · exact old other stored

@[simp] theorem byId?_nil (wanted : Number) : byId? id [] wanted = none := rfl

theorem byId?_cons (row : ρ) (rows : List ρ) (wanted : Number) :
    byId? id (row :: rows) wanted = if id row = wanted then some row else byId? id rows wanted := by
  unfold byId?
  rw [List.find?_cons]
  by_cases same : id row = wanted
  · rw [if_pos same, beq_iff_eq.mpr same]
  · rw [if_neg same, beq_eq_false_iff_ne.mpr same]

theorem byId?_append (rows more : List ρ) (wanted : Number) :
    byId? id (rows ++ more) wanted = (byId? id rows wanted).or (byId? id more wanted) :=
  List.find?_append

theorem id_of_byId? {rows : List ρ} {wanted : Number} {row : ρ}
    (found : byId? id rows wanted = some row) : id row = wanted := by
  simpa using List.find?_some found

theorem mem_of_byId? {rows : List ρ} {wanted : Number} {row : ρ}
    (found : byId? id rows wanted = some row) : row ∈ rows :=
  List.mem_of_find?_eq_some found

theorem byId?_eq_none_iff {rows : List ρ} {wanted : Number} :
    byId? id rows wanted = none ↔ wanted ∉ rows.map id := by
  simp [byId?, List.mem_map]

theorem mem_ids_iff {rows : List ρ} {wanted : Number} :
    wanted ∈ rows.map id ↔ ∃ row, byId? id rows wanted = some row := by
  rw [← not_iff_not, ← byId?_eq_none_iff, ← Option.ne_none_iff_exists', not_not]

theorem byId?_of_mem {rows : List ρ} (distinct : (rows.map id).Nodup) {row : ρ}
    (member : row ∈ rows) : byId? id rows (id row) = some row := by
  induction rows with
  | nil => cases member
  | cons first rest ih =>
      rw [byId?_cons]
      obtain ⟨fresh, distinct⟩ := List.nodup_cons.mp distinct
      rcases List.mem_cons.mp member with rfl | later
      · rw [if_pos rfl]
      · have other : id first ≠ id row := fun same => fresh (same ▸ List.mem_map_of_mem later)
        rw [if_neg other, ih distinct later]

private theorem byId?_replaced (row : ρ) (rows : List ρ) (wanted : Number) :
    byId? id (rows.map fun other => if id other == id row then row else other) wanted =
      if id row = wanted then (byId? id rows wanted).map fun _ => row
      else byId? id rows wanted := by
  induction rows with
  | nil => simp
  | cons first rest ih =>
      rw [List.map_cons, byId?_cons, byId?_cons, ih]
      by_cases same : id first = id row
      · by_cases found : id row = wanted <;> simp [same, found]
      · rw [if_neg fun equal => same (beq_iff_eq.mp equal)]
        by_cases found : id first = wanted
        · have other : id row ≠ wanted := fun also => same (found.trans also.symm)
          rw [if_pos found, if_pos found, if_neg other]
        · rw [if_neg found, if_neg found]

/-- A stored row is found under its id, and every other id finds what it found. -/
theorem byId?_replaceById (row : ρ) (rows : List ρ) (wanted : Number) :
    byId? id (replaceById id row rows) wanted =
      if id row = wanted then some row else byId? id rows wanted := by
  unfold replaceById
  split
  · next stored =>
    rw [byId?_replaced]
    split
    · next same =>
      obtain ⟨old, found⟩ := mem_ids_iff.mp (any_id_iff.mp stored)
      rw [← same, found]
      rfl
    · rfl
  · next fresh =>
    rw [byId?_append, byId?_cons, byId?_nil]
    split
    · next same =>
      rw [byId?_eq_none_iff.mpr fun stored => fresh (any_id_iff.mpr (same ▸ stored))]
      rfl
    · rw [Option.or_none]

/-!
## Rows without an id of their own
-/

theorem forall_append {Q : ρ → Prop} {row : ρ} {rows : List (Numbered ρ)}
    (old : ∀ other ∈ rows, Q other.row) (new : Q row) :
    ∀ other ∈ (append row rows).2, Q other.row := by
  intro other member
  rcases List.mem_append.mp member with stored | last
  · exact old other stored
  · exact List.mem_singleton.mp last ▸ new

/-- Rows are numbered from one on, in order. -/
def Ordered (rows : List (Numbered ρ)) : Prop :=
  rows.map Numbered.id = (List.range' 1 rows.length).map Nat.cast

theorem Ordered.append {rows : List (Numbered ρ)} (ordered : Ordered rows) (row : ρ) :
    Ordered (append row rows).2 := by
  simp only [Ordered, Ledger.append, List.map_append, List.length_append, List.map_singleton,
    List.length_singleton, List.range'_1_concat]
  rw [ordered]
  congr 2
  push_cast
  omega

theorem Ordered.nodup {rows : List (Numbered ρ)} (ordered : Ordered rows) :
    (rows.map fun row => Number.ofInt row.id).Nodup := by
  rw [show (fun row : Numbered ρ => Number.ofInt row.id) = Number.ofInt ∘ Numbered.id from rfl,
    ← List.map_map, ordered, List.map_map]
  exact (List.nodup_range' 1).map fun left right same => by simpa [Number.ofInt] using same

/-!
## Tables with the same ids
-/

/-- Two tables with the same distinct ids are related row by row if what every id finds is. -/
theorem forall₂_of_byId? {R : ρ → ρ → Prop} {rows others : List ρ}
    (distinct : (rows.map id).Nodup) (ids : others.map id = rows.map id)
    (related : ∀ wanted row other, byId? id rows wanted = some row →
      byId? id others wanted = some other → R row other) : List.Forall₂ R rows others := by
  have rowwise : ∀ row ∈ rows, ∀ other ∈ others, id row = id other → R row other := by
    intro row member other also same
    refine related (id row) row other (byId?_of_mem distinct member) ?_
    rw [same]
    exact byId?_of_mem (ids ▸ distinct) also
  clear related distinct
  induction rows generalizing others with
  | nil =>
      rw [List.map_nil, List.map_eq_nil_iff] at ids
      rw [ids]
      exact .nil
  | cons row rest ih =>
      obtain ⟨other, more, rfl, same, rest'⟩ := List.map_eq_cons_iff.mp ids
      refine .cons (rowwise row List.mem_cons_self other List.mem_cons_self same.symm) (ih rest' ?_)
      intro row member other also
      exact rowwise row (List.mem_cons_of_mem _ member) other (List.mem_cons_of_mem _ also)

theorem rows_ext {rows others : List ρ} (distinct : (rows.map id).Nodup)
    (ids : others.map id = rows.map id)
    (same : ∀ wanted, byId? id others wanted = byId? id rows wanted) : others = rows := by
  have rowwise : List.Forall₂ (fun row other => row = other) rows others :=
    forall₂_of_byId? distinct ids fun wanted row other found also => by
      rw [same, found] at also
      exact Option.some_inj.mp also
  exact (List.forall₂_eq_eq_eq ▸ rowwise : rows = others).symm

/-!
## The lowest of some rows
-/

section Lowest

variable {holds : ρ → Bool}

private theorem lowest?_concat (rows : List ρ) (row : ρ) :
    lowest? id holds (rows ++ [row]) =
      if holds row && (lowest? id holds rows).all ((id row).below <| id ·) then some row
      else lowest? id holds rows :=
  List.foldl_concat ..

theorem lowest?_eq_none {rows : List ρ} :
    lowest? id holds rows = none ↔ ∀ row ∈ rows, ¬ holds row := by
  induction rows using List.reverseRecOn with
  | nil => simp [lowest?]
  | append_singleton rows last ih =>
      rw [lowest?_concat]
      cases before : lowest? id holds rows with
      | none =>
          have none : ∀ row ∈ rows, ¬ holds row := ih.mp before
          cases has : holds last with
          | true =>
              refine iff_of_false (by simp) fun all => ?_
              exact all last (List.mem_append_right _ List.mem_cons_self) has
          | false =>
              simp only [Bool.false_and, Bool.false_eq_true, if_false, true_iff]
              intro row member
              rcases List.mem_append.mp member with earlier | last
              · exact none row earlier
              · rw [List.mem_singleton.mp last, has]
                simp
      | some best =>
          have some : ¬ ∀ row ∈ rows, ¬ holds row := fun all => by simp [ih.mpr all] at before
          refine iff_of_false (by split <;> simp) fun all => some fun row member => ?_
          exact all row (List.mem_append_left _ member)

/-- The lowest row that has a property is in the table and has it, and no other row that has it is
below. -/
theorem lowest?_some {rows : List ρ} {best : ρ} (found : lowest? id holds rows = some best) :
    best ∈ rows ∧ holds best ∧ ∀ row ∈ rows, holds row → ¬ (id row).below (id best) := by
  induction rows using List.reverseRecOn generalizing best with
  | nil => cases found
  | append_singleton rows last ih =>
      rw [lowest?_concat] at found
      split at found
      · next better =>
        cases found
        obtain ⟨has, lower⟩ := Bool.and_eq_true_iff.mp better
        refine ⟨by simp, has, fun row member holdsRow below => ?_⟩
        rcases List.mem_append.mp member with earlier | last
        · cases before : lowest? id holds rows with
          | none => exact lowest?_eq_none.mp before row earlier holdsRow
          | some old =>
              rw [before] at lower
              exact (ih before).2.2 row earlier holdsRow (Number.below_trans below lower)
        · exact Number.below_irrefl _ (List.mem_singleton.mp last ▸ below)
      · next worse =>
        obtain ⟨member, has, least⟩ := ih found
        refine ⟨List.mem_append_left _ member, has, fun row also holdsRow below => ?_⟩
        rcases List.mem_append.mp also with earlier | last
        · exact least row earlier holdsRow below
        · rw [List.mem_singleton.mp last] at holdsRow below
          rw [found] at worse
          exact worse (Bool.and_eq_true_iff.mpr ⟨holdsRow, below⟩)

private theorem best_rel {R : ρ → ρ → Prop} {rows others : List ρ}
    (related : List.Forall₂ R rows others) (ids : ∀ row other, R row other → id row = id other)
    (together : ∀ row other, R row other → holds row = holds other) {best second : Option ρ}
    (start : Option.Rel R best second) :
    Option.Rel R
      (rows.foldl (fun best row =>
        if holds row && best.all ((id row).below <| id ·) then some row else best) best)
      (others.foldl (fun best row =>
        if holds row && best.all ((id row).below <| id ·) then some row else best) second) := by
  induction related generalizing best second with
  | nil => exact start
  | cons pair _ ih =>
      apply ih
      dsimp only
      rw [ids _ _ pair, together _ _ pair]
      cases start with
      | none =>
          simp only [Option.all_none, Bool.and_true]
          split
          · exact .some pair
          · exact .none
      | some old =>
          rw [Option.all_some, Option.all_some, ids _ _ old]
          split
          · exact .some pair
          · exact .some old

/-- Tables that are related row by row have related lowest rows, if related rows have the same id
and the property together. -/
theorem lowest?_rel {R : ρ → ρ → Prop} {rows others : List ρ} (related : List.Forall₂ R rows others)
    (ids : ∀ row other, R row other → id row = id other)
    (together : ∀ row other, R row other → holds row = holds other) :
    Option.Rel R (lowest? id holds rows) (lowest? id holds others) :=
  best_rel related ids together .none

end Lowest

/-!
## Tables with distinct ids, and what operations make of them
-/

namespace Tables

/-- Validators, proposals and grants are each stored under ids of their own. -/
structure Keyed (tables : Tables) : Prop where
  validators : (tables.validators.map Validator.id).Nodup
  proposals : (tables.proposals.map Proposal.id).Nodup
  grants : (tables.grants.map Grant.id).Nodup

theorem keyed_empty : Keyed {} :=
  ⟨List.nodup_nil, List.nodup_nil, List.nodup_nil⟩

theorem Keyed.perform {tables : Tables} (keyed : tables.Keyed) (operation : Operation) :
    (tables.perform operation).2.Keyed := by
  cases operation with
  | upsertValidator row =>
      exact ⟨nodup_replaceById keyed.validators row, keyed.proposals, keyed.grants⟩
  | upsertProposal row =>
      exact ⟨keyed.validators, nodup_replaceById keyed.proposals row, keyed.grants⟩
  | upsertGrant row => exact ⟨keyed.validators, keyed.proposals, nodup_replaceById keyed.grants row⟩
  | _ => exact ⟨keyed.validators, keyed.proposals, keyed.grants⟩

/-- The tables after some operations. -/
def replay (tables : Tables) (operations : List Operation) : Tables :=
  operations.foldl (fun tables operation => (tables.perform operation).2) tables

@[simp] theorem replay_nil (tables : Tables) : tables.replay [] = tables := rfl

@[simp] theorem replay_cons (tables : Tables) (operation : Operation)
    (operations : List Operation) :
    tables.replay (operation :: operations) = (tables.perform operation).2.replay operations := rfl

@[simp] theorem replay_append (tables : Tables) (first second : List Operation) :
    tables.replay (first ++ second) = (tables.replay first).replay second :=
  List.foldl_append

theorem Keyed.replay {tables : Tables} (keyed : tables.Keyed) (operations : List Operation) :
    (tables.replay operations).Keyed := by
  induction operations generalizing tables with
  | nil => exact keyed
  | cons operation rest ih => exact ih (keyed.perform operation)

end Tables

/-!
## Progress
-/

private theorem lookup_cons_eq {β : Type} (entry : String × β) (entries : List (String × β))
    (wanted : String) :
    (entry :: entries).lookup wanted =
      if wanted = entry.1 then some entry.2 else entries.lookup wanted := by
  rw [List.lookup_cons]
  by_cases same : wanted = entry.1
  · rw [if_pos same, beq_iff_eq.mpr same]
  · rw [if_neg same, beq_eq_false_iff_ne.mpr same]

private theorem lookup_eq_none_iff {β : Type} {entries : List (String × β)} {wanted : String} :
    entries.lookup wanted = none ↔ wanted ∉ entries.map Prod.fst := by
  induction entries with
  | nil => simp
  | cons first rest ih =>
      rw [lookup_cons_eq, List.map_cons, List.mem_cons, not_or, ← ih]
      split
      · next same => simp [same]
      · next other => simp [other]

private theorem lookup_replaced {β : Type} (key wanted : String) (value : β)
    (entries : List (String × β)) :
    (entries.map fun entry => if entry.1 == key then (key, value) else entry).lookup wanted =
      if wanted = key then (entries.lookup wanted).map fun _ => value
      else entries.lookup wanted := by
  induction entries with
  | nil => simp
  | cons first rest ih =>
      rw [List.map_cons, lookup_cons_eq, lookup_cons_eq, ih]
      by_cases same : first.1 = key
      · by_cases found : wanted = key <;> simp [same, found]
      · rw [if_neg fun equal => same (beq_iff_eq.mp equal)]
        by_cases found : wanted = first.1
        · have other : wanted ≠ key := fun also => same (found.symm.trans also)
          rw [if_pos found, if_pos found, if_neg other]
        · rw [if_neg found, if_neg found]

theorem lookup_replaceById {β : Type} (key wanted : String) (value : β)
    (entries : List (String × β)) :
    (replaceById Prod.fst (key, value) entries).lookup wanted =
      if wanted = key then some value else entries.lookup wanted := by
  unfold replaceById
  split
  · next stored =>
    rw [lookup_replaced]
    split
    · next same =>
      obtain ⟨old, found⟩ := Option.ne_none_iff_exists'.mp fun absent =>
        lookup_eq_none_iff.mp absent (same ▸ any_id_iff.mp stored)
      rw [found]
      rfl
    · rfl
  · next fresh =>
    rw [List.lookup_append, lookup_cons_eq, List.lookup_nil]
    split
    · next same =>
      rw [lookup_eq_none_iff.mpr fun stored => fresh (any_id_iff.mpr (same ▸ stored))]
      rfl
    · rw [Option.or_none]

/-- A height that is done is the last one done under its name, unless a greater one was. -/
theorem Tables.progressOf?_advance (tables : Tables) (id other : String) (height : Height) :
    (tables.advance id height).progressOf? other =
      if other = id then some (Number.max ((tables.progressOf? id).getD 0) height)
      else tables.progressOf? other :=
  lookup_replaceById ..

end RollCall.Ledger
