import RollCall.Proofs.Telling

/-!
# A height that is done again

A pass that comes to its votes but does not save its height is followed by another over the same
block. The second pass leaves every record as the first did, but for proposals that the block settles
before it makes them: these are open after the first pass and settled after the second.
-/

set_option autoImplicit false

namespace RollCall

open Call

/-- The heights whose votes were brought up to date, in order. -/
def Trace.reconciliations (trace : Trace) : List Height :=
  trace.filterMap fun
    | .reconciled height => some height
    | _ => none

theorem Trace.mem_reconciliations {trace : Trace} {height : Height} :
    height ∈ trace.reconciliations ↔ .reconciled height ∈ trace := by
  constructor
  · intro member
    obtain ⟨note, noted, same⟩ := List.mem_filterMap.mp member
    split at same
    · exact Option.some_inj.mp same ▸ noted
    · cases same
  · intro noted
    exact List.mem_filterMap.mpr ⟨_, noted, rfl⟩

namespace Ledger.Tables

variable {tables : Tables} {height : Height} {events : List Event} {ordinal : Nat}
  {done again : List Signer}

/-- Once all votes of a height are cast, a further pass over its block casts none. -/
theorem voted_of_complete {content : Chain.Content} (begun : (0 : Height).below height)
    (keyed : tables.Keyed)
    (complete : content.IsComplete height (tables.absorbAll height events ordinal) done)
    (complete' : content.IsComplete height
      (((tables.absorbAll height events ordinal).voted height done).absorbAll height events ordinal)
      again) :
    (((tables.absorbAll height events ordinal).voted height done).absorbAll height events
        ordinal).voted height again =
      ((tables.absorbAll height events ordinal).voted height done).absorbAll height events
        ordinal := by
  have same := (remade_absorbAll_again begun keyed events ordinal).target? begun
    (keyed.absorbAll height events ordinal)
  rw [absorbAll_voted begun keyed] at complete' ⊢
  have undecided : ((tables.absorbAll height events ordinal).absorbAll height events
      ordinal).target? height = none →
      ∀ signers, (((tables.absorbAll height events ordinal).absorbAll height events ordinal).voted
        height done).voted height signers = ((tables.absorbAll height events ordinal).absorbAll
          height events ordinal).voted height done := by
    intro missing signers
    rw [voted, target?_voted, missing]
    rfl
  rcases complete with missing | signers
  · rw [missing] at same
    refine undecided ?_ again
    cases redecided : ((tables.absorbAll height events ordinal).absorbAll height events
        ordinal).target? height with
    | none => rfl
    | some target =>
        rw [redecided] at same
        cases same
  · rcases complete' with missing | signers'
    · rw [target?_voted] at missing
      exact undecided missing again
    · obtain rfl : done = again := Option.some_inj.mp (signers.symm.trans signers')
      exact voted_voted begun List.prefix_rfl

end Ledger.Tables

namespace Loop

/-- What a pass leaves that ends well, or that at least brings its votes up to date. -/
theorem Pass.complete {content : Chain.Content} {options : FollowOptions} {height : Height}
    {start final : Ledger.Tables} {result : Except Fault Unit} {trace : Trace}
    (pass : Pass content options height start result trace final)
    (complete : result = .ok () ∨ height ∈ trace.reconciliations) :
    ∃ done, content.IsComplete height
        (start.absorbAll height (content.events options.withBlockEvents height) 0) done ∧
      (result = .ok () ∧ final = ((start.absorbAll height
          (content.events options.withBlockEvents height) 0).voted height done).advance
            options.progressId height ∨
        result ≠ .ok () ∧ final = (start.absorbAll height
          (content.events options.withBlockEvents height) 0).voted height done) := by
  cases pass with
  | unfetched unasked unreconciled =>
      rcases complete with impossible | reconciled
      · cases impossible
      · exact (unreconciled _ (Trace.mem_reconciliations.mp reconciled)).elim
  | begun absorbs replayed earlier later unreconciled partly ended =>
      subst absorbs
      rcases ended with ⟨⟨fault, rfl⟩, rfl, whole⟩ | ⟨rfl, whole, rfl⟩
      · refine ⟨_, whole ?_, .inr ⟨by simp, rfl⟩⟩
        rcases complete with impossible | reconciled
        · cases impossible
        · rcases List.mem_append.mp (Trace.mem_reconciliations.mp reconciled) with first | member
          · exact (unreconciled _ first).elim
          · rcases List.mem_cons.mp member with impossible | last
            · cases impossible
            · exact ⟨_, last⟩
      · exact ⟨_, whole, .inl ⟨rfl, rfl⟩⟩

section Again

variable {others : Collaborators} (discreet : others.Discreet)
  {tables : others.Store → Ledger.Tables} (kept : others.books.KeptIn tables)
  {options : FollowOptions} {content : Chain.Content} {height : Height}
  {world middle world' final : World others} {trace trace' : Trace} {fault : Fault}

include discreet kept

/-- A pass that brings its votes up to date and is not saved, and another over the same block:
nothing changes, except that proposals do if and only if the block settles one of them that is new
before it makes it. -/
theorem process_again {operations : List Ledger.Operation}
    (reached : tables world.store = ({} : Ledger.Tables).replay operations)
    (begun : (Number.ofNat 1).atMost height)
    (first : (process options height).Ends world (.error fault) trace middle)
    (reconciled : height ∈ trace.reconciliations)
    (restarted : tables world'.store = tables middle.store)
    (second : (process options height).Ends world' (.ok ()) trace' final)
    (told : ∀ note ∈ trace ++ trace', note.TellsOf content options.withBlockEvents)
    (firm : ∀ note ∈ trace ++ trace', note.IsFirm) :
    (tables final.store).validators = (tables middle.store).validators ∧
      (tables final.store).grants = (tables middle.store).grants ∧
      (tables final.store).discussions = (tables middle.store).discussions ∧
      (tables final.store).proposalVotes = (tables middle.store).proposalVotes ∧
      (tables final.store).grantVotes = (tables middle.store).grantVotes ∧
      ((tables final.store).proposals = (tables middle.store).proposals ↔
        ∀ id, Ledger.byId? Ledger.Proposal.id (tables world.store).proposals id = none →
          ¬ Event.Word.SettledEarly
            ((content.events options.withBlockEvents height).map (·.wordOn id))) := by
  have begun' := Number.below_of_below_of_atMost (Number.below_ofNat.mpr Nat.one_pos) begun
  have keyed : (tables world.store).Keyed := reached ▸ Ledger.Tables.keyed_empty.replay operations
  obtain ⟨toldFirst, toldSecond⟩ := List.forall_mem_append.mp told
  obtain ⟨firmFirst, firmSecond⟩ := List.forall_mem_append.mp firm
  obtain ⟨done, complete, ⟨impossible, _⟩ | ⟨_, once⟩⟩ :=
    (process_pass discreet kept first toldFirst firmFirst).complete (.inr reconciled)
  · cases impossible
  obtain ⟨again, complete', ⟨_, twice⟩ | ⟨impossible, _⟩⟩ :=
    (process_pass discreet kept second toldSecond firmSecond).complete (.inl rfl)
  swap
  · exact absurd rfl impossible
  rw [restarted, once] at complete' twice
  -- All votes are cast by the first pass, so the second one is the block alone.
  rw [Ledger.Tables.voted_of_complete begun' keyed complete complete'] at twice
  obtain ⟨earlier, keyed', proposals, same⟩ := Ledger.Tables.voted_eq_absorbAll keyed
  rw [same] at once twice
  rw [once, twice, ← proposals]
  have rest := (Ledger.Tables.remade_absorbAll_again begun' keyed'
    (content.events options.withBlockEvents height) 0).rest
  rw [Ledger.Tables.advance]
  exact ⟨by rw [rest], by rw [rest], by rw [rest], by rw [rest], by rw [rest],
    Ledger.Tables.proposals_absorbAll_again_iff begun' keyed' _ _⟩

end Again

/-- A world whose one block makes a proposal and settles it, in this order or the other, and whose
first attempt to save is refused. -/
def decidingWorld (settledFirst : Bool) : World Collaborators.inMemory :=
  let events :=
    if settledFirst then [.settling "7", .making "7"] else [.making "7", .settling "7"]
  World.inMemory { head := .ofNat 2, blocks := [Chain.blockOf 1 events] } {}
    [("saveProgress", [.other "disk full"])]

/-- Two passes over the block of a deciding world, with a new connection for the second. -/
structure DoneTwice (settledFirst : Bool) (fault : Fault) (trace trace' : Trace)
    (middle final : World Collaborators.inMemory) : Prop where
  first : (process (optionsFrom 1) (.ofNat 1)).Ends (decidingWorld settledFirst) (.error fault) trace
    middle
  reconciled : .ofNat 1 ∈ trace.reconciliations
  second : (process (optionsFrom 1) (.ofNat 1)).Ends middle.reconnected (.ok ()) trace' final
  told : ∀ note ∈ trace ++ trace',
    note.TellsOf (decidingWorld settledFirst).chain.node.answer true
  firm : ∀ note ∈ trace ++ trace', note.IsFirm
  settledAt : middle.store.ledger.proposals.map (·.settledAt) =
    [.ofNat (if settledFirst then 0 else 1)]
  settledAt' : final.store.ledger.proposals.map (·.settledAt) = [.ofNat 1]

private def firstPass (settledFirst : Bool) : Completion (World Collaborators.inMemory) Unit :=
  process (optionsFrom 1) (.ofNat 1) (decidingWorld settledFirst)

private def secondPass (settledFirst : Bool) : Completion (World Collaborators.inMemory) Unit :=
  process (optionsFrom 1) (.ofNat 1) (firstPass settledFirst).state.reconnected

private theorem passes_computed : ∀ settledFirst : Bool,
    ¬ (firstPass settledFirst).result.isOk ∧ (secondPass settledFirst).result.isOk ∧
      .ofNat 1 ∈ (firstPass settledFirst).trace.reconciliations ∧
      (∀ note ∈ (firstPass settledFirst).trace ++ (secondPass settledFirst).trace, note.IsFirm) ∧
      (firstPass settledFirst).state.store.ledger.proposals.map (·.settledAt) =
        [.ofNat (if settledFirst then 0 else 1)] ∧
      (secondPass settledFirst).state.store.ledger.proposals.map (·.settledAt) = [.ofNat 1] := by
  decide +kernel

theorem exists_doneTwice (settledFirst : Bool) :
    ∃ fault trace trace' middle final, DoneTwice settledFirst fault trace trace' middle final := by
  obtain ⟨fails, succeeds, reconciled, firm, settledAt, settledAt'⟩ := passes_computed settledFirst
  obtain ⟨fault, first⟩ : ∃ fault, (process (optionsFrom 1) (.ofNat 1)).Ends
      (decidingWorld settledFirst) (.error fault) (firstPass settledFirst).trace
      (firstPass settledFirst).state := ends_of_not_isOk fails
  have second : (process (optionsFrom 1) (.ofNat 1)).Ends
      (firstPass settledFirst).state.reconnected (.ok ()) (secondPass settledFirst).trace
      (secondPass settledFirst).state := ends_of_isOk succeeds
  have told := process_tells first
  have told' := (process_tells second).2
  rw [World.reconnected_node, told.1] at told'
  refine ⟨fault, _, _, _, _, first, reconciled, second, fun note member => ?_, firm, settledAt,
    settledAt'⟩
  refine Note.tellsOf_of_isSaid ?_ true
  rcases List.mem_append.mp member with earlier | later
  · exact told.2 note earlier
  · exact told' note later

/-- A proposal that is settled after it is made is settled after either pass. -/
theorem process_again_settled_late : ∃ fault trace trace' middle final,
    DoneTwice false fault trace trace' middle final ∧
      final.store.ledger.discussions = middle.store.ledger.discussions ∧
      (final.store.ledger.proposals = middle.store.ledger.proposals ↔
        ∀ id, Ledger.byId? Ledger.Proposal.id [] id = none →
          ¬ Event.Word.SettledEarly ((Chain.Content.events (decidingWorld false).chain.node.answer
            true (.ofNat 1)).map (·.wordOn id))) := by
  obtain ⟨fault, trace, trace', middle, final, twice⟩ := exists_doneTwice false
  obtain ⟨_, _, discussions, _, _, proposals⟩ := process_again Collaborators.discreet_inMemory
    Collaborators.keptIn_inMemory (show _ = ({} : Ledger.Tables).replay [] from rfl)
    (by decide +kernel) twice.first twice.reconciled
    (by rw [World.reconnected_store]) twice.second twice.told twice.firm
  exact ⟨fault, trace, trace', middle, final, twice, discussions, proposals⟩

/-- A proposal that is settled before it is made is open after the first pass and settled after the
second. -/
theorem not_process_again_settled_early : ∃ fault trace trace' middle final,
    DoneTwice true fault trace trace' middle final ∧
      final.store.ledger.proposals ≠ middle.store.ledger.proposals := by
  obtain ⟨fault, trace, trace', middle, final, twice⟩ := exists_doneTwice true
  refine ⟨fault, trace, trace', middle, final, twice, fun same => ?_⟩
  have settledAt := twice.settledAt'
  rw [same, twice.settledAt] at settledAt
  exact absurd settledAt (by decide +kernel)

end Loop

end RollCall
