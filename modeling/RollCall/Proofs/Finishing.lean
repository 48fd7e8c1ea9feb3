import RollCall.Proofs.Passes

/-!
# Heights done at once and bit by bit

What a height comes to that is done at once, and what it may have left behind when it was given up.
If its block settles no proposal before making it, the height comes to the same in the end, however
often it was begun.
-/

set_option autoImplicit false

namespace RollCall

namespace Ledger.Tables

/-!
## Settlements that come late enough
-/

/-- No proposal that is new is settled before it is made. -/
def SettlesLate (tables : Tables) (events : List Event) : Prop :=
  ∀ id, byId? Proposal.id tables.proposals id = none →
    ¬ Event.Word.SettledEarly (events.map (·.wordOn id))

theorem settles_of_wordOn {event : Event} {id : Number} {settlement : Event.Settlement}
    (settles : event.wordOn id = .settled settlement) :
    event.typed? = some ⟨.settlement, settlement⟩ ∧ .ofNat settlement.proposal = id := by
  unfold Event.wordOn at settles
  split at settles
  · split at settles <;> cases settles
  · next content typed =>
    split at settles
    · next same =>
      cases settles
      exact ⟨typed, same⟩
    · cases settles
  · cases settles

theorem makes_of_wordOn {event : Event} {id : Number} {proposal : Event.Proposal}
    (makes : event.wordOn id = .made proposal) :
    event.typed? = some ⟨.proposal, proposal⟩ ∧ .ofNat proposal.index = id := by
  unfold Event.wordOn at makes
  split at makes
  · next content typed =>
    split at makes
    · next same =>
      cases makes
      exact ⟨typed, same⟩
    · cases makes
  · split at makes <;> cases makes
  · cases makes

/-- Every proposal that some events settle is stored, or an earlier one of the events makes it. -/
def SettlesKnown (tables : Tables) (events : List Event) : Prop :=
  ∀ earlier event later settlement, events = earlier ++ event :: later →
    event.typed? = some ⟨.settlement, settlement⟩ →
    byId? Proposal.id tables.proposals (.ofNat settlement.proposal) ≠ none ∨
      ∃ maker ∈ earlier, ∃ proposal, maker.typed? = some ⟨.proposal, proposal⟩ ∧
        proposal.index = settlement.proposal

theorem SettlesKnown.settlesLate {tables : Tables} {events : List Event}
    (known : tables.SettlesKnown events) : tables.SettlesLate events := by
  intro id fresh early
  obtain ⟨before, proposal, after, words, ⟨settlement, settles⟩, unmade, _⟩ := early
  obtain ⟨first, second, rfl⟩ := List.append_of_mem settles
  rw [List.append_assoc, List.cons_append] at words
  obtain ⟨earlier, rest, rfl, rfl, more⟩ := List.map_eq_append_iff.mp words
  obtain ⟨event, later, rfl, settled, _⟩ := List.map_eq_cons_iff.mp more
  obtain ⟨typed, rfl⟩ := settles_of_wordOn settled
  obtain stored | ⟨maker, member, made, typed', same⟩ := known earlier event later settlement rfl typed
  · exact stored fresh
  · apply unmade made
    refine List.mem_append_left _ (List.mem_map.mpr ⟨maker, member, ?_⟩)
    simp [Event.wordOn, typed', same]

theorem SettlesKnown.take {tables : Tables} {events : List Event}
    (known : tables.SettlesKnown events) (count : Nat) : tables.SettlesKnown (events.take count) := by
  intro earlier event later settlement split
  apply known earlier event (later ++ events.drop count) settlement
  rw [← List.cons_append, ← List.append_assoc, ← split, List.take_append_drop]

theorem settlesLate_of_found {tables : Tables} {events : List Event} (height : Height) (ordinal : Nat)
    (found : ∀ earlier event later settlement, events = earlier ++ event :: later →
      event.typed? = some ⟨.settlement, settlement⟩ →
      byId? Proposal.id (tables.absorbAll height (earlier ++ [event]) ordinal).proposals
        (.ofNat settlement.proposal) ≠ none) : tables.SettlesLate events := by
  apply SettlesKnown.settlesLate
  intro earlier event later settlement split typed
  by_cases stored : byId? Proposal.id tables.proposals (.ofNat settlement.proposal) = none
  · refine .inr (by_contra fun unmade => found earlier event later settlement split typed ?_)
    rw [byId?_proposals_absorbAll, stored]
    apply Event.Word.afterAll_unmade
    intro proposal made
    obtain ⟨maker, member, makes⟩ := List.mem_map.mp made
    obtain ⟨typed', same⟩ := makes_of_wordOn makes
    rcases List.mem_append.mp member with before | last
    · exact unmade ⟨maker, before, proposal, typed', Number.ofNat_injective same⟩
    · cases List.mem_singleton.mp last
      cases typed.symm.trans typed'
  · exact .inl stored

/-!
## Votes in parts
-/

section Votes

variable {tables : Tables} {height : Height} {done again : List Signer}

theorem voted_nil (tables : Tables) (height : Height) : tables.voted height [] = tables := by
  unfold voted
  cases tables.target? height with
  | none => rfl
  | some target => rfl

theorem voted_voted_earlier (begun : (0 : Height).below height) (earlier : again <+: done) :
    (tables.voted height done).voted height again = tables.voted height done := by
  rw [voted, target?_voted]
  unfold voted
  cases tables.target? height with
  | none => rfl
  | some target =>
      apply castAll_of_hasVote
      intro signer member
      exact hasVote_castAll begun tables done signer (.inl (earlier.subset member))

theorem voted_parts {content : Chain.Content} (begun : (0 : Height).below height)
    (first : content.IsPart height done) (second : content.IsPart height again) :
    ∃ more, content.IsPart height more ∧
      (tables.voted height done).voted height again = tables.voted height more := by
  rcases first with rfl | ⟨signers, known, part⟩
  · exact ⟨again, second, by rw [voted_nil]⟩
  rcases second with rfl | ⟨_, known', part'⟩
  · exact ⟨done, .inr ⟨signers, known, part⟩, voted_nil _ _⟩
  cases known.symm.trans known'
  rcases List.prefix_or_prefix_of_prefix part part' with further | earlier
  · exact ⟨again, .inr ⟨signers, known, part'⟩, voted_voted begun further⟩
  · exact ⟨done, .inr ⟨signers, known, part⟩, voted_voted_earlier begun earlier⟩

end Votes

/-!
## One height
-/

section Heights

variable (content : Chain.Content) (options : FollowOptions)

/-- The tables after the block of a height. -/
def absorbed (height : Height) (tables : Tables) : Tables :=
  tables.absorbAll height (content.events options.withBlockEvents height) 0

/-- The tables after a height that is done at once. -/
def finished (height : Height) (tables : Tables) : Tables :=
  ((tables.absorbed content options height).voted height
    ((content.signers? height).getD [])).advance options.progressId height

/-- Whether a height can be done at all: the signers are known, if they are looked for. -/
def CanFinish (height : Height) (tables : Tables) : Prop :=
  ∃ signers, content.IsComplete height (tables.absorbed content options height) signers

/-- What a height may have left behind that was begun any number of times, and not finished. -/
inductive Begun (height : Height) (tables : Tables) : Tables → Prop where
  | not_at_all : Begun height tables tables
  | partly {done : List Signer} (part : content.IsPart height done) :
      Begun height tables ((tables.absorbed content options height).voted height done)

variable {content options} {height : Height} {tables left final : Tables} {done : List Signer}

theorem finished_of_complete
    (complete : content.IsComplete height (tables.absorbed content options height) done) :
    tables.finished content options height =
      ((tables.absorbed content options height).voted height done).advance options.progressId
        height := by
  unfold finished
  rcases complete with nothing | known
  · unfold voted
    rw [nothing]
    rfl
  · rw [known]
    rfl

/-- The block leaves the tables of a height that was begun as it leaves those of one that was not,
but for votes. -/
theorem Begun.absorbed (started : (0 : Height).below height) (keyed : tables.Keyed)
    (late : tables.SettlesLate (content.events options.withBlockEvents height))
    (begun : Begun content options height tables left) :
    ∃ done, content.IsPart height done ∧ left.absorbed content options height =
      (tables.absorbed content options height).voted height done := by
  cases begun with
  | not_at_all => exact ⟨[], .inl rfl, (voted_nil _ _).symm⟩
  | @partly done part =>
      refine ⟨done, part, ?_⟩
      unfold Tables.absorbed
      rw [absorbAll_voted started keyed, absorbAll_again started keyed late]

/-- A pass over a height that was begun finishes it as if it was not, or leaves it begun. -/
theorem Begun.pass {result : Except Fault Unit} {trace : Trace} (started : (0 : Height).below height)
    (keyed : tables.Keyed)
    (late : tables.SettlesLate (content.events options.withBlockEvents height))
    (begun : Begun content options height tables left)
    (pass : Loop.Pass content options height left result trace final) :
    result = .ok () ∧ tables.CanFinish content options height ∧
        final = tables.finished content options height ∨
      (∃ fault, result = .error fault) ∧ Begun content options height tables final := by
  cases pass with
  | unfetched => exact .inr ⟨⟨_, rfl⟩, begun⟩
  | @begun again _ _ _ _ cast absorbs _ _ _ _ part ended =>
      obtain ⟨done, part', same⟩ := begun.absorbed started keyed late
      obtain rfl : again = _ := absorbs.trans same
      rcases ended with ⟨failed, rfl, _⟩ | ⟨rfl, complete, rfl⟩
      · obtain ⟨more, parts, together⟩ : ∃ more, content.IsPart height more ∧
            ((tables.absorbed content options height).voted height done).voted height cast =
              (tables.absorbed content options height).voted height more :=
          voted_parts started part' part
        rw [together]
        exact .inr ⟨failed, .partly parts⟩
      · refine .inl ⟨rfl, ?_⟩
        have complete' : content.IsComplete height (tables.absorbed content options height) cast :=
          complete.imp_left fun nothing => (target?_voted _ _).symm.trans nothing
        refine ⟨⟨cast, complete'⟩, ?_⟩
        rw [finished_of_complete complete']
        congr 1
        rcases complete' with nothing | known
        · unfold voted
          rw [nothing]
          simp [nothing]
        · rcases part' with rfl | ⟨signers, known', further⟩
          · rw [voted_nil]
          · cases known.symm.trans known'
            exact voted_voted started further

end Heights

end Ledger.Tables

end RollCall
