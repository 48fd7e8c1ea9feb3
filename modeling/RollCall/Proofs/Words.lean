import RollCall.Dispatch
import RollCall.Proofs.Heights

/-!
# What the events of a block say of a proposal

A block may make and settle a proposal more than once and in any order. Said again, the words of a
block change nothing, with one exception: a proposal that they settle before they make it is open the
first time, as there is nothing to settle yet, and is settled the second time.
-/

set_option autoImplicit false

namespace RollCall

namespace Event

/-!
## Words
-/

/-- What an event says of the proposal of an id. -/
inductive Word where
  | silent
  | made (proposal : Proposal)
  | settled (settlement : Settlement)

def wordOn (event : Event) (id : Number) : Word :=
  match event.typed? with
  | some ⟨.proposal, content⟩ => if .ofNat content.index = id then .made content else .silent
  | some ⟨.settlement, content⟩ =>
      if .ofNat content.proposal = id then .settled content else .silent
  | _ => .silent

/-- The id of the proposal that an event is about. -/
def proposalId? (event : Event) : Option Number :=
  match event.typed? with
  | some ⟨.proposal, content⟩ => some (.ofNat content.index)
  | some ⟨.settlement, content⟩ => some (.ofNat content.proposal)
  | _ => none

/-- The row that is stored upon a word, of a proposal that may be stored already. -/
def Word.row? (height : Height) : Word → Option Ledger.Proposal → Option Ledger.Proposal
  | .silent, _ => none
  | .made proposal, stored =>
      if stored.any (·.settledAt ≠ 0) then none else some (proposal.row height)
  | .settled settlement, stored =>
      stored.bind fun proposal =>
        if proposal.settledAt ≠ 0 ∧ !proposal.settledAt.equals height then none
        else some (settlement.row height proposal)

/-- What is stored of a proposal after a word on it. -/
def Word.after (height : Height) (stored : Option Ledger.Proposal) (word : Word) :
    Option Ledger.Proposal :=
  (word.row? height stored).or stored

/-!
## One proposal in the course of a block
-/

section Words

variable {height : Height}

/-- What is stored of a proposal after all words of a block on it. -/
def Word.afterAll (height : Height) (words : List Word) (stored : Option Ledger.Proposal) :
    Option Ledger.Proposal :=
  words.foldl (Word.after height) stored

theorem Word.afterAll_concat (words : List Word) (word : Word) (stored : Option Ledger.Proposal) :
    Word.afterAll height (words ++ [word]) stored =
      Word.after height (Word.afterAll height words stored) word :=
  List.foldl_concat ..

theorem Word.after_silent (stored : Option Ledger.Proposal) :
    Word.after height stored .silent = stored := rfl

theorem Word.after_made (proposal : Proposal) (stored : Option Ledger.Proposal) :
    Word.after height stored (.made proposal) =
      if stored.any (·.settledAt ≠ 0) then stored else some (proposal.row height) := by
  simp only [after, row?]
  split
  · rw [Option.none_or]
  · rw [Option.some_or]

theorem Word.after_settled (settlement : Settlement) (row : Ledger.Proposal) :
    Word.after height (some row) (.settled settlement) =
      if row.settledAt ≠ 0 ∧ !row.settledAt.equals height then some row
      else some (settlement.row height row) := by
  simp only [after, row?, Option.bind_some]
  split
  · rw [Option.none_or]
  · rw [Option.some_or]

theorem Word.after_elsewhere {row : Ledger.Proposal} (settled : row.settledAt ≠ 0)
    (elsewhere : row.settledAt ≠ height) (word : Word) :
    Word.after height (some row) word = some row := by
  cases word with
  | silent => rfl
  | made => simp [after_made, settled]
  | settled =>
      have other : ¬ row.settledAt.equals height := fun equal =>
        elsewhere (Number.equals_iff.mp equal).1
      simp [after_settled, settled, other]

theorem Word.afterAll_elsewhere {row : Ledger.Proposal} (settled : row.settledAt ≠ 0)
    (elsewhere : row.settledAt ≠ height) (words : List Word) :
    Word.afterAll height words (some row) = some row := by
  induction words using List.reverseRecOn with
  | nil => rfl
  | append_singleton words word ih => rw [afterAll_concat, ih, after_elsewhere settled elsewhere]

variable (begun : (0 : Height).below height)

include begun

private theorem ne_zero_of_begun : height ≠ 0 := by
  rintro rfl
  exact Number.below_irrefl _ begun

theorem Word.after_settled_here (settlement : Settlement) {row : Ledger.Proposal}
    (here : row.settledAt = height) :
    Word.after height (some row) (.settled settlement) =
      some { row with status := .ofNat settlement.state } := by
  rw [after_settled, here, if_neg fun elsewhere => by
    simp [Number.equals_self_of_below begun] at elsewhere]
  subst here
  rfl

/-- A proposal settled at a height only changes its status there. -/
theorem Word.afterAll_here {row : Ledger.Proposal} (here : row.settledAt = height)
    (words : List Word) : ∃ status, Word.afterAll height words (some row) = some { row with status } := by
  induction words using List.reverseRecOn with
  | nil => exact ⟨row.status, rfl⟩
  | append_singleton words word ih =>
      obtain ⟨status, before⟩ := ih
      rw [afterAll_concat, before]
      cases word with
      | silent => exact ⟨status, rfl⟩
      | made =>
          refine ⟨status, ?_⟩
          simp [after_made, here, ne_zero_of_begun begun]
      | settled settlement =>
          exact ⟨_, after_settled_here begun settlement here⟩

theorem Word.afterAll_open {row : Ledger.Proposal} (isOpen : row.settledAt = 0)
    (words : List Word) :
    ∃ again, Word.afterAll height words (some row) = some again ∧
      (again.createdAt = row.createdAt ∨ again.createdAt = height) ∧
      ((again.settledAt = 0 ∧ ∀ settlement, .settled settlement ∉ words) ∨
        (again.settledAt = height ∧ ∃ settlement, .settled settlement ∈ words)) := by
  induction words using List.reverseRecOn with
  | nil => exact ⟨row, rfl, .inl rfl, .inl ⟨isOpen, by simp⟩⟩
  | append_singleton words word ih =>
      obtain ⟨again, before, created, settledness⟩ := ih
      rw [afterAll_concat, before]
      cases word with
      | silent => exact ⟨again, rfl, created, by simpa using settledness⟩
      | made proposal =>
          rw [after_made]
          rcases settledness with ⟨still, none⟩ | ⟨here, some⟩
          · refine ⟨proposal.row height, by simp [still], .inr rfl, .inl ⟨rfl, by simpa using none⟩⟩
          · refine ⟨again, ?_, created, .inr ⟨here, by simpa using some⟩⟩
            simp [here, ne_zero_of_begun begun]
      | settled settlement =>
          have settles : ¬ (again.settledAt ≠ 0 ∧ !again.settledAt.equals height) := by
            rcases settledness with ⟨still, _⟩ | ⟨here, _⟩
            · simp [still]
            · simp [here, Number.equals_self_of_below begun]
          rw [after_settled, if_neg settles]
          exact ⟨_, rfl, created, .inr ⟨rfl, settlement, by simp⟩⟩

/-- Where no word settles it, a proposal settled at a height stays as it is. -/
private theorem Word.afterAll_here_unsettled {row : Ledger.Proposal} (here : row.settledAt = height)
    {words : List Word} (unsettled : ∀ settlement, .settled settlement ∉ words) :
    Word.afterAll height words (some row) = some row := by
  induction words using List.reverseRecOn with
  | nil => rfl
  | append_singleton words word ih =>
      rw [afterAll_concat, ih fun settlement member =>
        unsettled settlement (List.mem_append_left _ member)]
      cases word with
      | silent => rfl
      | made => simp [after_made, here, ne_zero_of_begun begun]
      | settled settlement => exact absurd (by simp) (unsettled settlement)

/-- Words that end in a proposal settled at their height end in it again, whatever its status was
meanwhile: the last settlement among them says it. -/
private theorem Word.afterAll_here_status {row : Ledger.Proposal} (here : row.settledAt = height)
    {words : List Word} {stored : Option Ledger.Proposal}
    (ending : Word.afterAll height words stored = some row) :
    (∀ settlement, .settled settlement ∉ words) ∨
      ∀ status, Word.afterAll height words (some { row with status }) = some row := by
  -- From the end on: the last word that settles decides, and no word behind it says a status.
  induction words using List.reverseRecOn generalizing row with
  | nil => exact .inl (by simp)
  | append_singleton words word ih =>
      rw [afterAll_concat] at ending
      cases word with
      | silent =>
          rcases ih here ending with unsettled | again
          · exact .inl (by simpa using unsettled)
          · refine .inr fun status => ?_
            rw [afterAll_concat, again]
            rfl
      | made proposal =>
          rw [after_made] at ending
          split at ending
          · rcases ih here ending with unsettled | again
            · exact .inl (by simpa using unsettled)
            · refine .inr fun status => ?_
              rw [afterAll_concat, again, after_made, if_pos]
              simp [here, ne_zero_of_begun begun]
          · cases ending
            exact absurd here.symm (ne_zero_of_begun begun)
      | settled settlement =>
          refine .inr fun status => ?_
          have still : ({ row with status } : Ledger.Proposal).settledAt = height := here
          obtain ⟨status', before⟩ := afterAll_here begun still words
          have still' : ({ row with status := status' } : Ledger.Proposal).settledAt = height := here
          rw [afterAll_concat, before]
          refine (after_settled_here begun settlement still').trans ?_
          cases stored' : Word.afterAll height words stored with
          | none =>
              rw [stored'] at ending
              cases ending
          | some old =>
              rw [stored', after_settled] at ending
              split at ending
              · next elsewhere =>
                cases ending
                simp [here, Number.equals_self_of_below begun] at elsewhere
              · cases ending
                rfl

theorem Word.afterAll_here_again {row : Ledger.Proposal} (here : row.settledAt = height)
    {words : List Word} {stored : Option Ledger.Proposal}
    (ending : Word.afterAll height words stored = some row) :
    Word.afterAll height words (some row) = some row := by
  rcases afterAll_here_status begun here ending with unsettled | again
  · exact afterAll_here_unsettled begun here unsettled
  · exact again row.status

omit begun in
/-- Where no word settles it, a proposal that is not settled is the last one made, or stays as it
is. -/
private theorem Word.afterAll_unsettled {words : List Word}
    (unsettled : ∀ settlement, .settled settlement ∉ words) :
    (∃ row : Ledger.Proposal, row.settledAt = 0 ∧ ∀ stored : Option Ledger.Proposal,
        stored.all (·.settledAt = 0) → Word.afterAll height words stored = some row) ∨
      ∀ stored : Option Ledger.Proposal,
        stored.all (·.settledAt = 0) → Word.afterAll height words stored = stored := by
  induction words using List.reverseRecOn with
  | nil => exact .inr fun _ _ => rfl
  | append_singleton words word ih =>
      have before := ih fun settlement member => unsettled settlement (List.mem_append_left _ member)
      cases word with
      | silent => simpa only [afterAll_concat, after_silent] using before
      | made proposal =>
          refine .inl ⟨proposal.row height, rfl, fun stored isOpen => ?_⟩
          rw [afterAll_concat, after_made]
          rcases before with ⟨row, still, constant⟩ | same
          · rw [constant stored isOpen, if_neg (by simp [still])]
          · rw [same stored isOpen, if_neg]
            cases stored <;> simp_all
      | settled settlement => exact absurd (by simp) (unsettled settlement)

omit begun in
private theorem Word.afterAll_unsettled_again {words : List Word}
    (unsettled : ∀ settlement, .settled settlement ∉ words) {stored : Option Ledger.Proposal}
    (isOpen : stored.all (·.settledAt = 0)) :
    Word.afterAll height words (Word.afterAll height words stored) =
      Word.afterAll height words stored := by
  rcases afterAll_unsettled unsettled with ⟨row, still, constant⟩ | same
  · rw [constant stored isOpen, constant (some row) (by simp [still])]
  · rw [same stored isOpen, same stored isOpen]

/-- The words settle a proposal before the first of them makes it, and not after. -/
def Word.SettledEarly (words : List Word) : Prop :=
  ∃ before proposal after, words = before ++ .made proposal :: after ∧
    (∃ settlement, .settled settlement ∈ before) ∧
    (∀ proposal, .made proposal ∉ before) ∧ ∀ settlement, .settled settlement ∉ after

omit begun in
theorem Word.afterAll_unmade {words : List Word}
    (unmade : ∀ proposal, .made proposal ∉ words) : Word.afterAll height words none = none := by
  induction words using List.reverseRecOn with
  | nil => rfl
  | append_singleton words word ih =>
      rw [afterAll_concat, ih fun proposal member => unmade proposal (List.mem_append_left _ member)]
      cases word with
      | silent => rfl
      | made proposal => exact absurd (by simp) (unmade proposal)
      | settled => rfl

omit begun in
private theorem Word.first_made (words : List Word) :
    (∀ proposal, .made proposal ∉ words) ∨ ∃ before proposal after,
      words = before ++ .made proposal :: after ∧ ∀ proposal, .made proposal ∉ before := by
  induction words with
  | nil => exact .inl (by simp)
  | cons word rest ih =>
      cases word with
      | made proposal => exact .inr ⟨[], proposal, rest, rfl, by simp⟩
      | silent =>
          rcases ih with unmade | ⟨before, proposal, after, rfl, first⟩
          · exact .inl (by simpa using unmade)
          · exact .inr ⟨.silent :: before, proposal, after, rfl, by simpa using first⟩
      | settled settlement =>
          rcases ih with unmade | ⟨before, proposal, after, rfl, first⟩
          · exact .inl (by simpa using unmade)
          · exact .inr ⟨.settled settlement :: before, proposal, after, rfl, by simpa using first⟩

omit begun in
private theorem Word.afterAll_from_made {before after : List Word} {proposal : Proposal}
    (first : ∀ proposal, .made proposal ∉ before) :
    Word.afterAll height (before ++ .made proposal :: after) none =
      Word.afterAll height after (some (proposal.row height)) := by
  have start : Word.afterAll height before none = none := afterAll_unmade first
  unfold afterAll at start ⊢
  rw [List.foldl_append, start, List.foldl_cons]
  rfl

/-- A proposal that is settled before it is made in a block, and not after, is open the first time
that the block is done and settled the second time. -/
theorem Word.afterAll_of_settledEarly {words : List Word} (early : Word.SettledEarly words) :
    ∃ row again, Word.afterAll height words none = some row ∧ row.settledAt = 0 ∧
      row.createdAt = height ∧ Word.afterAll height words (some row) = some again ∧
      again.settledAt = height ∧ again.createdAt = height := by
  obtain ⟨before, proposal, after, rfl, ⟨settlement, settles⟩, first, unsettled⟩ := early
  rw [afterAll_from_made first]
  have fresh : (proposal.row height).settledAt = 0 := rfl
  obtain ⟨row, once, created, settledness⟩ := afterAll_open begun fresh after
  have isOpen : row.settledAt = 0 := by
    rcases settledness with ⟨isOpen, _⟩ | ⟨_, settlement, later⟩
    · exact isOpen
    · exact absurd later (unsettled settlement)
  have createdHere : row.createdAt = height := by
    rcases created with same | here
    · exact same
    · exact here
  obtain ⟨again, twice, created', settledness'⟩ :=
    afterAll_open begun isOpen (before ++ .made proposal :: after)
  refine ⟨row, again, once, isOpen, createdHere, twice, ?_, ?_⟩
  · rcases settledness' with ⟨_, none⟩ | ⟨here, _⟩
    · exact absurd (List.mem_append_left _ settles) (none settlement)
    · exact here
  · rcases created' with same | here
    · exact same.trans createdHere
    · exact here

/-- Doing the words of a block again changes nothing, unless they settle a proposal that was not
stored before they make it. -/
theorem Word.afterAll_again (words : List Word) (stored : Option Ledger.Proposal) :
    Word.afterAll height words (Word.afterAll height words stored) =
        Word.afterAll height words stored ∨
      stored = none ∧ Word.SettledEarly words := by
  cases stored with
  | some row =>
      refine .inl ?_
      by_cases isOpen : row.settledAt = 0
      · obtain ⟨again, once, _, ⟨_, unsettled⟩ | ⟨here, _⟩⟩ := afterAll_open begun isOpen words
        · exact afterAll_unsettled_again unsettled (by simp [isOpen])
        · rw [once, afterAll_here_again begun here once]
      · by_cases here : row.settledAt = height
        · obtain ⟨status, once⟩ := afterAll_here begun here words
          have still : ({ row with status := status } : Ledger.Proposal).settledAt = height := here
          rw [once]
          exact afterAll_here_again begun still once
        · rw [afterAll_elsewhere isOpen here, afterAll_elsewhere isOpen here]
  | none =>
      rcases first_made words with unmade | ⟨before, proposal, after, rfl, first⟩
      · exact .inl (by rw [afterAll_unmade unmade, afterAll_unmade unmade])
      · have fresh : (proposal.row height).settledAt = 0 := rfl
        obtain ⟨row, once, _, ⟨_, unsettled⟩ | ⟨here, _⟩⟩ := afterAll_open begun fresh after
        · by_cases settles : ∃ settlement, .settled settlement ∈ before
          · exact .inr ⟨rfl, before, proposal, after, rfl, settles, first, unsettled⟩
          · refine .inl (afterAll_unsettled_again ?_ rfl)
            intro settlement member
            rcases List.mem_append.mp member with earlier | later
            · exact settles ⟨settlement, earlier⟩
            · exact unsettled settlement (by simpa using later)
        · rw [← afterAll_from_made first] at once
          exact .inl (by rw [once, afterAll_here_again begun here once])

/-!
### Proposals that are made anew
-/

/-- What is stored of a proposal is the same, or both times made at a height. -/
def Word.Remade (height : Height) (first again : Option Ledger.Proposal) : Prop :=
  first = again ∨ ∃ row other, first = some row ∧ again = some other ∧ row.createdAt = height ∧
    other.createdAt = height

omit begun in
theorem Word.Remade.none_iff {first again : Option Ledger.Proposal}
    (remade : Word.Remade height first again) : first = none ↔ again = none := by
  obtain rfl | ⟨row, other, rfl, rfl, _⟩ := remade
  · rfl
  · exact iff_of_false (Option.some_ne_none _) (Option.some_ne_none _)

theorem Word.afterAll_remade (words : List Word) (stored : Option Ledger.Proposal) :
    Word.Remade height (Word.afterAll height words stored)
      (Word.afterAll height words (Word.afterAll height words stored)) := by
  rcases afterAll_again begun words stored with same | ⟨rfl, early⟩
  · exact .inl same.symm
  · obtain ⟨row, again, once, _, made, twice, _, made'⟩ := afterAll_of_settledEarly begun early
    rw [once, twice]
    exact .inr ⟨row, again, rfl, rfl, made, made'⟩

end Words

/-!
## What a word is about
-/

theorem wordOn_of_ne {event : Event} {id other : Number} (about : event.proposalId? = some id)
    (different : id ≠ other) : event.wordOn other = .silent := by
  unfold proposalId? at about
  unfold wordOn
  split at about
  · cases about
    simp_all
  · cases about
    simp_all
  · cases about

theorem wordOn_of_none {event : Event} (about : event.proposalId? = none) (id : Number) :
    event.wordOn id = .silent := by
  unfold proposalId? at about
  unfold wordOn
  split at about
  · cases about
  · cases about
  · rfl

theorem id_of_row? {event : Event} {height : Height} {id : Number}
    {stored : Option Ledger.Proposal} (of_id : ∀ row ∈ stored, row.id = id) {row : Ledger.Proposal}
    (new : (event.wordOn id).row? height stored = some row) : row.id = id := by
  unfold wordOn at new
  split at new
  · split at new
    · next same =>
      simp only [Word.row?] at new
      split at new
      · cases new
      · cases new
        exact same
    · cases new
  · split at new
    · obtain ⟨old, found, kept⟩ := Option.bind_eq_some_iff.mp new
      split at kept
      · cases kept
      · cases kept
        exact of_id old found
    · cases new
  · cases new

end Event

end RollCall
