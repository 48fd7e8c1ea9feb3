import RollCall.Proofs.Tallying

/-!
# Work that is broken off and done again

Bringing the votes of a height up to date stores nothing before all signers are known, and then one
vote after the other. So whatever it fails for, it leaves the first of the votes that are missing,
and doing it again adds the others. The events of a block that are dispatched in part and then all
of them leave what dispatching them once does, if the block settles no proposal before it makes it.
-/

set_option autoImplicit false

namespace RollCall

open Call

namespace World

variable {others : Collaborators} {target : Target} {height : Height} {world final : World others}
  {trace : Trace} {fault : Fault} {left : World others}

/-!
## Where votes are broken off
-/

/-- The ledger refuses to say whether there is a vote of a signer, or to store one. -/
inductive VoteRefused (target : Target) (height : Height) (signer : Signer) (world : World others)
    (fault : Fault) : Trace → World others → Prop where
  | lookup {trace : Trace} {final : World others}
      (failed : (hasVote target height signer).Ends world (.error fault) trace final) :
      VoteRefused target height signer world fault trace final
  | insertion {asking storing : Trace} {asked final : World others}
      (new : (hasVote target height signer).Ends world (.ok false) asking asked)
      (failed : (storeVote target height signer).Ends asked (.error fault) storing final) :
      VoteRefused target height signer world fault (asking ++ storing) final

theorem storeVotes_fails {signers : List Signer}
    (ending : (storeVotes target height signers).Ends world (.error fault) trace final) :
    ∃ first signer later count voting voted last, signers = first ++ signer :: later ∧
      (storeVotes target height first).Ends world (.ok count) voting voted ∧
      VoteRefused target height signer voted fault last final ∧ trace = voting ++ last := by
  have none_before : ∀ world : World others,
      (storeVotes target height []).Ends world (.ok 0) [] world :=
    fun world => ends_pure.mpr ⟨rfl, rfl, rfl⟩
  -- what comes before the first signer that is refused is put together again as a run of its own
  induction signers generalizing world trace with
  | nil => cases (ends_pure.mp ending).1
  | cons signer rest ih =>
      obtain ⟨_, same, failed⟩ | ⟨has, middle, asking, _, asked, more, rfl⟩ := ends_bind.mp ending
      · cases same
        exact ⟨[], signer, rest, 0, [], world, trace, rfl, none_before world, .lookup failed, rfl⟩
      split at more
      · next has =>
        obtain ⟨first, other, later, count, voting, voted, last, rfl, done, refused, rfl⟩ := ih more
        refine ⟨signer :: first, other, later, count, asking ++ voting, voted, last, rfl, ?_,
          refused, (List.append_assoc ..).symm⟩
        refine ends_bind_ok.mpr ⟨_, _, _, _, asked, ?_, rfl⟩
        rwa [if_pos has]
      · next new =>
        obtain rfl := Bool.eq_false_of_not_eq_true new
        obtain ⟨_, same, failed⟩ | ⟨_, stored, storing, _, stores, others, rfl⟩ := ends_bind.mp more
        · cases same
          exact ⟨[], signer, rest, 0, [], world, _, rfl, none_before world, .insertion asked failed,
            rfl⟩
        obtain ⟨_, same, failed⟩ | ⟨_, _, _, _, _, returned, _⟩ := ends_bind.mp others
        swap
        · cases (ends_pure.mp returned).1
        cases same
        obtain ⟨first, other, later, count, voting, voted, last, rfl, done, refused, rfl⟩ :=
          ih failed
        refine ⟨signer :: first, other, later, count + 1, asking ++ (storing ++ voting), voted,
          last, rfl, ?_, refused, by simp⟩
        refine ends_bind_ok.mpr ⟨_, _, _, _, asked, ?_, rfl⟩
        rw [if_neg new]
        refine ends_bind_ok.mpr ⟨_, _, _, _, stores, ?_, rfl⟩
        exact ends_bind_ok.mpr ⟨_, _, _, _, done, ends_pure.mpr ⟨rfl, rfl, rfl⟩, by simp⟩

theorem signers_fails {signatures : List Chain.Signature}
    (ending : (signers signatures).Ends world (.error fault) trace final) :
    ∃ earlier signature later found resolving resolved last,
      signatures = earlier ++ signature :: later ∧
      (signers earlier).Ends world (.ok found) resolving resolved ∧
      (resolve signature.address).Ends resolved (.error fault) last final ∧
      trace = resolving ++ last := by
  induction signatures generalizing world trace with
  | nil => cases (ends_pure.mp ending).1
  | cons signature rest ih =>
      obtain ⟨_, same, failed⟩ | ⟨account, middle, first, _, known, more, rfl⟩ :=
        ends_bind.mp ending
      · cases same
        exact ⟨[], signature, rest, [], [], world, trace, rfl, ends_pure.mpr ⟨rfl, rfl, rfl⟩,
          failed, rfl⟩
      obtain ⟨_, same, failed⟩ | ⟨_, _, _, _, _, returned, _⟩ := ends_bind.mp more
      swap
      · cases (ends_pure.mp returned).1
      cases same
      obtain ⟨earlier, other, later, found, resolving, resolved, last, rfl, done, unknown, rfl⟩ :=
        ih failed
      refine ⟨signature :: earlier, other, later, { account, flag := signature.flag } :: found,
        first ++ resolving, resolved, last, rfl, ?_, unknown, (List.append_assoc ..).symm⟩
      refine ends_bind_ok.mpr ⟨_, _, _, _, known, ?_, rfl⟩
      exact ends_bind_ok.mpr ⟨_, _, _, _, done, ends_pure.mpr ⟨rfl, rfl, rfl⟩, by simp⟩

/-!
## What is left then
-/

/-- The votes of a height are about a target, and the commit is fetched. -/
inductive Fetched (height : Height) (world : World others) (target : Target)
    (commit : Chain.Commit) : Trace → World others → Prop where
  | mk {looking asking : Trace} {looked fetched : World others}
      (looks : (target? height).Ends world (.ok (some target)) looking looked)
      (asks : (ask (.commit height)).Ends looked (.ok commit) asking fetched) :
      Fetched height world target commit (looking ++ asking) fetched

/-- All signers are known, and the votes of the first of them are done with. -/
inductive Voting (tables : others.Store → Ledger.Tables) (height : Height) (world : World others)
    (target : Target) (first rest : List Signer) : Trace → World others → Prop where
  | mk {commit : Chain.Commit} {count : Nat} {before resolving voting : Trace}
      {fetched resolved voted : World others}
      (fetches : Fetched height world target commit before fetched)
      (resolves : (signers (commit.signatures.filter (·.address ≠ ""))).Ends fetched
        (.ok (first ++ rest)) resolving resolved)
      (votes : (storeVotes target height first).Ends resolved (.ok count) voting voted)
      (found : (tables world.store).target? height = some target) :
      Voting tables height world target first rest (before ++ (resolving ++ voting)) voted

/-- How bringing the votes of a height up to date fails, and what is left of it in the tables:
nothing before all signers are known, then the votes that were missing of the signers before. -/
inductive Failure (tables : others.Store → Ledger.Tables) (height : Height) (world : World others)
    (fault : Fault) : Trace → World others → Prop where
  /-- The ledger does not say what the votes are about. -/
  | unlooked {trace : Trace} {final : World others}
      (failed : (target? height).Ends world (.error fault) trace final)
      (untouched : tables final.store = tables world.store) :
      Failure tables height world fault trace final
  /-- The commit is not fetched. -/
  | unfetched {target : Target} {looking asking : Trace} {looked final : World others}
      (looks : (target? height).Ends world (.ok (some target)) looking looked)
      (failed : (ask (.commit height)).Ends looked (.error fault) asking final)
      (untouched : tables final.store = tables world.store) :
      Failure tables height world fault (looking ++ asking) final
  /-- One of the signers is not found, be it the first, the last or one between. -/
  | unresolved {target : Target} {commit : Chain.Commit} {earlier later : List Chain.Signature}
      {signature : Chain.Signature} {known : List Signer} {before resolving last : Trace}
      {fetched resolved final : World others}
      (fetches : Fetched height world target commit before fetched)
      (signatures : commit.signatures.filter (·.address ≠ "") = earlier ++ signature :: later)
      (resolves : (signers earlier).Ends fetched (.ok known) resolving resolved)
      (failed : (resolve signature.address).Ends resolved (.error fault) last final)
      (untouched : tables final.store = tables world.store) :
      Failure tables height world fault (before ++ (resolving ++ last)) final
  /-- The ledger does not say whether there is a vote of a signer. -/
  | unanswered {target : Target} {first later : List Signer} {signer : Signer}
      {before last : Trace} {voted final : World others}
      (voting : Voting tables height world target first (signer :: later) before voted)
      (failed : (hasVote target height signer).Ends voted (.error fault) last final)
      (stored : tables final.store = (tables world.store).withVotesOf target height
        ((tables world.store).missing target height first)) :
      Failure tables height world fault (before ++ last) final
  /-- A vote is not stored. -/
  | unstored {target : Target} {first later more : List Signer} {signer : Signer}
      {before asking storing : Trace} {voted asked final : World others}
      (voting : Voting tables height world target first (signer :: later) before voted)
      (new : (hasVote target height signer).Ends voted (.ok false) asking asked)
      (failed : (storeVote target height signer).Ends asked (.error fault) storing final)
      (next : (tables world.store).missing target height (first ++ signer :: later) =
        (tables world.store).missing target height first ++ signer :: more)
      (stored : tables final.store = (tables world.store).withVotesOf target height
        ((tables world.store).missing target height first)) :
      Failure tables height world fault (before ++ (asking ++ storing)) final

section Failing

variable (discreet : others.Discreet) {tables : others.Store → Ledger.Tables}
  (kept : others.books.KeptIn tables) {content : Chain.Content} {withBlockEvents : Bool}

include discreet kept

omit kept in
theorem Voting.signed {first rest : List Signer} {voted : World others}
    (voting : Voting tables height world target first rest trace voted)
    (told : ∀ note ∈ trace, note.TellsOf content withBlockEvents) :
    List.Forall₂ content.Signs (content.signatures height) (first ++ rest) := by
  obtain ⟨⟨looks, asks⟩, resolves, -, -⟩ := voting
  have known := signers_ends discreet resolves fun note member => told note (by simp [member])
  obtain ⟨_, asking, _, ⟨commit, same, rfl⟩ | ⟨⟨_, impossible⟩, _⟩⟩ := ask_ends discreet asks
  · have signatures := told (.answered (.commit height) commit) (by simp)
    rw [← Except.ok.inj same] at signatures
    exact Chain.Content.signs_of_signersOf? (signatures ▸ known)
  · cases impossible

theorem storeVote_fails {signer : Signer}
    (ending : (storeVote target height signer).Ends world (.error fault) trace final) :
    tables final.store = tables world.store := by
  obtain ⟨impossible, _⟩ | ⟨_, same⟩ := storeVote_ends discreet kept ending
  · cases impossible
  · exact same

/-- Before the first vote nothing is stored, and then the votes that are missing. -/
theorem Voting.votes {first rest : List Signer} {voted : World others}
    (voting : Voting tables height world target first rest trace voted) :
    tables voted.store = (tables world.store).withVotesOf target height
      ((tables world.store).missing target height first) := by
  obtain ⟨⟨looks, asks⟩, resolves, votes, found⟩ := voting
  have counted := Ledger.Tables.counted_of_target? found
  rw [(storeVotes_succeeds discreet kept counted votes).2, signers_keeps
    ((steps_sameStore discreet).parts fun _ => trivial) (fun _ _ => trivial) _ resolves,
    (ask_ends discreet asks).1, target_leaves discreet kept looks]

theorem Voting.fails {first later : List Signer} {signer : Signer} {voting last : Trace}
    {voted : World others}
    (underway : Voting tables height world target first (signer :: later) voting voted)
    (refused : VoteRefused target height signer voted fault last final) :
    Failure tables height world fault (voting ++ last) final := by
  have votes := underway.votes discreet kept
  cases refused with
  | lookup failed =>
      exact .unanswered underway failed ((hasVote_ends discreet kept failed).1.trans votes)
  | insertion new failed =>
      obtain ⟨same, answered⟩ := hasVote_ends discreet kept new
      have missing := answered false rfl
      rw [votes] at missing
      have counted : height ≠ .nan := by
        obtain ⟨_, _, _, found⟩ := underway
        exact Ledger.Tables.counted_of_target? found
      have next : (tables world.store).missing target height (first ++ signer :: later) = _ :=
        (tables world.store).missing_append counted first (signer :: later)
      rw [Ledger.Tables.missing_cons_of_not_hasVote counted (by simp [← missing])] at next
      exact .unstored underway new failed next
        ((storeVote_fails discreet kept failed).trans (same.trans votes))

/-- Bringing the votes of a height up to date fails in no other way. -/
theorem reconcile_fails (ending : (reconcile height).Ends world (.error fault) trace final) :
    Failure tables height world fault trace final := by
  -- The calls follow one another, so all before the one that fails have succeeded.
  obtain ⟨_, same, failed⟩ | ⟨found, looked, looking, _, looks, more, rfl⟩ := ends_bind.mp ending
  · cases same
    exact .unlooked failed (target_leaves discreet kept failed)
  have untouched := target_leaves discreet kept looks
  have decided := target_reads discreet kept looks
  cases found with
  | none =>
      obtain ⟨_, returned, _⟩ := ends_note_bind.mp (ends_pure_bind.mp more)
      cases (ends_pure.mp returned).1
  | some target =>
      obtain ⟨_, same, failed⟩ | ⟨_, _, _, _, _, ended, _⟩ := ends_bind.mp more
      swap
      · obtain ⟨_, returned, _⟩ := ends_note_bind.mp ended
        cases (ends_pure.mp returned).1
      cases same
      obtain ⟨_, same, unfetched⟩ | ⟨commit, fetched, asking, _, asks, rest, rfl⟩ :=
        ends_bind.mp failed
      · cases same
        exact .unfetched looks unfetched
          ((congrArg tables (ask_ends discreet unfetched).1).trans untouched)
      have fetches : Fetched height world target commit (looking ++ asking) fetched :=
        .mk looks asks
      have parts := (steps_sameStore discreet).parts fun _ => trivial
      rw [← List.append_assoc]
      obtain ⟨_, same, unresolved⟩ | ⟨found, resolved, resolving, _, resolves, casting, rfl⟩ :=
        ends_bind.mp rest
      · cases same
        have same := signers_keeps parts (fun _ _ => trivial) _ unresolved
        obtain ⟨earlier, signature, later, known, resolving, resolved, last, signatures, resolves,
          unknown, rfl⟩ := signers_fails unresolved
        refine .unresolved fetches signatures resolves unknown ?_
        rw [same, (ask_ends discreet asks).1, untouched]
      obtain ⟨_, same, broken⟩ | ⟨_, _, _, _, _, logging, _⟩ := ends_bind.mp casting
      swap
      · obtain ⟨_, returned, _⟩ := ends_log_bind.mp logging
        cases (ends_pure.mp returned).1
      cases same
      obtain ⟨first, signer, later, count, voting, voted, last, rfl, votes, refused, rfl⟩ :=
        storeVotes_fails broken
      have underway : Voting tables height world target first (signer :: later) _ voted :=
        .mk fetches resolves votes decided.symm
      simpa only [List.append_assoc] using underway.fails discreet kept refused

omit kept in
theorem Failure.partlyVoted (failure : Failure tables height world fault trace final)
    (told : ∀ note ∈ trace, note.TellsOf content withBlockEvents) :
    PartlyVoted content height (tables world.store) (tables final.store) := by
  cases failure with
  | unlooked _ untouched => exact untouched ▸ .unvoted
  | unfetched _ _ untouched => exact untouched ▸ .unvoted
  | unresolved _ _ _ _ untouched => exact untouched ▸ .unvoted
  | unanswered voting _ stored =>
      have signed := voting.signed discreet fun note member => told note (by simp [member])
      obtain ⟨_, _, _, found⟩ := voting
      rw [stored]
      exact .voted found signed
        (Ledger.Tables.missing_append _ (Ledger.Tables.counted_of_target? found) _ _)
  | unstored voting _ _ next stored =>
      have signed := voting.signed discreet fun note member => told note (by simp [member])
      obtain ⟨_, _, _, found⟩ := voting
      rw [stored]
      exact .voted found signed next

/-- Where bringing the votes of a height up to date fails, nothing or the first of the missing votes
are stored. If all signers can be found once nothing fails any more, doing it again leaves what doing
it once would have left, and inserts what was still missing of that. -/
theorem reconcile_resumes (failed : (reconcile height).Ends world (.error fault) trace left) :
    Failure tables height world fault trace left ∧
      ∀ ⦃content : Chain.Content⦄ ⦃withBlockEvents : Bool⦄ ⦃P : World others → Prop⦄,
        (∀ note ∈ trace, note.TellsOf content withBlockEvents) → Serving content P →
        (∀ signature ∈ content.signatures height, content.account? signature.address ≠ none) →
        ∀ ⦃fresh final resumed final' : World others⦄ ⦃result result' trace' trace''⦄,
          P fresh → tables fresh.store = tables world.store →
          (reconcile height).Ends fresh result trace' final →
          P resumed → tables resumed.store = tables left.store →
          (reconcile height).Ends resumed result' trace'' final' →
          ∃ once again, result = .ok once ∧ result' = .ok again ∧ again.target = once.target ∧
            tables final'.store = tables final.store ∧
            (tables left.store).voteCount + again.inserted = (tables final.store).voteCount := by
  have failure := reconcile_fails discreet kept failed
  refine ⟨failure, ?_⟩
  intro content withBlockEvents P told serving resolving fresh final resumed final' result result'
    trace' trace'' ready same whole ready' same' rest
  obtain ⟨once, rfl, _, tally⟩ := reconcile_tallies discreet kept serving ready resolving whole
  obtain ⟨again, rfl, _, tally'⟩ := reconcile_tallies discreet kept serving ready' resolving rest
  rw [same] at tally
  rw [same'] at tally'
  obtain ⟨stored, target, _, count⟩ := tally.resume (failure.partlyVoted discreet told) tally'
  exact ⟨once, again, rfl, rfl, target, stored, count⟩

end Failing

/-- The tables of a proposal that the signers of a chain vote on. -/
def proposedTables : Ledger.Tables where
  proposals := [⟨.ofNat 7, .ofNat 3, "AA03", [], .ofNat 1, 0, .ofNat 1⟩]

/-- A world in which the first vote is refused. -/
def brokenWorld : World Collaborators.inMemory :=
  World.inMemory signedChain proposedTables [("insertProposalVote", [.other "disk full"])]

private theorem brokenWorld_computed :
    ¬ (reconcile (.ofNat 1) brokenWorld).result.isOk ∧
      (reconcile (.ofNat 1) brokenWorld).state.store.ledger.voteCount = 0 ∧
      (reconcile (.ofNat 1)
        (World.inMemory signedChain proposedTables)).state.store.ledger.voteCount = 2 := by
  decide +kernel

theorem reconcile_resumes_in_brokenWorld :
    ∃ fault trace left once trace' final again trace'' final',
      (reconcile (.ofNat 1)).Ends brokenWorld (.error fault) trace left ∧
      (reconcile (.ofNat 1)).Ends (World.inMemory signedChain proposedTables) (.ok once) trace'
        final ∧
      (reconcile (.ofNat 1)).Ends (World.inMemory signedChain left.store.ledger) (.ok again) trace''
        final' ∧
      left.store.ledger.voteCount = 0 ∧ again.inserted = 2 ∧
      final'.store.ledger = final.store.ledger := by
  obtain ⟨fails, none_left, both⟩ := brokenWorld_computed
  obtain ⟨fault, failed⟩ := ends_of_not_isOk fails
  have tells : Keeps Telling (reconcile (.ofNat 1)) :=
    reconcile_keeps (steps_telling.parts (by simp)) (fun _ _ => trivial) (fun _ _ => trivial)
      (fun _ _ => trivial) (steps_telling.note _ (by simp))
  obtain ⟨_, resume⟩ := reconcile_resumes Collaborators.discreet_inMemory
    Collaborators.keptIn_inMemory failed
  have told : ∀ note ∈ (reconcile (.ofNat 1) brokenWorld).trace,
      note.TellsOf signedChain.answer true :=
    fun note member => Note.tellsOf_of_isSaid ((tells failed).2 note member) true
  generalize (reconcile (.ofNat 1) brokenWorld).state = left at *
  have whole := Call.ends (reconcile (.ofNat 1)) (World.inMemory signedChain proposedTables)
  have rest := Call.ends (reconcile (.ofNat 1)) (World.inMemory signedChain left.store.ledger)
  obtain ⟨once, again, succeeds, succeeds', _, same, count⟩ :=
    resume told (serving_ready signedChain.answer) signedChain_resolving
      (Loop.ready_inMemory signedChain _) rfl whole (Loop.ready_inMemory signedChain _) rfl rest
  rw [succeeds] at whole
  rw [succeeds'] at rest
  refine ⟨fault, _, left, once, _, _, again, _, _, failed, whole, rest, none_left, ?_, same⟩
  rw [none_left, both] at count
  simpa using count

end World

/-!
## Blocks that are dispatched in part
-/

namespace Ledger.Tables

variable {tables : Tables} {height : Height}

theorem absorbAll_append (first second : List Event) (ordinal : Nat) :
    tables.absorbAll height (first ++ second) ordinal =
      (tables.absorbAll height first ordinal).absorbAll height second (ordinal + first.length) := by
  induction first generalizing tables ordinal with
  | nil => rfl
  | cons event rest ih =>
      rw [List.cons_append, absorbAll, ih, absorbAll, List.length_cons, Nat.add_assoc,
        Nat.add_comm 1]

/-- A block that is absorbed in part and then as a whole is absorbed once. -/
theorem absorbAll_redone (begun : (0 : Height).below height) (keyed : tables.Keyed)
    {events : List Event} (known : tables.SettlesKnown events) (count ordinal : Nat) :
    (tables.absorbAll height (events.take count) ordinal).absorbAll height events ordinal =
      tables.absorbAll height events ordinal := by
  have late := (known.take count).settlesLate
  calc (tables.absorbAll height (events.take count) ordinal).absorbAll height events ordinal
    _ = ((tables.absorbAll height (events.take count) ordinal).absorbAll height
          (events.take count) ordinal).absorbAll height (events.drop count)
            (ordinal + (events.take count).length) := by
        rw [← absorbAll_append, List.take_append_drop]
    _ = (tables.absorbAll height (events.take count) ordinal).absorbAll height
          (events.drop count) (ordinal + (events.take count).length) := by
        rw [absorbAll_again begun keyed late]
    _ = tables.absorbAll height events ordinal := by
        rw [← absorbAll_append, List.take_append_drop]

end Ledger.Tables

namespace Loop

variable {others : Collaborators} (discreet : others.Discreet)
  {tables : others.Store → Ledger.Tables} (kept : others.books.KeptIn tables) {height : Height}

include discreet kept

/-- If the first events of a block are dispatched and then all of them, the tables are in the end
what dispatching all of them once makes of them. Where each settlement is of a proposal that is
stored or that an earlier event makes, this holds whatever the events are and whatever is stored. -/
theorem dispatchAll_redone {events : List Event} {count : Nat}
    {world middle again final fresh final' : World others}
    {result result' result'' : Except Fault Nat} {trace trace' trace'' : Trace}
    (begun : (0 : Height).below height) (keyed : (tables world.store).Keyed)
    (known : (tables world.store).SettlesKnown events)
    (part : (dispatchAll height (events.take count) 0).Ends world result trace middle)
    (restarted : tables again.store = tables middle.store)
    (whole : (dispatchAll height events 0).Ends again result' trace' final)
    (same : tables fresh.store = tables world.store)
    (once : (dispatchAll height events 0).Ends fresh result'' trace'' final')
    (firm : ∀ note ∈ trace ++ (trace' ++ trace''), note.IsFirm) :
    (∃ handled, result = .ok handled) ∧ (∃ handled, result' = .ok handled) ∧
      (∃ handled, result'' = .ok handled) ∧ tables final.store = tables final'.store := by
  simp only [List.forall_mem_append] at firm
  obtain ⟨firmPart, firmWhole, firmOnce⟩ := firm
  refine ⟨World.dispatchAll_succeeds part firmPart, World.dispatchAll_succeeds whole firmWhole,
    World.dispatchAll_succeeds once firmOnce, ?_⟩
  have absorbed := (World.dispatchAll_ends discreet kept part firmPart).1
  have redone := (World.dispatchAll_ends discreet kept whole firmWhole).1
  have done := (World.dispatchAll_ends discreet kept once firmOnce).1
  rw [redone, restarted, absorbed, done, same]
  exact Ledger.Tables.absorbAll_redone begun keyed known count 0

omit discreet kept

/-- A proposal that is made, settled and made again in one block. -/
def repeatingEvents : List Event := [.making "7", .settling "7", .making "7"]

private theorem repeatingEvents_known : ({} : Ledger.Tables).SettlesKnown repeatingEvents := by
  obtain ⟨proposal, made, index⟩ : ∃ proposal, (Event.making "7").typed? =
      some ⟨.proposal, proposal⟩ ∧ proposal.index = 7 := ⟨_, rfl, rfl⟩
  obtain ⟨settlement, settles, about⟩ : ∃ settlement, (Event.settling "7").typed? =
      some ⟨.settlement, settlement⟩ ∧ settlement.proposal = 7 := ⟨_, rfl, rfl⟩
  intro earlier event later other split typed
  match earlier, split with
  | [], split =>
      cases split
      cases made.symm.trans typed
  | [_], split =>
      cases split
      cases settles.symm.trans typed
      exact .inr ⟨_, List.mem_singleton_self _, proposal, made, index.trans about.symm⟩
  | [_, _], split =>
      cases split
      cases made.symm.trans typed
  | _ :: _ :: _ :: _, split =>
      simp [repeatingEvents] at split

private def partly : Completion (World Collaborators.inMemory) Nat :=
  dispatchAll (.ofNat 1) (repeatingEvents.take 2) 0 (World.inMemory {} {})

private def wholly : Completion (World Collaborators.inMemory) Nat :=
  dispatchAll (.ofNat 1) repeatingEvents 0 partly.state

private def atOnce : Completion (World Collaborators.inMemory) Nat :=
  dispatchAll (.ofNat 1) repeatingEvents 0 (World.inMemory {} {})

private theorem repeatingEvents_computed :
    (∀ note ∈ partly.trace ++ (wholly.trace ++ atOnce.trace), note.IsFirm) ∧
      wholly.state.store.ledger.proposals.map (·.settledAt) = [.ofNat 1] := by
  decide +kernel

theorem dispatchAll_redone_in_repeatingEvents :
    ∃ result trace middle result' trace' final result'' trace'' final',
      (dispatchAll (.ofNat 1) (repeatingEvents.take 2) 0).Ends (World.inMemory {} {}) result trace
        middle ∧
      (dispatchAll (.ofNat 1) repeatingEvents 0).Ends middle result' trace' final ∧
      (dispatchAll (.ofNat 1) repeatingEvents 0).Ends (World.inMemory {} {}) result'' trace''
        final' ∧
      final.store.ledger = final'.store.ledger ∧
      final.store.ledger.proposals.map (·.settledAt) = [.ofNat 1] := by
  obtain ⟨firm, settled⟩ := repeatingEvents_computed
  have part : (dispatchAll (.ofNat 1) (repeatingEvents.take 2) 0).Ends (World.inMemory {} {})
      partly.result partly.trace partly.state := Call.ends _ _
  have whole : (dispatchAll (.ofNat 1) repeatingEvents 0).Ends partly.state wholly.result
      wholly.trace wholly.state := Call.ends _ _
  have once : (dispatchAll (.ofNat 1) repeatingEvents 0).Ends (World.inMemory {} {}) atOnce.result
      atOnce.trace atOnce.state := Call.ends _ _
  obtain ⟨_, _, _, same⟩ := dispatchAll_redone Collaborators.discreet_inMemory
    Collaborators.keptIn_inMemory (by decide) Ledger.Tables.keyed_empty repeatingEvents_known part
    rfl whole rfl once firm
  exact ⟨_, _, _, _, _, _, _, _, _, part, whole, once, same, settled⟩

end Loop

end RollCall
