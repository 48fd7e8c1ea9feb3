import RollCall.Proofs.Replaying
import RollCall.Proofs.Serving
import RollCall.Proofs.Voting

/-!
# Failures leave nothing behind

However many rounds and restarts a run takes, and whatever fails meanwhile, once it has caught up with
a head the ledger is that of one round without failures up to this head. This needs every settlement
to find its proposal in that one round.
-/

set_option autoImplicit false

namespace RollCall

open Call

/-!
## Heights one after the other
-/

namespace Ledger.Tables

variable (content : Chain.Content) (options : FollowOptions)

/-- The tables after some heights from the first one on, each done at once. -/
def finishedFrom (first : Height) (tables : Tables) : Nat → Tables
  | 0 => tables
  | count + 1 => (tables.finishedFrom first count).finished content options ((· + 1)^[count] first)

/-- Some heights from the first one on lie below a head and can be done one after the other. -/
def Passable (head first : Height) (tables : Tables) (count : Nat) : Prop :=
  ∀ earlier < count, ((· + 1)^[earlier] first).below head ∧
    (tables.finishedFrom content options first earlier).CanFinish content options
      ((· + 1)^[earlier] first)

variable {content options} {head first : Height} {count : Nat} {tables : Tables}

theorem Passable.next (passable : tables.Passable content options head first count)
    (below : ((· + 1)^[count] first).below head)
    (can : (tables.finishedFrom content options first count).CanFinish content options
      ((· + 1)^[count] first)) : tables.Passable content options head first (count + 1) := by
  intro earlier less
  rcases Nat.lt_or_eq_of_le (Nat.le_of_lt_succ less) with before | rfl
  · exact passable earlier before
  · exact ⟨below, can⟩

theorem Keyed.voted (keyed : tables.Keyed) (height : Height) (done : List Signer) :
    (tables.voted height done).Keyed := by
  unfold Tables.voted
  cases tables.target? height with
  | none => exact keyed
  | some target => exact keyed.castAll done

theorem Keyed.finishedFrom (keyed : tables.Keyed) (first : Height) (count : Nat) :
    (tables.finishedFrom content options first count).Keyed := by
  induction count with
  | zero => exact keyed
  | succ count ih =>
      have absorbed : ((tables.finishedFrom content options first count).absorbed content options
          ((· + 1)^[count] first)).Keyed := ih.absorbAll _ _ _
      have voted := absorbed.voted ((· + 1)^[count] first)
        ((content.signers? ((· + 1)^[count] first)).getD [])
      exact voted.perform (.saveProgress options.progressId ((· + 1)^[count] first))

end Ledger.Tables

/-!
## Any run
-/

/-- What a run has come to in front of a place: all places before it are done as if at once, and it may
have been begun. -/
structure Underway (content : Chain.Content) (options : FollowOptions) (head first : Height)
    (start tables : Ledger.Tables) (place : Nat) : Prop where
  standing : Standing options (tables.progressOf? options.progressId) place
  along : ∃ count, (· + 1)^[count] first = .ofNat place ∧ (first.Reaches head →
    start.Passable content options head first count ∧
    Ledger.Tables.Begun content options (.ofNat place)
      (start.finishedFrom content options first count) tables ∧
    (¬ (Number.ofNat place).below head →
      tables = start.finishedFrom content options first count))

namespace Loop

/-- A note tells of a chain that has not come further than a head, and of no refusal that matters. -/
def FairUpTo (content : Chain.Content) (options : FollowOptions) (head : Height) (note : Note) :
    Prop :=
  note.TellsOf content options.withBlockEvents ∧ note.IsFirm ∧
    ∀ status, note = .answered .status status → status.latest.atMost head

theorem below_of_reported {content : Chain.Content} {options : FollowOptions}
    {trace more : Trace} {head told height : Height} (reported : trace.reported? = some told)
    (below : height.below told) (fair : ∀ note ∈ trace ++ more, FairUpTo content options head note) :
    height.below head := by
  obtain ⟨status, noted, rfl⟩ := Trace.mem_heads.mp (List.mem_of_getLast? reported)
  obtain ⟨_, _, inReach⟩ := fair _ (List.mem_append_left _ noted)
  exact Number.below_of_below_of_atMost below (inReach status rfl)

section Any

variable {others : Collaborators} (discreet : others.Discreet)
  {tables : others.Store → Ledger.Tables} (kept : others.books.KeptIn tables)
  {content : Chain.Content} {options : FollowOptions} {head first : Height}
  {start : Ledger.Tables} (keyed : start.Keyed)
  (late : first.Reaches head → ∀ count, start.Passable content options head first count →
    ((· + 1)^[count] first).below head →
    (start.finishedFrom content options first count).SettlesLate
      (content.events options.withBlockEvents ((· + 1)^[count] first)))

include discreet kept keyed late

theorem process_underway {place : Nat} {world final : World others} {trace : Trace}
    {result : Except Fault Unit} (below : (Number.ofNat place).below head)
    (underway : Underway content options head first start (tables world.store) place)
    (ending : (process options (.ofNat place)).Ends world result trace final)
    (fair : ∀ note ∈ trace, FairUpTo content options head note) :
    result = .ok () ∧ (∃ next, Number.ofNat place + 1 = .ofNat next ∧
        Underway content options head first start (tables final.store) next) ∨
      (∃ fault, result = .error fault) ∧
        Underway content options head first start (tables final.store) place := by
  have started : (0 : Height).below (.ofNat place) := Number.below_ofNat.mpr underway.standing.started
  have pass := process_pass discreet kept ending (fun note member => (fair note member).1)
    fun note member => (fair note member).2.1
  obtain ⟨count, here, along⟩ := underway.along
  have settlesLate (reaches : first.Reaches head)
      (passable : start.Passable content options head first count) :
      (start.finishedFrom content options first count).SettlesLate
        (content.events options.withBlockEvents (.ofNat place)) :=
    here ▸ late reaches count passable (here ▸ below)
  obtain ⟨⟨fault, rfl⟩, _, same⟩ | ⟨rfl, _, advanced, _⟩ := process_saving discreet kept ending
  · refine .inr ⟨⟨fault, rfl⟩, same ▸ underway.standing, count, here, fun reaches => ?_⟩
    obtain ⟨passable, begun, _⟩ := along reaches
    obtain ⟨impossible, _⟩ | ⟨_, begun'⟩ :=
      begun.pass started (keyed.finishedFrom first count) (settlesLate reaches passable) pass
    · cases impossible
    · exact ⟨passable, begun', fun reached => absurd below reached⟩
  · obtain ⟨next, counted, _, standing⟩ := underway.standing.done
    refine .inl ⟨rfl, next, counted, advanced ▸ standing, count + 1, ?_, fun reaches => ?_⟩
    · rw [Function.iterate_succ_apply', here]
      exact counted
    · obtain ⟨passable, begun, _⟩ := along reaches
      obtain ⟨_, can, finished⟩ | ⟨⟨_, impossible⟩, _⟩ :=
        begun.pass started (keyed.finishedFrom first count) (settlesLate reaches passable) pass
      · rw [← here] at below can finished
        rw [finished]
        exact ⟨passable.next below can, .not_at_all, fun _ => rfl⟩
      · cases impossible

theorem invariant_underway : Invariant options (Idle tables options)
    (FairUpTo content options head) (fun _ => True)
    (fun _ world height => ∃ place, height = .ofNat place ∧
      Underway content options head first start (tables world.store) place) where
  between := between_idle discreet kept
  resumes := by
    rintro trace more world final height last ⟨place, rfl, underway⟩ read
    obtain ⟨_, _, ⟨same, _⟩ | ⟨⟨_, impossible⟩, _⟩⟩ := World.record_ends discreet kept read
    · cases same
      exact underway.standing.next
    · cases impossible
  idle := by
    rintro trace more world final height ⟨place, rfl, underway⟩ ⟨same, _⟩ _
    exact ⟨place, rfl, same ▸ underway⟩
  pass := by
    rintro trace more world final height told ⟨place, rfl, underway⟩ reported below ending fair
    have below' := below_of_reported reported below fair
    obtain ⟨_, underway'⟩ | ⟨⟨_, impossible⟩, _⟩ := process_underway discreet kept keyed late below'
      underway ending fun note member => fair note (List.mem_append_right _ member)
    · exact underway'
    · cases impossible
  failure := by
    rintro trace more world final height told fault ⟨place, rfl, underway⟩ reported below ending fair
    have below' := below_of_reported reported below fair
    obtain ⟨impossible, _⟩ | ⟨_, underway'⟩ := process_underway discreet kept keyed late below'
      underway ending fun note member => fair note (List.mem_append_right _ member)
    · cases impossible
    · exact ⟨⟨place, rfl, underway'⟩, trivial⟩

/-- A run that has caught up with the head has done all heights below it as if at once. -/
theorem Run.caught_up {place : Nat}
    (standing : Standing options (start.progressOf? options.progressId) place)
    (starts : first = .ofNat place) {outside : World others → World others → Prop}
    {begins world final : World others} {loop loop' : Loop} {trace more : Trace} {summary : Summary}
    (same : tables begins.store = start)
    (undisturbed : ∀ world world', outside world world' → tables world'.store = tables world.store)
    (run : Run options outside begins trace world loop)
    (ticked : (loop.tick options).Ends world (.ok (.ok summary, loop')) more final)
    (fair : ∀ note ∈ trace ++ more, FairUpTo content options head note)
    (told : summary.head = some head) (reached : head.atMost summary.height) :
    ∃ count, summary.height = (· + 1)^[count] first ∧
      start.Passable content options head first count ∧
      ¬ ((· + 1)^[count] first).below head ∧
      tables final.store = start.finishedFrom content options first count := by
  have invariant := invariant_underway discreet kept keyed late
  have begun : Underway content options head first start (tables begins.store) place := by
    rw [same]
    refine ⟨standing, 0, starts, fun _ => ⟨?_, .not_at_all, fun _ => rfl⟩⟩
    exact fun earlier impossible => absurd impossible (Nat.not_lt_zero earlier)
  obtain ⟨_, holds, next⟩ := invariant.run_holds discreet kept ⟨place, rfl, begun⟩
    (fun world => ⟨rfl, by simp⟩) (fun world world' done => ⟨undisturbed world world' done, by simp⟩)
    run fun note member => fair note (List.mem_append_left _ member)
  obtain ⟨_, _, ended, ⟨_, _, caught⟩ | unmoved⟩ :=
    invariant.tick_ends discreet kept holds next ticked fair
  · cases ended
    obtain ⟨sameHead, sameHeight⟩ := caught.told summary rfl
    cases told.symm.trans sameHead
    obtain ⟨place', height, underway⟩ := caught.holds
    obtain ⟨count, here, along⟩ := underway.along
    have above := Number.not_below_of_atMost reached
    rw [sameHeight, height, ← here] at above
    obtain ⟨passable, _, whole⟩ := along ⟨count, above⟩
    exact ⟨count, sameHeight.trans (height.trans here.symm), passable, above, whole (here ▸ above)⟩
  · cases ended
    rw [unmoved.untold summary rfl] at told
    cases told

end Any

end Loop

/-!
## One round without failures
-/

/-- A settlement that is dispatched finds its proposal in the tables. -/
def Note.FindsProposal (tables : Ledger.Tables) : Note → Prop
  | .dispatched _ _ _ event _ =>
      match event.typed? with
      | some ⟨.settlement, settlement⟩ =>
          (Ledger.byId? Ledger.Proposal.id tables.proposals (.ofNat settlement.proposal)).isSome
      | _ => True
  | _ => True

/-- All settlements that are dispatched find their proposals, on a ledger that begins with tables. -/
def Trace.FindsProposals (trace : Trace) (start : Ledger.Tables) : Prop :=
  trace.Everywhere fun before note => note.FindsProposal (start.replay before.operations)

theorem Trace.FindsProposals.before {first second : Trace} {start : Ledger.Tables}
    (finds : Trace.FindsProposals (first ++ second) start) : first.FindsProposals start := by
  rintro before note after rfl
  exact finds before note (after ++ second) (by simp)

theorem Trace.FindsProposals.after {first second : Trace} {start : Ledger.Tables}
    (finds : Trace.FindsProposals (first ++ second) start) :
    second.FindsProposals (start.replay first.operations) := by
  rintro before note after rfl
  have found : note.FindsProposal (start.replay (Trace.operations (first ++ before))) :=
    finds (first ++ before) note after (by simp)
  rwa [Trace.operations_append, Ledger.Tables.replay_append] at found

namespace Loop

section Free

variable {content : Chain.Content} {options : FollowOptions} {loop : Loop}
  {world final : World Collaborators.inMemory} {trace : Trace}

theorem process_finishes {height : Height} (ready : World.Ready content world)
    (ending : (process options height).Ends world (.ok ()) trace final) :
    final.store.ledger = world.store.ledger.finished content options height := by
  have told : ∀ note ∈ trace, note.TellsOf content options.withBlockEvents := by
    intro note member
    apply Note.tellsOf_of_isSaid
    rw [← ready.chain.node.answers]
    exact (process_tells ending).2 note member
  have pass := process_pass Collaborators.discreet_inMemory Collaborators.keptIn_inMemory ending told
    (process_calm.ends ready ending).2
  obtain ⟨done, complete, ⟨_, finished⟩ | ⟨impossible, _⟩⟩ := pass.complete (.inl rfl)
  · rw [Ledger.Tables.finished_of_complete complete]
    exact finished
  · exact absurd rfl impossible

theorem process_settlesLate {height : Height} {result : Except Fault Unit}
    (ready : World.Ready content world)
    (ending : (process options height).Ends world result trace final)
    (finds : trace.FindsProposals world.store.ledger) :
    world.store.ledger.SettlesLate (content.events options.withBlockEvents height) := by
  have firm := (process_calm.ends ready ending).2
  rcases process_ends ending with
    ⟨_, rfl, failed⟩ | ⟨_, _, asking, dispatching, rfl, _, failed, rfl⟩ |
      ⟨results, fetched, asking, handled, dispatched, dispatching, rest, asked, done, rfl, _⟩
  · obtain ⟨_, impossible, _⟩ := (World.ask_serves content _).ends ready failed
    cases impossible
  · obtain ⟨_, impossible⟩ := World.dispatchAll_succeeds failed fun note member =>
      firm note (List.mem_append_right _ member)
    cases impossible
  obtain ⟨_, same, rfl, ready'⟩ := (World.ask_serves content _).ends ready asked
  cases same
  have finds' := finds.after
  rw [← (World.steps_replays Collaborators.discreet_inMemory Collaborators.keptIn_inMemory).ask _
    trivial asked] at finds'
  rw [← (World.ask_ends Collaborators.discreet_inMemory asked).1]
  refine Ledger.Tables.settlesLate_of_found height 0 ?_
  intro earlier event later settlement split typed
  obtain ⟨before, outcome, after, rfl, replayed⟩ := (World.dispatchAll_ends
    Collaborators.discreet_inMemory Collaborators.keptIn_inMemory done fun note member =>
      firm note (by simp [member])).2 earlier event later split
  have found : Note.FindsProposal (fetched.store.ledger.replay before.operations) _ :=
    finds' before _ (after ++ rest) (List.append_assoc ..)
  rw [replayed] at found
  simp only [Note.FindsProposal, typed] at found
  exact Option.isSome_iff_ne_none.mp found

theorem catchUp_begins {head height : Height} {left processed : Nat}
    {result : Except Fault (Except Fault Summary × Loop)} (ready : World.Ready content world)
    (going : loop.stopping = false) (below : height.below head)
    (ending : (catchUp options head (left + 1) height processed loop).Ends world result trace final) :
    ∃ inner waited passed waiting passing rest, World.Ready content waited ∧
      waited.store = world.store ∧ (process options height).Ends waited inner passing passed ∧
      World.Ready content passed ∧ trace = waiting ++ (passing ++ rest) ∧
      Trace.operations waiting = [] ∧ (inner = .ok () → ∃ loop', loop'.stopping = false ∧
        (catchUp options head left (height + 1) (processed + 1) loop').Ends passed result rest
          final) := by
  have waits : Calm Note.IsFirm (World.Ready content) (World.wait .beforeHeight) :=
    (World.wait_serves content .beforeHeight).calm fun _ _ => id
  have calm := (waits world ready).2.1
  cases catchUp_cases ending with
  | ended reason =>
      rcases reason with stopping | beyond
      · simp [going] at stopping
      · exact absurd below beyond
  | paused _ _ _ asked => simp [calm] at asked
  | failed _ _ wait _ pass _ =>
      obtain ⟨same, quiet⟩ := World.wait_ends Collaborators.discreet_inMemory wait
      have ready' := (waits.ends ready wait).1
      exact ⟨_, _, _, _, _, _, ready', same, pass, (process_calm.ends ready' pass).1, rfl,
        Trace.operations_of_quiet quiet, fun impossible => by cases impossible⟩
  | @onward _ _ _ _ middle _ _ _ _ wait _ pass onward =>
      obtain ⟨same, quiet⟩ := World.wait_ends Collaborators.discreet_inMemory wait
      have ready' := (waits.ends ready wait).1
      have passes : Calm Note.IsFirm (World.Ready content) (process options height) := process_calm
      have calm' := (passes middle ready').2.1
      exact ⟨_, _, _, _, _, _, ready', same, pass, (process_calm.ends ready' pass).1, rfl,
        Trace.operations_of_quiet quiet, fun _ => ⟨_, by simp [heeding, going, calm'], onward⟩⟩

theorem catchUp_onward {head height : Height} {left processed : Nat}
    {result : Except Fault (Except Fault Summary × Loop)} (ready : World.Ready content world)
    (going : loop.stopping = false) (below : height.below head)
    (can : world.store.ledger.CanFinish content options height)
    (ending : (catchUp options head (left + 1) height processed loop).Ends world result trace final)
    (finds : trace.FindsProposals world.store.ledger) :
    ∃ loop' passed rest, loop'.stopping = false ∧ World.Ready content passed ∧
      passed.store.ledger = world.store.ledger.finished content options height ∧
      (catchUp options head left (height + 1) (processed + 1) loop').Ends passed result rest final ∧
      Trace.FindsProposals rest passed.store.ledger := by
  obtain ⟨inner, waited, passed, waiting, passing, rest, ready', same, pass, ready'', rfl, silent,
    onward⟩ := catchUp_begins ready going below ending
  rw [← same] at can finds ⊢
  obtain rfl := process_serves ready' can pass
  obtain ⟨loop', going', ending'⟩ := onward rfl
  refine ⟨loop', passed, rest, going', ready'', process_finishes ready' pass, ending', ?_⟩
  have finds' := finds.after.after
  rwa [silent, Ledger.Tables.replay_nil, ← process_replays Collaborators.discreet_inMemory
    Collaborators.keptIn_inMemory pass] at finds'

/-- After some heights a round without failures goes on from what they come to when done at once. -/
theorem catchUp_reaches {head first : Height} {count left : Nat}
    {result : Except Fault (Except Fault Summary × Loop)} (ready : World.Ready content world) (going : loop.stopping = false)
    (passable : world.store.ledger.Passable content options head first count)
    (ending : (catchUp options head (left + count) first 0 loop).Ends world result trace final)
    (finds : trace.FindsProposals world.store.ledger) :
    ∃ loop' reached rest, loop'.stopping = false ∧ World.Ready content reached ∧
      reached.store.ledger = world.store.ledger.finishedFrom content options first count ∧
      (catchUp options head left ((· + 1)^[count] first) count loop').Ends reached result rest final ∧
      Trace.FindsProposals rest reached.store.ledger := by
  induction count generalizing left with
  | zero => exact ⟨loop, world, trace, going, ready, rfl, ending, finds⟩
  | succ count ih =>
      rw [← Nat.add_assoc, Nat.add_right_comm] at ending
      obtain ⟨loop', reached, rest, going', ready', same, ending', finds'⟩ :=
        ih (fun earlier less => passable earlier (Nat.lt_succ_of_lt less)) ending
      obtain ⟨below, can⟩ := passable count (Nat.lt_succ_self count)
      rw [← same] at can
      obtain ⟨loop'', passed, rest', going'', ready'', finished, ending'', finds''⟩ :=
        catchUp_onward ready' going' below can ending' finds'
      refine ⟨loop'', passed, rest', going'', ready'', ?_, ?_, finds''⟩
      · rw [finished, same]
        rfl
      · rw [Function.iterate_succ_apply']
        exact ending''

theorem resumePoint_serves : Serves Note.IsFirm (World.Ready content)
    (resumePoint options : Call (World Collaborators.inMemory) Height)
    fun _ => World.Ready content :=
  .bind (World.record_serves content _) fun _ => .bind (.note trivial) fun _ => .pure _ fun _ => id

theorem resume_begins {result : Except Fault (Except Fault Height × Loop)}
    (ready : World.Ready content world)
    (ending : (loop.resume options).Ends world result trace final) :
    World.Ready content final ∧ final.store.ledger = world.store.ledger ∧
      ∃ height, height = firstUndone options (world.store.ledger.progressOf? options.progressId) ∧
        result = .ok (.ok height, { loop with next := some height }) := by
  have calm : Calm Note.IsFirm (World.Ready content) (resumePoint options) :=
    resumePoint_serves.calm fun _ _ => id
  obtain ⟨_, read, rfl⟩ := resume_cases ending
  obtain ⟨point, rfl, ready'⟩ := resumePoint_serves.ends ready read
  obtain ⟨_, impossible, _⟩ | ⟨last, reading, line, told, same, _⟩ := resumePoint_reads read
  · cases impossible
  cases same
  obtain ⟨_, _, ⟨same, stored, _⟩ | ⟨⟨_, impossible⟩, _⟩⟩ :=
    World.record_ends Collaborators.discreet_inMemory Collaborators.keptIn_inMemory told
  · cases same
    rw [(calm world ready).2.1, Bool.or_false]
    exact ⟨ready', stored, _, rfl, rfl⟩
  · cases impossible

theorem round_begins {height : Height} {result : Except Fault (Except Fault Summary × Loop)}
    (ready : World.Ready content world) (going : loop.stopping = false)
    (ending : (round options loop height).Ends world result trace final)
    (finds : trace.FindsProposals world.store.ledger) :
    ∃ loop' told rest, loop'.stopping = false ∧ World.Ready content told ∧
      told.store.ledger = world.store.ledger ∧
      (catchUp options (content .status).latest heightBound height 0 loop').Ends told result rest
        final ∧ Trace.FindsProposals rest told.store.ledger := by
  have connects := (World.connect_serves content).calm fun _ _ => And.right
  have asks := (World.ask_serves content .status).calm fun _ _ => And.right
  cases round_cases ending with
  | stopped stopping => simp [going] at stopping
  | broken _ connect =>
      obtain ⟨_, impossible, _⟩ := (World.connect_serves content).ends ready connect
      cases impossible
  | unconnected _ connect =>
      obtain ⟨_, impossible, rfl, _⟩ := (World.connect_serves content).ends ready connect
      cases impossible
  | unheard _ connect ask =>
      have ready' := (connects.ends ready connect).1
      obtain ⟨_, impossible, _⟩ := (World.ask_serves content .status).ends ready' ask
      cases impossible
  | @opened _ _ _ _ middle _ _ _ connect ask onward =>
      have ready' := (connects.ends ready connect).1
      obtain ⟨_, same, rfl, ready''⟩ := (World.ask_serves content .status).ends ready' ask
      cases same
      obtain ⟨same, quiet⟩ := World.connect_ends Collaborators.discreet_inMemory connect
      have same' := (World.ask_ends Collaborators.discreet_inMemory ask).1
      have finds' := finds.after
      rw [Trace.operations_of_quiet quiet, Ledger.Tables.replay_nil, ← same] at finds'
      have finds'' := finds'.after
      rw [← (World.steps_replays Collaborators.discreet_inMemory Collaborators.keptIn_inMemory).ask _
        trivial ask] at finds''
      have calm := (connects world ready).2.1
      have calm' := (asks middle ready').2.1
      exact ⟨_, _, _, by simp [heeding, going, calm, calm'], ready'', by rw [same', same], onward,
        finds''⟩

theorem tick_begins {result : Except Fault (Except Fault Summary × Loop)} (ready : World.Ready content world)
    (ending : (({} : Loop).tick options).Ends world result trace final)
    (finds : trace.FindsProposals world.store.ledger) :
    ∃ loop' told rest, loop'.stopping = false ∧ World.Ready content told ∧
      told.store.ledger = world.store.ledger ∧
      (catchUp options (content .status).latest heightBound
        (firstUndone options (world.store.ledger.progressOf? options.progressId)) 0 loop').Ends told
          result rest final ∧ Trace.FindsProposals rest told.store.ledger := by
  cases tick_cases ending with
  | known next => cases next
  | resumed _ resume going =>
      obtain ⟨ready', same, height, told, ended⟩ := resume_begins ready resume
      cases ended
      have finds' := finds.after
      rw [← resume_keeps (between_replays Collaborators.discreet_inMemory
        Collaborators.keptIn_inMemory).around _ resume] at finds'
      obtain ⟨loop', told', rest, going', ready'', same', caught, finds''⟩ :=
        round_begins ready' rfl going finds'
      exact ⟨loop', told', rest, going', ready'', same'.trans same, told ▸ caught, finds''⟩
  | unresumed _ resume =>
      obtain ⟨_, _, _, _, impossible⟩ := resume_begins ready resume
      cases impossible

/-- A round without failures dispatches the block of every height that it comes to. If settlements
find their proposals there, the block settles none of them too early. -/
theorem tick_settlesLate {first count : Nat} {result : Except Fault (Except Fault Summary × Loop)}
    (ready : World.Ready content world)
    (begins : firstUndone options (world.store.ledger.progressOf? options.progressId) = .ofNat first)
    (exact : Number.IsExact first)
    (reaches : (Number.ofNat first).Reaches (content .status).latest)
    (passable : world.store.ledger.Passable content options (content .status).latest (.ofNat first)
      count)
    (below : ((· + 1)^[count] (.ofNat first) : Height).below (content .status).latest)
    (ending : (({} : Loop).tick options).Ends world result trace final)
    (finds : trace.FindsProposals world.store.ledger) :
    (world.store.ledger.finishedFrom content options (.ofNat first) count).SettlesLate
      (content.events options.withBlockEvents ((· + 1)^[count] (.ofNat first))) := by
  have few : count + 1 ≤ 2 ^ 54 := by
    refine exact.count_le (fun earlier less => ?_) reaches
    rcases Nat.lt_or_eq_of_le (Nat.le_of_lt_succ less) with before | rfl
    · exact (passable earlier before).1
    · exact below
  obtain ⟨loop', told, rest, going, ready', same, caught, finds'⟩ := tick_begins ready ending finds
  have enough : heightBound = heightBound - (count + 1) + 1 + count := by
    unfold heightBound Number.safeBound
    omega
  rw [begins, enough] at caught
  rw [← same] at passable ⊢
  obtain ⟨_, reached, later, going', ready'', finished, onward, found⟩ :=
    catchUp_reaches ready' going passable caught finds'
  obtain ⟨_, waited, _, waiting, passing, _, readyToPass, still, pass, _, rfl, silent, _⟩ :=
    catchUp_begins ready'' going' below onward
  have found' := found.after
  rw [silent, Ledger.Tables.replay_nil, ← still] at found'
  rw [← finished, ← still]
  exact process_settlesLate readyToPass pass found'.before

/-- A round without failures ends at the head once all heights below it can be done. -/
theorem tick_finishes {first count : Nat} {result : Except Fault (Except Fault Summary × Loop)}
    (ready : World.Ready content world)
    (begins : firstUndone options (world.store.ledger.progressOf? options.progressId) = .ofNat first)
    (exact : Number.IsExact first)
    (passable : world.store.ledger.Passable content options (content .status).latest (.ofNat first)
      count)
    (reached : ¬ ((· + 1)^[count] (.ofNat first) : Height).below (content .status).latest)
    (ending : (({} : Loop).tick options).Ends world result trace final)
    (finds : trace.FindsProposals world.store.ledger) :
    ∃ summary loop', result = .ok (.ok summary, loop') ∧ summary.error = none ∧
      summary.head = some (content .status).latest ∧
      summary.height = (· + 1)^[count] (.ofNat first) ∧
      final.store.ledger = world.store.ledger.finishedFrom content options (.ofNat first) count := by
  have few := exact.count_le (fun earlier less => (passable earlier less).1) ⟨count, reached⟩
  obtain ⟨loop', told, rest, going, ready', same, caught, finds'⟩ := tick_begins ready ending finds
  have enough : heightBound = heightBound - count + count := by
    unfold heightBound Number.safeBound
    omega
  rw [begins, enough] at caught
  rw [← same] at passable ⊢
  obtain ⟨loop'', world', rest', _, _, finished, onward, _⟩ :=
    catchUp_reaches ready' going passable caught finds'
  rw [catchUp_of_ended _ _ (.inr reached)] at onward
  obtain ⟨rfl, _, rfl⟩ := ends_pure.mp onward
  exact ⟨_, _, rfl, rfl, rfl, rfl, finished⟩

end Free

/-!
## The end result
-/

/-- One round of a new loop over a chain and tables in memory, where nothing fails. -/
def faultless (options : FollowOptions) (chain : Chain.Simulated) (tables : Ledger.Tables) :
    Completion (World Collaborators.inMemory) (Except Fault Summary × Loop) :=
  (({} : Loop).tick options) (World.inMemory { chain with failures := [], watched := none } tables)

theorem faultless_ends (options : FollowOptions) (chain : Chain.Simulated) (tables : Ledger.Tables) :
    (({} : Loop).tick options).Ends
      (World.inMemory { chain with failures := [], watched := none } tables)
      (faultless options chain tables).result (faultless options chain tables).trace
      (faultless options chain tables).state :=
  Call.ends _ _

theorem standing_of_counted {options : FollowOptions} {first : Nat} {progress : Option Height}
    (starts : options.startHeight = .ofNat first) (started : 1 ≤ first)
    (exact : Number.IsExact first)
    (counted : ∀ last, progress = some last → ∃ done, Number.IsExact done ∧ last = .ofNat done) :
    ∃ place, Standing options progress place := by
  cases progress with
  | none => exact ⟨first, .first starts started exact⟩
  | some last =>
      obtain ⟨done, exact', rfl⟩ := counted last rfl
      obtain ⟨next, same, least, positive, exact''⟩ := exact'.add_one
      refine ⟨next, positive, exact'', same, ?_⟩
      change Number.max (.ofNat done) _ = _
      rw [Number.max_ofNat, Nat.max_eq_right least]

/-- Whatever fails in a run over a chain, once it has caught up with the head its ledger is that of
one round in which nothing fails. Heads told before do not lie above the last, no handler's operation
is refused, and in the one round every settlement finds its proposal. -/
theorem Run.converges {options : FollowOptions} {first : Nat}
    (starts : options.startHeight = .ofNat first) (started : 1 ≤ first)
    (exact : Number.IsExact first) {chain : Chain.Simulated} {initially : Ledger.Tables}
    {operations : List Ledger.Operation}
    (reachable : initially = ({} : Ledger.Tables).replay operations)
    (counted : ∀ last, initially.progressOf? options.progressId = some last →
      ∃ done, Number.IsExact done ∧ last = .ofNat done)
    (finds : (faultless options chain initially).trace.FindsProposals initially)
    {others : Collaborators} (discreet : others.Discreet) {tables : others.Store → Ledger.Tables}
    (kept : others.books.KeptIn tables) {outside : World others → World others → Prop}
    {begins world final : World others} (same : tables begins.store = initially)
    (undisturbed : ∀ world world', outside world world' → tables world'.store = tables world.store)
    {trace more : Trace} {loop loop' : Loop} {summary : Summary}
    (run : Run options outside begins trace world loop)
    (ticked : (loop.tick options).Ends world (.ok (.ok summary, loop')) more final)
    (told : ∀ note ∈ trace ++ more, note.TellsOf chain.answer options.withBlockEvents)
    (firm : ∀ note ∈ trace ++ more, note.IsFirm)
    (heads : ∀ head ∈ Trace.heads (trace ++ more), head.atMost chain.head)
    (caughtUp : summary.head = some chain.head) (reached : chain.head.atMost summary.height) :
    ∃ summary' loop'', (faultless options chain initially).result = .ok (.ok summary', loop'') ∧
      summary'.error = none ∧ summary'.head = some chain.head ∧ summary'.height = summary.height ∧
      tables final.store = (faultless options chain initially).state.store.ledger := by
  have keyed : initially.Keyed := reachable ▸ Ledger.Tables.keyed_empty.replay operations
  have ready := ready_inMemory chain initially
  have free := faultless_ends options chain initially
  obtain ⟨place, standing⟩ := standing_of_counted starts started exact counted
  have fair : ∀ note ∈ trace ++ more, FairUpTo chain.answer options chain.head note := by
    intro note member
    refine ⟨told note member, firm note member, ?_⟩
    rintro status rfl
    exact heads _ (Trace.mem_heads.mpr ⟨status, member, rfl⟩)
  have late : (Number.ofNat place).Reaches chain.head → ∀ count,
      initially.Passable chain.answer options chain.head (.ofNat place) count →
      ((· + 1)^[count] (.ofNat place) : Height).below chain.head →
      (initially.finishedFrom chain.answer options (.ofNat place) count).SettlesLate
        (Chain.Content.events chain.answer options.withBlockEvents
          ((· + 1)^[count] (.ofNat place))) :=
    fun reaches count passable below =>
      tick_settlesLate ready standing.next standing.exact reaches passable below free finds
  -- Both have done all heights below the head as if at once, and these are the same heights.
  obtain ⟨count, height, passable, above, whole⟩ :=
    run.caught_up discreet kept keyed late standing rfl same undisturbed ticked fair caughtUp reached
  obtain ⟨summary', loop'', ended, well, told', height', whole'⟩ :=
    tick_finishes ready standing.next standing.exact passable above free finds
  exact ⟨summary', loop'', ended, well, told', height'.trans height.symm, whole.trans whole'.symm⟩

instance (tables : Ledger.Tables) : (note : Note) → Decidable (note.FindsProposal tables)
  | .dispatched _ _ _ event _ => by
      unfold Note.FindsProposal
      dsimp only
      split <;> infer_instance
  | .recorded _ _ | .logged _ | .requested _ | .executed _ | .asked _ | .answered _ _
  | .consulted _ | .reconciled _ => .isTrue trivial

/-- A world whose first block makes a proposal and whose second settles it, both signed. Each kind of
call fails once, and so do a vote and an attempt to save. -/
def troubledWorld : World Collaborators.inMemory :=
  World.inMemory
    { head := .ofNat 3
      blocks := [Chain.blockOf 1 [.making "7"], Chain.blockOf 2 [.settling "7"]]
      commits := [(.ofNat 1, [Chain.signedBy "AA01", Chain.signedBy "AA02"]),
        (.ofNat 2, [Chain.signedBy "AA02"])]
      accounts := [("AA01", .number (.ofNat 11)), ("AA02", .number (.ofNat 12))]
      failures := [("fetchStatus", .ofNat 1), ("fetchBlockResults", .ofNat 1),
        ("fetchCommit", .ofNat 1), ("queryAbci", .ofNat 1)] }
    {} [("insertProposalVote", [.other "disk full"]), ("saveProgress", [.other "disk full"])]

/-- The round that catches up in the troubled world. -/
def catchingRound : Completion (World Collaborators.inMemory) (Except Fault Summary × Loop) :=
  (({} : Loop).tick (optionsFrom 1)) (roundsAnew (optionsFrom 1) troubledWorld 6).2

private theorem troubledWorld_computed :
    (∀ note ∈ (roundsAnew (optionsFrom 1) troubledWorld 6).1 ++ catchingRound.trace, note.IsFirm) ∧
      (∀ head ∈ Trace.heads ((roundsAnew (optionsFrom 1) troubledWorld 6).1 ++ catchingRound.trace),
        head.atMost (.ofNat 3)) ∧
      (catchingRound.result.toOption.bind (·.1.toOption)).map
          (fun summary => (summary.head, summary.height)) =
        some (some (.ofNat 3), .ofNat 3) ∧
      (∀ place : Fin (faultless (optionsFrom 1) troubledWorld.chain.node {}).trace.length,
        ((faultless (optionsFrom 1) troubledWorld.chain.node {}).trace.get place).FindsProposal
          (({} : Ledger.Tables).replay (Trace.operations
            ((faultless (optionsFrom 1) troubledWorld.chain.node {}).trace.take place)))) ∧
      catchingRound.state.store.ledger.proposalVotes.map (·.row.voterIndex) =
        [.ofNat 11, .ofNat 12, .ofNat 12] := by
  decide +kernel

private theorem catchingRound_ends : (({} : Loop).tick (optionsFrom 1)).Ends
    (roundsAnew (optionsFrom 1) troubledWorld 6).2 catchingRound.result catchingRound.trace
    catchingRound.state := by
  unfold catchingRound
  exact Call.ends _ _

/-- Six rounds of one loop after another in the troubled world, and one that catches up. -/
theorem Run.converges_in_troubledWorld :
    catchingRound.state.store.ledger.proposalVotes.map (·.row.voterIndex) =
        [.ofNat 11, .ofNat 12, .ofNat 12] ∧
      ∃ summary loop, (faultless (optionsFrom 1) troubledWorld.chain.node {}).result =
          .ok (.ok summary, loop) ∧ summary.error = none ∧ summary.head = some (.ofNat 3) ∧
        catchingRound.state.store.ledger =
          (faultless (optionsFrom 1) troubledWorld.chain.node {}).state.store.ledger := by
  obtain ⟨firm, heads, ended, finds, votes⟩ := troubledWorld_computed
  have run := run_roundsAnew (optionsFrom 1) (fun _ _ => False) troubledWorld 6
  have ticked := catchingRound_ends
  obtain ⟨report, loop', same⟩ := tick_reports ticked
  rw [same] at ticked ended
  obtain ⟨summary, rfl⟩ : ∃ summary, report = .ok summary := by
    cases report with
    | ok summary => exact ⟨summary, rfl⟩
    | error fault => cases ended
  have told := Run.tells (fun _ _ impossible => impossible.elim) run
  have told' := (tick_tells ticked).2
  rw [told.1] at told'
  have height : summary.height = .ofNat 3 := congrArg Prod.snd (Option.some_inj.mp ended)
  have head : summary.head = some (.ofNat 3) := congrArg Prod.fst (Option.some_inj.mp ended)
  have finds' : Trace.FindsProposals (faultless (optionsFrom 1) troubledWorld.chain.node {}).trace {} :=
    Trace.everywhere_of_take finds
  have reached : troubledWorld.chain.node.head.atMost summary.height := by
    rw [height]
    exact Number.atMost_ofNat.mpr le_rfl
  have saying : ∀ note ∈ (roundsAnew (optionsFrom 1) troubledWorld 6).1 ++ catchingRound.trace,
      note.TellsOf troubledWorld.chain.node.answer (optionsFrom 1).withBlockEvents := by
    intro note member
    apply Note.tellsOf_of_isSaid
    exact (List.mem_append.mp member).elim (told.2 note) (told' note)
  obtain ⟨summary', loop'', result, well, head', _, converged⟩ := run.converges rfl (by decide)
    (Number.isExact_of_safe (by decide)) (show ({} : Ledger.Tables) = ({} : Ledger.Tables).replay [] from rfl)
    (fun _ impossible => by cases impossible) finds'
    Collaborators.discreet_inMemory Collaborators.keptIn_inMemory rfl
    (fun _ _ impossible => impossible.elim) ticked saying firm heads head reached
  exact ⟨votes, summary', loop'', result, well, head', converged⟩

end Loop

end RollCall
