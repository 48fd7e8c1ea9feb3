import RollCall.Proofs.Handling

/-!
# One pass over a height

What a pass makes of the tables when the node tells of one chain and no operation of a handler is
refused: the block is absorbed, some of the votes are cast, and the height is saved if nothing stood
in the way. The first lookup of a target tells the two parts of a pass apart.
-/

set_option autoImplicit false

namespace RollCall

open Call

/-!
## The chain that a node tells of
-/

namespace Chain

/-- What there is to answer to each question, once all accounts are known. -/
abbrev Content : Type := (question : Question) → question.Answer

namespace Content

variable (content : Content)

def events (withBlockEvents : Bool) (height : Height) : List Event :=
  (content (.blockResults height)).events withBlockEvents

/-- The signatures under a block that carry an address. -/
def signatures (height : Height) : List Signature :=
  (content (.commit height)).signatures.filter (·.address ≠ "")

def account? (address : String) : Option Account :=
  (addressBytes? address).bind fun bytes =>
    (accountOf address (content (.query accountsPath (Hex.encode bytes)))).toOption

/-- The signers of signatures, if all of their accounts are known in the end. -/
def signersOf? : List Signature → Option (List Signer)
  | [] => some []
  | signature :: rest =>
      (content.account? signature.address).bind fun account =>
        (signersOf? rest).map ({ account, flag := signature.flag } :: ·)

def signers? (height : Height) : Option (List Signer) :=
  content.signersOf? (content.signatures height)

theorem mem_signersOf? {signatures : List Signature} {signers : List Signer}
    (known : content.signersOf? signatures = some signers) (index : Nat) :
    (∃ signer ∈ signers, signer.account.index = index) ↔
      ∃ signature ∈ signatures,
        (content.account? signature.address).map Account.index = some index := by
  induction signatures generalizing signers with
  | nil =>
      cases known
      simp
  | cons signature rest ih =>
      obtain ⟨account, found, others⟩ := Option.bind_eq_some_iff.mp known
      obtain ⟨later, known', rfl⟩ := Option.map_eq_some_iff.mp others
      rw [List.exists_mem_cons_iff, List.exists_mem_cons_iff, ih known', found, Option.map_some,
        Option.some_inj]

end Content

end Chain

/-- A note tells of a chain: what the node answers is what the chain has to say, as far as anyone
looks at it. Accounts may be unknown, but are told truly. -/
def Note.TellsOf (content : Chain.Content) (withBlockEvents : Bool) : Note → Prop
  | .answered (.blockResults height) results =>
      results.events withBlockEvents = content.events withBlockEvents height
  | .answered (.commit height) commit =>
      commit.signatures.filter (·.address ≠ "") = content.signatures height
  | .answered (.query path data) reply =>
      ∀ address account, accountOf address reply = .ok account →
        accountOf address (content (.query path data)) = .ok account
  | _ => True

/-- Signers whose votes can be cast at a height before something fails: some of the first. -/
def Chain.Content.IsPart (content : Chain.Content) (height : Height) (done : List Signer) : Prop :=
  done = [] ∨ ∃ signers, content.signers? height = some signers ∧ done <+: signers

/-- All votes of a height are cast: those of all signers, if it is about anything. -/
def Chain.Content.IsComplete (content : Chain.Content) (height : Height) (tables : Ledger.Tables)
    (signers : List Signer) : Prop :=
  tables.target? height = none ∨ content.signers? height = some signers

/-- Whether a note is one of a pass over a height. -/
def Note.IsOfPass (options : FollowOptions) (height : Height) : Note → Prop
  | .asked question => question = .blockResults height ∨ question.IsVotingAt height
  | .answered question _ => question = .blockResults height ∨ question.IsVotingAt height
  | .recorded operation _ => operation.IsOfPass options height
  | .dispatched _ place _ _ _ => place = height
  | .reconciled place => place = height
  | _ => True

def Ledger.Operation.IsSave : Ledger.Operation → Prop
  | .saveProgress _ _ => True
  | _ => False

/-- Whether a note tells that a height is saved. -/
def Note.IsSave : Note → Prop
  | .recorded operation true => operation.IsSave
  | _ => False

theorem Note.not_save_of_outside {note : Note} (outside : note.isOutside) : ¬ note.IsSave := by
  cases note with
  | recorded => cases outside
  | _ => exact id

theorem Note.not_save_of_recorded {operation : Ledger.Operation} (other : ¬ operation.IsSave)
    (succeeded : Bool) : ¬ (Note.recorded operation succeeded).IsSave := by
  cases succeeded with
  | true => exact other
  | false => exact id

/-- Whether an operation begins to look up a target. -/
def Ledger.Operation.IsLookup : Ledger.Operation → Prop
  | .proposalCreatedAt _ => True
  | _ => False

/-- Whether a note tells that a target is being looked up. -/
def Note.IsLookup : Note → Prop
  | .recorded operation _ => operation.IsLookup
  | _ => False

theorem Note.not_lookup_of_outside {note : Note} (outside : note.isOutside) : ¬ note.IsLookup := by
  cases note with
  | recorded => cases outside
  | _ => exact id

theorem Note.not_reconciled_of_outside {note : Note} (outside : note.isOutside) (height : Height) :
    note ≠ .reconciled height := by
  rintro rfl
  cases outside

/-- Handlers neither save a height nor look up a target. -/
theorem Ledger.Operation.handlers_keep_to_events {operation : Ledger.Operation} {height : Height}
    (handlers : operation.IsHandlersAt height) : ¬ operation.IsSave ∧ ¬ operation.IsLookup := by
  cases operation <;> first | exact handlers.elim | exact ⟨id, id⟩

theorem Ledger.Operation.not_save_of_lookup {operation : Ledger.Operation} {height : Height}
    (lookup : operation.IsLookupAt height) : ¬ operation.IsSave := by
  cases operation <;> first | exact lookup.elim | exact id

/-- Casting votes neither saves a height nor looks up a target. -/
theorem Ledger.Operation.casting_keeps_to_votes {operation : Ledger.Operation} {height : Height}
    (casting : operation.IsCastingAt height) : ¬ operation.IsSave ∧ ¬ operation.IsLookup := by
  cases operation <;> first | exact casting.elim | exact ⟨id, id⟩

namespace World

variable {others : Collaborators} (discreet : others.Discreet)
  {tables : others.Store → Ledger.Tables} (kept : others.books.KeptIn tables)

include discreet kept

variable {height : Height} {world final : World others} {trace : Trace}

theorem steps_unasked :
    Steps (Keeping (Noting fun note => ¬ note.IsLookup :
      World others → Trace → World others → Prop)) (fun operation => ¬ operation.IsLookup)
      (fun _ => True) fun note => ¬ note.IsLookup :=
  steps_noting discreet kept _ _ _ (fun _ => Note.not_lookup_of_outside) (fun _ => id)
    (fun _ other _ => other) fun _ _ => ⟨id, fun _ => id⟩

theorem steps_unreconciled :
    Steps (Keeping (Noting fun note => ∀ other, note ≠ .reconciled other :
      World others → Trace → World others → Prop)) (fun _ => True) (fun _ => True)
      fun note => ∀ other, note ≠ .reconciled other :=
  steps_noting discreet kept _ _ _ (fun _ => Note.not_reconciled_of_outside) (by simp) (by simp)
    (by simp)

/-!
## The target
-/

theorem target_ends {result : Except Fault (Option Target)}
    (ending : (World.target? height).Ends world result trace final)
    (firm : ∀ note ∈ trace, note.IsFirm) :
    result = .ok ((tables world.store).target? height) ∧
      tables final.store = tables world.store ∧
      ∃ quiet rest : Trace, trace = quiet ++ .recorded (.proposalCreatedAt height) true :: rest ∧
        (∀ note ∈ quiet, note.isOutside) ∧ ∀ note ∈ rest, ¬ note.IsLookup := by
  obtain ⟨middle, quiet, more, looking, stored, allQuiet, rfl⟩ :=
    record_bind_done discreet kept ending firm id
  have firm : ∀ note ∈ more, note.IsFirm := fun note member => firm note (by simp [member])
  change tables middle.store = tables world.store at stored
  simp only [Ledger.Tables.perform] at looking
  unfold Ledger.Tables.target?
  split at looking
  · next created =>
    obtain ⟨rfl, rfl, rfl⟩ := ends_pure.mp looking
    exact ⟨by rw [created], stored, quiet, [], rfl, allQuiet, by simp⟩
  · next none_made =>
    obtain ⟨middle', quiet', more', looking', stored', allQuiet', rfl⟩ :=
      record_bind_done discreet kept looking firm id
    have firm : ∀ note ∈ more', note.IsFirm := fun note member => firm note (by simp [member])
    rw [stored] at looking' stored'
    change tables middle'.store = tables world.store at stored'
    simp only [Ledger.Tables.perform] at looking'
    rw [none_made]
    dsimp only
    split at looking'
    · next settled =>
      obtain ⟨rfl, rfl, rfl⟩ := ends_pure.mp looking'
      refine ⟨by rw [settled], stored', quiet, _, rfl, allQuiet, fun note member => ?_⟩
      rcases List.mem_append.mp member with quietly | last
      · exact Note.not_lookup_of_outside (allQuiet' note quietly)
      · rw [List.mem_singleton.mp last]
        exact id
    · next none_settled =>
      obtain ⟨last, quiet'', rest, returned, stored'', allQuiet'', rfl⟩ :=
        record_bind_done discreet kept looking' firm id
      obtain ⟨rfl, rfl, rfl⟩ := ends_pure.mp returned
      rw [none_settled]
      rw [stored'] at stored''
      refine ⟨by rw [stored']; rfl, stored'', quiet, _, rfl, allQuiet, fun note member => ?_⟩
      rcases List.mem_append.mp member with quietly | later
      · exact Note.not_lookup_of_outside (allQuiet' note quietly)
      · rcases List.mem_cons.mp later with rfl | later
        · exact id
        · rcases List.mem_append.mp later with quietly | last
          · exact Note.not_lookup_of_outside (allQuiet'' note quietly)
          · rw [List.mem_singleton.mp last]
            exact id

/-!
## The signers
-/

omit kept in
theorem resolve_ends {content : Chain.Content} {withBlockEvents : Bool} {address : String}
    {account : Account} (ending : (resolve address).Ends world (.ok account) trace final)
    (told : ∀ note ∈ trace, note.TellsOf content withBlockEvents) :
    content.account? address = some account := by
  unfold resolve at ending
  cases bytes : addressBytes? address with
  | none =>
      rw [bytes] at ending
      cases (ends_fail.mp ending).1
  | some bytes' =>
      rw [bytes] at ending
      rcases ends_bind.mp ending with ⟨_, impossible, _⟩ | ⟨reply, middle, first, second, asked,
        read, rfl⟩
      · cases impossible
      · obtain ⟨replied, rfl, _⟩ := ends_ofExcept.mp read
        obtain ⟨_, asking, _, ⟨_, same, rfl⟩ | ⟨⟨_, impossible⟩, _⟩⟩ := ask_ends discreet asked
        · cases same
          have known := told (.answered _ reply) (by simp) address account replied.symm
          simp [Chain.Content.account?, bytes, known, Except.toOption]
        · cases impossible

omit kept in
theorem signers_ends {content : Chain.Content} {withBlockEvents : Bool}
    {signatures : List Chain.Signature} {found : List Signer}
    (ending : (signers signatures).Ends world (.ok found) trace final)
    (told : ∀ note ∈ trace, note.TellsOf content withBlockEvents) :
    content.signersOf? signatures = some found := by
  induction signatures generalizing world trace final found with
  | nil =>
      obtain ⟨same, _⟩ := ends_pure.mp ending
      cases same
      rfl
  | cons signature rest ih =>
      rcases ends_bind.mp ending with ⟨_, impossible, _⟩ | ⟨account, _, first, _, resolved, more, rfl⟩
      · cases impossible
      · rcases ends_bind.mp more with ⟨_, impossible, _⟩ | ⟨later, _, second, _, looked, returned,
          rfl⟩
        · cases impossible
        · obtain ⟨same, rfl, _⟩ := ends_pure.mp returned
          cases same
          have known := resolve_ends discreet resolved fun note member => told note (by simp [member])
          have known' := ih looked fun note member => told note (by simp [member])
          rw [Chain.Content.signersOf?, known, known']
          rfl

/-!
## The votes
-/

variable {target : Target}

theorem hasVote_ends {signer : Signer} {result : Except Fault Bool}
    (ending : (hasVote target height signer).Ends world result trace final) :
    tables final.store = tables world.store ∧
      ∀ has, result = .ok has → has = (tables world.store).hasVote target height signer := by
  cases target <;>
  · obtain ⟨_, _, ⟨rfl, stored, _⟩ | ⟨⟨_, rfl⟩, stored, _⟩⟩ := record_ends discreet kept ending
    · exact ⟨stored, fun has same => (Except.ok.inj same).symm⟩
    · exact ⟨stored, fun has impossible => by cases impossible⟩

theorem storeVote_ends {signer : Signer} {result : Except Fault Unit}
    (ending : (storeVote target height signer).Ends world result trace final) :
    (result = .ok () ∧
      tables final.store = (tables world.store).storeVote target height signer) ∨
      (∃ fault, result = .error fault) ∧ tables final.store = tables world.store := by
  cases target <;>
  · rcases ends_bind.mp ending with ⟨fault, rfl, failed⟩ | ⟨_, _, _, _, done, returned, _⟩
    · obtain ⟨_, _, ⟨impossible, _⟩ | ⟨_, stored, _⟩⟩ := record_ends discreet kept failed
      · cases impossible
      · exact .inr ⟨⟨fault, rfl⟩, stored⟩
    · obtain ⟨_, _, ⟨_, stored, _⟩ | ⟨⟨_, impossible⟩, _⟩⟩ := record_ends discreet kept done
      · obtain ⟨rfl, _, rfl⟩ := ends_pure.mp returned
        exact .inl ⟨rfl, stored⟩
      · cases impossible

/-- Some of the votes are cast, in order, and all of them if nothing fails. -/
theorem storeVotes_ends {signers : List Signer} {result : Except Fault Nat}
    (ending : (storeVotes target height signers).Ends world result trace final) :
    ∃ done, done <+: signers ∧
      tables final.store = (tables world.store).castAll target height done ∧
      ∀ inserted, result = .ok inserted → done = signers := by
  induction signers generalizing world final result trace with
  | nil =>
      obtain ⟨_, _, rfl⟩ := ends_pure.mp ending
      exact ⟨[], List.prefix_rfl, rfl, fun _ _ => rfl⟩
  | cons signer rest ih =>
      rcases ends_bind.mp ending with ⟨fault, rfl, failed⟩ | ⟨has, middle, _, _, asked, more, _⟩
      · exact ⟨[], List.nil_prefix, (hasVote_ends discreet kept failed).1,
          fun _ impossible => by cases impossible⟩
      · obtain ⟨same, answered⟩ := hasVote_ends discreet kept asked
        -- A signer who has voted already counts among those done, so these are the first of the
        -- list.
        split at more
        · next voted =>
          obtain ⟨done, first, stored, all⟩ := ih more
          refine ⟨signer :: done, List.cons_prefix_cons.mpr ⟨rfl, first⟩, ?_, fun inserted ok => ?_⟩
          · rw [Ledger.Tables.castAll_cons, Ledger.Tables.cast, if_pos (answered has rfl ▸ voted),
              stored, same]
          · rw [all inserted ok]
        · next missing =>
          have fresh : ¬ (tables world.store).hasVote target height signer :=
            answered has rfl ▸ missing
          rcases ends_bind.mp more with ⟨fault, rfl, failed⟩ | ⟨_, last, _, _, inserted, later, _⟩
          · rcases storeVote_ends discreet kept failed with ⟨impossible, _⟩ | ⟨_, stored⟩
            · cases impossible
            · exact ⟨[], List.nil_prefix, stored.trans same, fun _ impossible => by cases impossible⟩
          · rcases storeVote_ends discreet kept inserted with ⟨_, stored⟩ | ⟨⟨_, impossible⟩, _⟩
            · have cast : tables last.store =
                  Ledger.Tables.cast target height (tables world.store) signer := by
                rw [stored, same, Ledger.Tables.cast, if_neg fresh]
              rcases ends_bind.mp later with ⟨fault, rfl, failed⟩ | ⟨_, _, _, _, others, returned, _⟩
              · obtain ⟨done, first, stored', _⟩ := ih failed
                refine ⟨signer :: done, List.cons_prefix_cons.mpr ⟨rfl, first⟩, ?_,
                  fun _ impossible => by cases impossible⟩
                rw [Ledger.Tables.castAll_cons, stored', cast]
              · obtain ⟨done, first, stored', all⟩ := ih others
                obtain ⟨_, _, rfl⟩ := ends_pure.mp returned
                refine ⟨signer :: done, List.cons_prefix_cons.mpr ⟨rfl, first⟩, ?_, fun _ _ => ?_⟩
                · rw [Ledger.Tables.castAll_cons, stored', cast]
                · rw [all _ rfl]
            · cases impossible

/-!
## Bringing the votes up to date
-/

/-- Of the votes of the chain's signers some are cast, in order, and all of them if nothing fails. -/
theorem reconcileTarget_ends {content : Chain.Content} {withBlockEvents : Bool}
    {result : Except Fault Reconciliation}
    (ending : (reconcileTarget target height).Ends world result trace final)
    (told : ∀ note ∈ trace, note.TellsOf content withBlockEvents) :
    ∃ done, tables final.store = (tables world.store).castAll target height done ∧
      content.IsPart height done ∧
      ∀ reconciliation, result = .ok reconciliation → content.signers? height = some done := by
  rcases ends_bind.mp ending with ⟨fault, rfl, failed⟩ | ⟨commit, asked, first, second, fetched, more,
    rfl⟩
  · refine ⟨[], ?_, .inl rfl, fun _ impossible => by cases impossible⟩
    rw [(ask_ends discreet failed).1]
    rfl
  have toldFirst : ∀ note ∈ first, note.TellsOf content withBlockEvents :=
    fun note member => told note (List.mem_append_left _ member)
  have toldSecond : ∀ note ∈ second, note.TellsOf content withBlockEvents :=
    fun note member => told note (List.mem_append_right _ member)
  obtain ⟨untouched, asking, _, answered⟩ := ask_ends discreet fetched
  have signatures : commit.signatures.filter (·.address ≠ "") = content.signatures height := by
    rcases answered with ⟨_, same, rfl⟩ | ⟨⟨_, impossible⟩, _⟩
    · cases same
      exact toldFirst (.answered (.commit height) commit) (by simp)
    · cases impossible
  rcases ends_bind.mp more with ⟨fault, rfl, failed⟩ | ⟨found, looked, third, fourth, lookedUp, rest,
    rfl⟩
  · refine ⟨[], ?_, .inl rfl, fun _ impossible => by cases impossible⟩
    have same := signers_keeps ((steps_sameStore discreet).parts fun _ => trivial)
      (fun _ _ => trivial) _ failed
    rw [same, untouched]
    rfl
  have same := signers_keeps ((steps_sameStore discreet).parts fun _ => trivial)
    (fun _ _ => trivial) _ lookedUp
  have known : content.signers? height = some found := by
    rw [signatures] at lookedUp
    exact signers_ends discreet lookedUp fun note member =>
      toldSecond note (List.mem_append_left _ member)
  have start : tables looked.store = tables world.store := by rw [same, untouched]
  rcases ends_bind.mp rest with ⟨fault, rfl, failed⟩ | ⟨inserted, voted, fifth, sixth, casting, logging,
    _⟩
  · obtain ⟨done, first, stored, _⟩ := storeVotes_ends discreet kept failed
    exact ⟨done, by rw [stored, start], .inr ⟨found, known, first⟩,
      fun _ impossible => by cases impossible⟩
  · obtain ⟨done, _, stored, all⟩ := storeVotes_ends discreet kept casting
    have last : final = voted := by
      rcases ends_bind.mp logging with ⟨_, _, logged⟩ | ⟨_, _, _, _, logged, returned, _⟩
      · exact (ends_log.mp logged).2.2
      · exact (ends_pure.mp returned).2.2.trans (ends_log.mp logged).2.2
    rw [last, stored, start, all _ rfl]
    exact ⟨found, rfl, .inr ⟨found, known, List.prefix_rfl⟩, fun _ _ => known⟩

theorem reconcile_notes {result : Except Fault Reconciliation}
    (ending : (reconcile height).Ends world result trace final) :
    (∀ other, .reconciled other ∈ trace → ∃ reconciliation, result = .ok reconciliation) ∧
      ∀ reconciliation, result = .ok reconciliation → .reconciled height ∈ trace := by
  have parts := (steps_unreconciled discreet kept).parts (by simp)
  have closing : ∀ {reconciliation : Reconciliation} {world final : World others}
      {result : Except Fault Reconciliation} {trace : Trace},
      (do
        Call.note (.reconciled height)
        return reconciliation : Call (World others) Reconciliation).Ends world result trace final →
      (∃ reconciliation, result = .ok reconciliation) ∧ .reconciled height ∈ trace := by
    intro reconciliation world final result trace ending
    obtain ⟨rest, returned, rfl⟩ := ends_note_bind.mp ending
    obtain ⟨rfl, rfl, _⟩ := ends_pure.mp returned
    exact ⟨⟨_, rfl⟩, List.mem_cons_self⟩
  have whole : ∀ {first second : Trace} {result : Except Fault Reconciliation},
      (∀ note ∈ first, ∀ other, note ≠ .reconciled other) →
      (∃ reconciliation, result = .ok reconciliation) ∧ .reconciled height ∈ second →
      (∀ other, .reconciled other ∈ first ++ second →
        ∃ reconciliation, result = .ok reconciliation) ∧
        ∀ reconciliation, result = .ok reconciliation → .reconciled height ∈ first ++ second :=
    fun _ closed => ⟨fun _ _ => closed.1, fun _ _ => List.mem_append_right _ closed.2⟩
  rcases ends_bind.mp ending with ⟨fault, rfl, failed⟩ | ⟨found, middle, first, second, looked, more,
    rfl⟩
  · have silent := target_keeps parts (fun _ _ => trivial) failed
    exact ⟨fun other member => absurd rfl (silent _ member other),
      fun _ impossible => by cases impossible⟩
  have silent := target_keeps parts (fun _ _ => trivial) looked
  cases found with
  | none => exact whole silent (closing more)
  | some target =>
      rcases ends_bind.mp more with ⟨fault, rfl, failed⟩ | ⟨reconciliation, last, third, fourth, came,
        ended, rfl⟩
      · have silent' := reconcileTarget_keeps parts (fun _ _ => trivial) (fun _ _ => trivial)
          target failed
        refine ⟨fun other member => ?_, fun _ impossible => by cases impossible⟩
        rcases List.mem_append.mp member with earlier | later
        · exact absurd rfl (silent _ earlier other)
        · exact absurd rfl (silent' _ later other)
      · have silent' := reconcileTarget_keeps parts (fun _ _ => trivial) (fun _ _ => trivial)
          target came
        rw [← List.append_assoc]
        refine whole (fun note member => ?_) (closing ended)
        rcases List.mem_append.mp member with earlier | later
        · exact silent note earlier
        · exact silent' note later

/-- The target is looked up, and then votes on it are cast, all of them if nothing fails. -/
theorem reconcile_ends {content : Chain.Content} {withBlockEvents : Bool}
    {result : Except Fault Reconciliation}
    (ending : (reconcile height).Ends world result trace final)
    (told : ∀ note ∈ trace, note.TellsOf content withBlockEvents)
    (firm : ∀ note ∈ trace, note.IsFirm) :
    ∃ done, tables final.store = (tables world.store).voted height done ∧
      content.IsPart height done ∧
      (∀ reconciliation, result = .ok reconciliation →
        (tables world.store).target? height = none ∨ content.signers? height = some done) ∧
      ∃ quiet rest : Trace, trace = quiet ++ .recorded (.proposalCreatedAt height) true :: rest ∧
        (∀ note ∈ quiet, note.isOutside) ∧ ∀ note ∈ rest, ¬ note.IsLookup := by
  have parts := (steps_unasked discreet kept).parts fun _ => id
  have casts (operation : Ledger.Operation) (casting : operation.IsCastingAt height) :=
    (Ledger.Operation.casting_keeps_to_votes casting).2
  rcases ends_bind.mp ending with ⟨fault, rfl, failed⟩ | ⟨found, middle, first, second, looked, more,
    rfl⟩
  · cases (target_ends discreet kept failed firm).1
  have firmFirst : ∀ note ∈ first, note.IsFirm :=
    fun note member => firm note (List.mem_append_left _ member)
  obtain ⟨same, untouched, quiet, rest, rfl, allQuiet, noMore⟩ :=
    target_ends discreet kept looked firmFirst
  -- Only the first operation begins to look a target up, whatever comes behind it.
  have joined : ∀ {tail : Trace}, (∀ note ∈ tail, ¬ note.IsLookup) →
      ∃ quiet' rest' : Trace, quiet ++ .recorded (.proposalCreatedAt height) true :: rest ++ tail =
          quiet' ++ .recorded (.proposalCreatedAt height) true :: rest' ∧
        (∀ note ∈ quiet', note.isOutside) ∧ ∀ note ∈ rest', ¬ note.IsLookup := by
    intro tail none
    refine ⟨quiet, rest ++ tail, by simp, allQuiet, fun note member => ?_⟩
    rcases List.mem_append.mp member with earlier | later
    · exact noMore note earlier
    · exact none note later
  cases Except.ok.inj same
  unfold Ledger.Tables.voted
  cases decided : (tables world.store).target? height with
  | none =>
      rw [decided] at more
      obtain ⟨tail, returned, rfl⟩ := ends_note_bind.mp (ends_pure_bind.mp more)
      obtain ⟨_, rfl, rfl⟩ := ends_pure.mp returned
      exact ⟨[], untouched, .inl rfl, fun _ _ => .inl rfl, joined (by simp [Note.IsLookup])⟩
  | some target =>
      rw [decided] at more
      have told' : ∀ note ∈ second, note.TellsOf content withBlockEvents :=
        fun note member => told note (List.mem_append_right _ member)
      rcases ends_bind.mp more with ⟨fault, rfl, failed⟩ | ⟨reconciliation, last, third, fourth, came,
        ended, rfl⟩
      · obtain ⟨done, stored, partly, _⟩ := reconcileTarget_ends discreet kept failed told'
        rw [untouched] at stored
        refine ⟨done, stored, partly, ?_, joined (reconcileTarget_keeps parts casts
          (fun _ _ => trivial) target failed)⟩
        exact fun _ impossible => by cases impossible
      · obtain ⟨done, stored, partly, all⟩ := reconcileTarget_ends discreet kept came
          fun note member => told' note (List.mem_append_left _ member)
        rw [untouched] at stored
        obtain ⟨tail, returned, rfl⟩ := ends_note_bind.mp ended
        obtain ⟨_, rfl, rfl⟩ := ends_pure.mp returned
        have silent := reconcileTarget_keeps parts casts (fun _ _ => trivial) target came
        refine ⟨done, stored, partly, fun _ _ => .inr (all _ rfl), joined fun note member => ?_⟩
        rcases List.mem_append.mp member with earlier | last
        · exact silent note earlier
        · rw [List.mem_singleton.mp last]
          exact id

end World

namespace Loop

variable {others : Collaborators} (discreet : others.Discreet)
  {tables : others.Store → Ledger.Tables} (kept : others.books.KeptIn tables)

include discreet kept

variable {options : FollowOptions} {height : Height} {world final : World others} {trace : Trace}
  {result : Except Fault Unit}

/-!
## The whole pass
-/

omit discreet kept in
/-- A pass fetches the block, dispatches its events, brings the votes up to date and saves the
height, as far as it comes. -/
theorem process_ends (ending : (process options height).Ends world result trace final) :
    (∃ fault, result = .error fault ∧
      (World.ask (.blockResults height)).Ends world (.error fault) trace final) ∨
    (∃ results fetched asking dispatching, result = .error .wordless ∧
      (World.ask (.blockResults height)).Ends world (.ok results) asking fetched ∧
      (dispatchAll height (results.events options.withBlockEvents) 0).Ends fetched
        (.error .wordless) dispatching final ∧ trace = asking ++ dispatching) ∨
    ∃ results fetched asking handled dispatched dispatching rest,
      (World.ask (.blockResults height)).Ends world (.ok results) asking fetched ∧
      (dispatchAll height (results.events options.withBlockEvents) 0).Ends fetched (.ok handled)
        dispatching dispatched ∧ trace = asking ++ (dispatching ++ rest) ∧
      ((∃ fault, result = .error fault ∧
          (World.reconcile height).Ends dispatched (.error fault) rest final) ∨
        ∃ votes reconciling reconciled saving logging,
          (World.reconcile height).Ends dispatched (.ok votes) reconciling reconciled ∧
          (World.record (.saveProgress options.progressId height)).Ends reconciled result saving
            final ∧ rest = reconciling ++ (saving ++ logging) ∧
          ∀ note ∈ logging, ∃ line, note = .logged line) := by
  rcases ends_bind.mp ending with ⟨fault, rfl, failed⟩ | ⟨results, fetched, asking, second, asked, more,
    rfl⟩
  · exact .inl ⟨fault, rfl, failed⟩
  rcases ends_bind.mp more with ⟨fault, rfl, failed⟩ | ⟨handled, dispatched, dispatching, rest, done,
    more', rfl⟩
  · obtain ⟨_, _, _, _, rfl, -⟩ := World.dispatchAll_fails failed
    exact .inr (.inl ⟨results, fetched, asking, second, rfl, asked, failed, rfl⟩)
  refine .inr (.inr ⟨results, fetched, asking, handled, dispatched, dispatching, rest, asked, done, rfl, ?_⟩)
  rcases ends_bind.mp more' with ⟨fault, rfl, failed⟩ | ⟨votes, reconciled, reconciling, fourth, came,
    saving, rfl⟩
  · exact .inl ⟨fault, rfl, failed⟩
  rcases ends_bind.mp saving with ⟨fault, rfl, failed⟩ | ⟨_, last, saving', logging, saved, logged, rfl⟩
  · exact .inr ⟨votes, reconciling, reconciled, fourth, [], came, failed, by simp, by simp⟩
  have closing : result = .ok () ∧ final = last ∧ ∀ note ∈ logging, ∃ line, note = .logged line := by
    split at logged <;>
    · obtain ⟨rfl, rfl, rfl⟩ := ends_log.mp logged
      exact ⟨rfl, rfl, by simp⟩
  obtain ⟨rfl, rfl, lines⟩ := closing
  exact .inr ⟨votes, reconciling, reconciled, saving', logging, came, saved, rfl, lines⟩

theorem process_notes (ending : (process options height).Ends world result trace final) :
    ∀ note ∈ trace, note.IsOfPass options height := by
  have steps := World.steps_noting discreet kept (Note.IsOfPass options height)
    (Ledger.Operation.IsOfPass options height)
    (fun question => question = .blockResults height ∨ question.IsVotingAt height)
    (fun note outside => by cases note <;> simp_all [Note.isOutside, Note.IsOfPass])
    (fun _ => trivial) (fun _ at_height _ => at_height)
    (fun _ at_height => ⟨at_height, fun _ => at_height⟩)
  exact World.process_keeps steps (fun _ => trivial) (fun _ may => may) (.inl rfl)
    (fun _ => .inr) (fun _ _ _ _ => rfl) rfl ending

theorem process_replays (ending : (process options height).Ends world result trace final) :
    Replays tables world trace final :=
  World.process_keeps (World.steps_replays discreet kept) Note.undone_of_logged (fun _ _ => trivial)
    trivial (fun _ _ => trivial) (by simp [Note.IsUndone]) (by simp [Note.IsUndone]) ending

theorem steps_unsaved : World.Steps
    (Keeping (Noting fun note => ¬ note.IsSave : World others → Trace → World others → Prop))
    (fun operation => ¬ operation.IsSave) (fun _ => True) (fun note => ¬ note.IsSave) :=
  World.steps_noting discreet kept _ _ _ (fun _ => Note.not_save_of_outside) (fun _ => id)
    (fun _ => Note.not_save_of_recorded) fun _ _ => ⟨id, fun _ => id⟩

theorem dispatchAll_unsaved (events : List Event) (ordinal : Nat) :
    Keeping (Noting fun note => ¬ note.IsSave)
      (dispatchAll height events ordinal : Call (World others) Nat) :=
  World.dispatchAll_keeps (steps_unsaved discreet kept) (fun _ => id)
    (fun _ handlers => (Ledger.Operation.handlers_keep_to_events handlers).1)
    (fun _ _ _ _ => id) events ordinal

theorem reconcile_unsaved : Keeping (Noting fun note => ¬ note.IsSave)
    (World.reconcile height : Call (World others) Reconciliation) :=
  World.reconcile_keeps ((steps_unsaved discreet kept).parts fun _ => id)
    (fun _ casting => (Ledger.Operation.casting_keeps_to_votes casting).1)
    (fun _ => Ledger.Operation.not_save_of_lookup) (fun _ _ => trivial)
    ((steps_unsaved discreet kept).note _ id)

/-- What a pass notes that saves its height: its block is fetched, the events of the block are
dispatched, and the votes are brought up to date. -/
inductive SavingPass (others : Collaborators) (options : FollowOptions) (height : Height) :
    Trace → Prop where
  | mk {asking dispatching reconciling quiet logging : Trace} {results : Chain.BlockResults}
      {fetched dispatched reconciled : World others} {handled : Nat} {votes : Reconciliation}
      (asked : ∀ note ∈ asking, note.isOutside ∨ note = .asked (.blockResults height))
      (done : (dispatchAll height (results.events options.withBlockEvents) 0).Ends fetched
        (.ok handled) dispatching dispatched)
      (came : (World.reconcile height).Ends dispatched (.ok votes) reconciling reconciled)
      (allQuiet : ∀ note ∈ quiet, note.isOutside) (logged : ∀ note ∈ logging, note.isOutside) :
      SavingPass others options height (asking ++ .answered (.blockResults height) results ::
        (dispatching ++ (reconciling ++ (quiet ++
          .recorded (.saveProgress options.progressId height) true :: logging))))

/-- A pass saves its height if it ends well, and else saves nothing. -/
theorem process_saves (ending : (process options height).Ends world result trace final) :
    ((∃ fault, result = .error fault) ∧ ∀ note ∈ trace, ¬ note.IsSave) ∨
      result = .ok () ∧ SavingPass others options height trace := by
  rcases process_ends ending with ⟨fault, rfl, failed⟩ | ⟨_, _, _, _, rfl, asked, failed, rfl⟩ |
    ⟨results, fetched, asking, handled, dispatched, dispatching, rest, asked, done, rfl, ended⟩
  · exact .inl ⟨⟨fault, rfl⟩, (steps_unsaved discreet kept).ask _ trivial failed⟩
  · exact .inl ⟨⟨_, rfl⟩, List.forall_mem_append.mpr
      ⟨(steps_unsaved discreet kept).ask _ trivial asked,
        dispatchAll_unsaved discreet kept _ _ failed⟩⟩
  have unsaved := (steps_unsaved discreet kept).ask _ trivial asked
  have unsaved' := dispatchAll_unsaved discreet kept _ _ done
  rcases ended with ⟨fault, rfl, failed⟩ | ⟨votes, reconciling, reconciled, saving, logging, came, saved,
    rfl, lines⟩
  · exact .inl ⟨⟨fault, rfl⟩, List.forall_mem_append.mpr
      ⟨unsaved, List.forall_mem_append.mpr
        ⟨unsaved', reconcile_unsaved discreet kept failed⟩⟩⟩
  have logged : ∀ note ∈ logging, note.isOutside := by
    intro note member
    obtain ⟨line, rfl⟩ := lines note member
    rfl
  obtain ⟨quiet, allQuiet, ⟨rfl, _, rfl⟩ | ⟨⟨fault, rfl⟩, _, rfl⟩⟩ :=
    World.record_ends discreet kept saved
  · obtain ⟨_, ask, quietly, ⟨_, same, rfl⟩ | ⟨⟨_, impossible⟩, _⟩⟩ := World.ask_ends discreet asked
    · cases same
      refine .inr ⟨rfl, ?_⟩
      rw [List.append_assoc, List.append_assoc]
      exact .mk quietly done came allQuiet logged
    · cases impossible
  · refine .inl ⟨⟨fault, rfl⟩, ?_⟩
    simp only [List.forall_mem_append, List.forall_mem_singleton]
    exact ⟨unsaved, unsaved', reconcile_unsaved discreet kept came,
      ⟨fun note member => Note.not_save_of_outside (allQuiet note member), id⟩,
      fun note member => Note.not_save_of_outside (logged note member)⟩

/-- Before the height is saved each event of its block is dispatched once, in order, and the votes
are brought up to date. Nothing else is saved. -/
theorem SavingPass.split (saving : SavingPass others options height trace) :
    ∃ (asking pass logging : Trace) (results : Chain.BlockResults),
      trace = asking ++ .answered (.blockResults height) results ::
        (pass ++ .recorded (.saveProgress options.progressId height) true :: logging) ∧
      pass.dispatches = ((results.events options.withBlockEvents).zipIdx).map
        (fun (event, place) => (event.type, height, .ofNat place, event)) ∧
      .reconciled height ∈ pass ∧ (∀ note ∈ asking, ¬ note.IsSave) ∧
      (∀ note ∈ pass, ¬ note.IsSave) ∧ ∀ note ∈ logging, ¬ note.IsSave := by
  have undispatched := World.steps_noting discreet kept (fun note => ¬ note.IsDispatch)
    (fun _ => True) (fun _ => True) (fun _ => Note.not_dispatch_of_outside) (fun _ => id)
    (fun _ _ _ => id) (fun _ _ => ⟨id, fun _ => id⟩)
  obtain ⟨asked, done, came, allQuiet, logged⟩ := saving
  rename_i asking dispatching reconciling quiet logging results _ _ _ _ _
  refine ⟨asking, dispatching ++ (reconciling ++ quiet), logging, results, by simp, ?_, ?_, ?_, ?_,
    fun note member => Note.not_save_of_outside (logged note member)⟩
  · have each := World.dispatchAll_dispatches discreet kept done
    have silent := Trace.dispatches_eq_nil (World.reconcile_keeps
      (undispatched.parts fun _ => id) (fun _ _ => trivial) (fun _ _ => trivial)
      (fun _ _ => trivial) (undispatched.note _ id) came)
    have silent' := Trace.dispatches_eq_nil fun note member =>
      Note.not_dispatch_of_outside (allQuiet note member)
    rw [Trace.dispatches_append, Trace.dispatches_append, silent, silent', each]
    exact List.append_nil _
  · have noted := (World.reconcile_notes discreet kept came).2 _ rfl
    simp [noted]
  · intro note member
    rcases asked note member with outside | rfl
    · exact Note.not_save_of_outside outside
    · exact id
  · simp only [List.forall_mem_append]
    exact ⟨dispatchAll_unsaved discreet kept _ _ done, reconcile_unsaved discreet kept came, fun note member => Note.not_save_of_outside (allQuiet note member)⟩

/-- What a pass over a height of a chain comes to. -/
inductive Pass (content : Chain.Content) (options : FollowOptions) (height : Height)
    (start : Ledger.Tables) : Except Fault Unit → Trace → Ledger.Tables → Prop where
  /-- The block is not fetched, and nothing is done. -/
  | unfetched {fault : Fault} {trace : Trace} (unasked : ∀ note ∈ trace, ¬ note.IsLookup)
      (unreconciled : ∀ other, .reconciled other ∉ trace) :
      Pass content options height start (.error fault) trace start
  /-- The block is absorbed and some of the votes are cast. -/
  | begun {absorbed final : Ledger.Tables} {result : Except Fault Unit} {before after : Trace}
      {done : List Signer}
      (absorbs : absorbed =
        start.absorbAll height (content.events options.withBlockEvents height) 0)
      (replayed : start.replay before.operations = absorbed)
      (earlier : ∀ note ∈ before, ¬ note.IsLookup) (later : ∀ note ∈ after, ¬ note.IsLookup)
      (unreconciled : ∀ other, .reconciled other ∉ before)
      (partly : content.IsPart height done)
      (ended : (∃ fault, result = .error fault) ∧ final = absorbed.voted height done ∧
          ((∃ other, .reconciled other ∈ after) → content.IsComplete height absorbed done) ∨
        result = .ok () ∧ content.IsComplete height absorbed done ∧
          final = (absorbed.voted height done).advance options.progressId height) :
      Pass content options height start result
        (before ++ .recorded (.proposalCreatedAt height) true :: after) final

/-- How far a pass has come when the events of its block have been dispatched. -/
structure Absorbed (content : Chain.Content) (options : FollowOptions) (height : Height)
    (start absorbed : Ledger.Tables) (trace : Trace) : Prop where
  absorbs : absorbed =
    start.absorbAll height (content.events options.withBlockEvents height) 0
  replayed : start.replay trace.operations = absorbed
  unasked : ∀ note ∈ trace, ¬ note.IsLookup
  unreconciled : ∀ other, .reconciled other ∉ trace

omit discreet kept in
theorem Absorbed.append {content : Chain.Content} {start absorbed : Ledger.Tables} {quiet : Trace}
    (whole : Absorbed content options height start absorbed trace)
    (allQuiet : ∀ note ∈ quiet, note.isOutside) :
    Absorbed content options height start absorbed (trace ++ quiet) where
  absorbs := whole.absorbs
  replayed := by
    rw [Trace.operations_append, Trace.operations_of_quiet allQuiet, List.append_nil, whole.replayed]
  unasked := List.forall_mem_append.mpr
    ⟨whole.unasked, fun note member => Note.not_lookup_of_outside (allQuiet note member)⟩
  unreconciled other member := by
    obtain before | quietly := List.mem_append.mp member
    · exact whole.unreconciled other before
    · exact Note.not_reconciled_of_outside (allQuiet _ quietly) other rfl

/-- The block that a node tells of is absorbed before any vote is looked at. -/
theorem absorbed_of_dispatched {content : Chain.Content} {results : Chain.BlockResults}
    {fetched : World others} {asking dispatching : Trace} {handled : Nat}
    (asked : (World.ask (.blockResults height)).Ends world (.ok results) asking fetched)
    (done : (dispatchAll height (results.events options.withBlockEvents) 0).Ends fetched (.ok handled)
      dispatching final)
    (told : ∀ note ∈ asking, note.TellsOf content options.withBlockEvents)
    (firm : ∀ note ∈ dispatching, note.IsFirm) :
    Absorbed content options height (tables world.store) (tables final.store)
      (asking ++ dispatching) := by
  have steps := World.steps_unasked discreet kept
  have unreconciled := World.steps_unreconciled discreet kept
  obtain ⟨untouched, ask, _, ⟨_, same, asked'⟩ | ⟨⟨_, impossible⟩, _⟩⟩ :=
    World.ask_ends discreet asked
  swap
  · cases impossible
  cases same
  have events : results.events options.withBlockEvents =
      content.events options.withBlockEvents height :=
    told (.answered (.blockResults height) results) (by simp [asked'])
  constructor
  case absorbs =>
    have absorbs := (World.dispatchAll_ends discreet kept done firm).1
    rwa [untouched, events] at absorbs
  case replayed =>
    have first := (World.steps_replays discreet kept).ask _ trivial asked
    have second := World.dispatchAll_keeps (World.steps_replays discreet kept) Note.undone_of_logged
      (fun _ _ => trivial) (by simp [Note.IsUndone]) _ _ done
    rw [Trace.operations_append, Ledger.Tables.replay_append, ← first]
    exact second.symm
  case unasked =>
    rw [List.forall_mem_append]
    exact ⟨steps.ask _ trivial asked, World.dispatchAll_keeps steps (fun _ => id)
      (fun _ handlers => (Ledger.Operation.handlers_keep_to_events handlers).2)
      (fun _ _ _ _ => id) _ _ done⟩
  case unreconciled =>
    intro other member
    obtain first | second := List.mem_append.mp member
    · exact unreconciled.ask _ trivial asked _ first other rfl
    · exact World.dispatchAll_keeps unreconciled (by simp) (fun _ _ => trivial) (by simp) _ _ done _
        second other rfl

/-- A pass over a height of a chain, where no handler's operation is refused. -/
theorem process_pass {content : Chain.Content}
    (ending : (process options height).Ends world result trace final)
    (told : ∀ note ∈ trace, note.TellsOf content options.withBlockEvents)
    (firm : ∀ note ∈ trace, note.IsFirm) :
    Pass content options height (tables world.store) result trace (tables final.store) := by
  have steps := World.steps_unasked discreet kept
  rcases process_ends ending with ⟨fault, rfl, failed⟩ | ⟨_, _, _, _, rfl, asked, failed, rfl⟩ |
    ⟨results, fetched, asking, handled, dispatched, dispatching, rest, asked, done, rfl, ended⟩
  · have unreconciled := (World.steps_unreconciled discreet kept).ask _ trivial failed
    rw [(World.ask_ends discreet failed).1]
    exact .unfetched (steps.ask _ trivial failed)
      fun other member => unreconciled _ member other rfl
  · obtain ⟨_, impossible⟩ := World.dispatchAll_succeeds failed fun note member =>
      firm note (List.mem_append_right _ member)
    cases impossible
  have absorbed := absorbed_of_dispatched discreet kept asked done
    (fun note member => told note (List.mem_append_left _ member))
    (fun note member => firm note (by simp [member]))
  rw [← List.append_assoc]
  -- Whatever follows, all but the votes and the saved height is settled by now.
  rcases ended with ⟨fault, rfl, failed⟩ | ⟨votes, reconciling, reconciled, saving, logging, came, saved,
    rfl, lines⟩
  · obtain ⟨cast, stored, partly, _, quiet, after, rfl, allQuiet, later⟩ :=
      World.reconcile_ends discreet kept failed (fun note member => told note (by simp [member]))
        fun note member => firm note (by simp [member])
    have begun := absorbed.append allQuiet
    rw [← List.append_assoc]
    refine .begun begun.absorbs begun.replayed begun.unasked later begun.unreconciled partly
      (.inl ⟨⟨fault, rfl⟩, stored, ?_⟩)
    rintro ⟨other, member⟩
    obtain ⟨_, impossible⟩ :=
      (World.reconcile_notes discreet kept failed).1 other (by simp [member])
    cases impossible
  · obtain ⟨cast, stored, partly, complete, quiet, after, rfl, allQuiet, later⟩ :=
      World.reconcile_ends discreet kept came (fun note member => told note (by simp [member]))
        fun note member => firm note (by simp [member])
    have begun := absorbed.append allQuiet
    have later' : ∀ note ∈ after ++ (saving ++ logging), ¬ note.IsLookup := by
      rw [List.forall_mem_append, List.forall_mem_append]
      refine ⟨later, steps.record _ id saved, fun note member => ?_⟩
      obtain ⟨line, rfl⟩ := lines note member
      exact id
    rw [List.append_assoc quiet, List.cons_append, ← List.append_assoc]
    refine .begun begun.absorbs begun.replayed begun.unasked later' begun.unreconciled partly ?_
    obtain ⟨_, _, ⟨rfl, advanced, _⟩ | ⟨failed, same, _⟩⟩ := World.record_ends discreet kept saved
    · exact .inr ⟨rfl, complete _ rfl, stored ▸ advanced⟩
    · exact .inl ⟨failed, same.trans stored, fun _ => complete _ rfl⟩

end Loop

end RollCall
