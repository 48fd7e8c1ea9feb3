import RollCall.Inspect
import RollCall.Proofs.Grammar
import RollCall.Proofs.InMemory

/-!
# Which numbers commands hand on

Which arguments spell a command is set down here without the parser, and each number in it by what
the digits denote. Arguments that spell none are refused before anything is asked. A number that is
typed is handed on as the nearest binary64 number: that is the number itself just if it has at most
53 bits but for zeros behind them, as all numbers below `2 ^ 53` have.
-/

set_option autoImplicit false

namespace RollCall.Inspect

/-!
## Commands and their arguments
-/

/-- A number that is typed is handed on as the nearest binary64 number. -/
def Typed (argument : Option String) (number : Number) : Prop :=
  ∃ text value, argument = some text ∧ Number.InDigits text value ∧
    number = .nearest (value : Rat)

/-- A number that may be left out. -/
def TypedOr (default : Number) (argument : Option String) (number : Number) : Prop :=
  (argument = none ∧ number = default) ∨ Typed argument number

/-- The command that arguments spell. -/
inductive Spells : List String → Command → Prop
  | progress (rest : List String) : Spells ("progress" :: rest) .progress
  | proposals {rest : List String} {page size : Number} (atPage : TypedOr 0 rest[0]? page)
      (ofSize : TypedOr 20 rest[1]? size) :
      Spells ("proposals" :: rest) (.query (.proposals page size rest[2]?))
  | proposal {rest : List String} {id : Number} (typed : Typed rest[0]? id) :
      Spells ("proposal" :: rest) (.query (.proposal id))
  | discussions {rest : List String} {proposal page size : Number}
      (typed : Typed rest[0]? proposal) (atPage : TypedOr 0 rest[1]? page)
      (ofSize : TypedOr 20 rest[2]? size) :
      Spells ("discussions" :: rest) (.query (.discussions proposal page size))
  | grants {rest : List String} {page size : Number} (atPage : TypedOr 0 rest[0]? page)
      (ofSize : TypedOr 20 rest[1]? size) :
      Spells ("grants" :: rest) (.query (.grants page size))
  | grant {rest : List String} {validator : Number} (typed : Typed rest[0]? validator) :
      Spells ("grant" :: rest) (.query (.grant validator))
  | proposalVotes {rest : List String} {proposal page size : Number}
      (typed : Typed rest[0]? proposal) (atPage : TypedOr 0 rest[1]? page)
      (ofSize : TypedOr 20 rest[2]? size) :
      Spells ("proposal-votes" :: rest) (.query (.proposalVotes (.proposal proposal) page size))
  | grantVotes {rest : List String} {validator page size : Number}
      (typed : Typed rest[0]? validator) (atPage : TypedOr 0 rest[1]? page)
      (ofSize : TypedOr 20 rest[2]? size) :
      Spells ("grant-votes" :: rest) (.query (.grantVotes (.grant validator) page size))
  | validator {rest : List String} {id : Number} (typed : Typed rest[0]? id) :
      Spells ("validator" :: rest) (.query (.validator id))
  | adviseProposal {rest : List String} {proposal : Number} {voter : String}
      (typed : Typed rest[0]? proposal) (named : rest[1]? = some voter) (nonempty : voter ≠ "") :
      Spells ("advise-proposal" :: rest) (.adviseProposal proposal voter)
  | adviseGrant {rest : List String} {validator : Number} (typed : Typed rest[0]? validator) :
      Spells ("advise-grant" :: rest) (.adviseGrant validator (rest[1]?.getD ""))

private theorem number_eq_ok_iff {argument : Option String} {name : String}
    {default : Option Number} {result : Number} :
    number argument name default = .ok result ↔
      (argument = none ∧ default = some result) ∨ Typed argument result := by
  unfold number Typed
  cases argument with
  | none => cases default <;> simp
  | some text =>
      simp only [reduceCtorEq, false_and, false_or]
      split
      case isTrue isDigits =>
        obtain ⟨nonempty, digits⟩ := Number.isDigits_iff.mp isDigits
        rw [Number.ofDigits_eq_nearest, Number.digitsValue_eq digits]
        constructor
        · intro same
          exact ⟨text, _, rfl, ⟨nonempty, digits, rfl⟩, (Except.ok.inj same).symm⟩
        · rintro ⟨_, _, ⟨⟩, spelled, rfl⟩
          rw [spelled.denoted]
      case isFalse other =>
        refine ⟨nofun, ?_⟩
        rintro ⟨_, _, ⟨⟩, spelled, _⟩
        exact absurd (Number.isDigits_iff.mpr ⟨spelled.nonempty, spelled.digits⟩) other

theorem number_ok_iff {argument : Option String} {name : String} {result : Number} :
    number argument name = .ok result ↔ Typed argument result := by
  simp [number_eq_ok_iff]

theorem number_or_ok_iff {argument : Option String} {name : String} {default result : Number} :
    number argument name (some default) = .ok result ↔ TypedOr default argument result := by
  rw [number_eq_ok_iff, Option.some_inj, TypedOr, @eq_comm _ default]

theorem Spells.of_parse {arguments : List String} {command : Command}
    (parsed : Command.parse arguments = .ok command) : Spells arguments command := by
  cases arguments with
  | nil => cases parsed
  | cons name rest =>
      simp only [Command.parse, List.head?_cons, Option.getD_some, List.getElem?_cons_succ]
        at parsed
      split at parsed
      case h_12 => cases parsed
      case h_13 => cases parsed
      all_goals
        simp only [bind_ok_iff, pure_ok_iff, number_ok_iff, number_or_ok_iff] at parsed
      case h_1 => exact parsed ▸ .progress rest
      case h_2 =>
        obtain ⟨page, atPage, size, ofSize, rfl⟩ := parsed
        exact .proposals atPage ofSize
      case h_3 =>
        obtain ⟨id, typed, rfl⟩ := parsed
        exact .proposal typed
      case h_4 =>
        obtain ⟨proposal, typed, page, atPage, size, ofSize, rfl⟩ := parsed
        exact .discussions typed atPage ofSize
      case h_5 =>
        obtain ⟨page, atPage, size, ofSize, rfl⟩ := parsed
        exact .grants atPage ofSize
      case h_6 =>
        obtain ⟨validator, typed, rfl⟩ := parsed
        exact .grant typed
      case h_7 =>
        obtain ⟨proposal, typed, page, atPage, size, ofSize, rfl⟩ := parsed
        exact .proposalVotes typed atPage ofSize
      case h_8 =>
        obtain ⟨validator, typed, page, atPage, size, ofSize, rfl⟩ := parsed
        exact .grantVotes typed atPage ofSize
      case h_9 =>
        obtain ⟨id, typed, rfl⟩ := parsed
        exact .validator typed
      case h_10 =>
        obtain ⟨proposal, typed, named⟩ := parsed
        cases given : rest[1]? with
        | none => rw [given] at named; cases named
        | some voter =>
            rw [given, Option.getD_some] at named
            split at named
            case h_1 => cases named
            case h_2 nonempty =>
              cases named
              exact .adviseProposal typed given nonempty
      case h_11 =>
        obtain ⟨validator, typed, rfl⟩ := parsed
        exact .adviseGrant typed

theorem Spells.parse {arguments : List String} {command : Command}
    (spells : Spells arguments command) : Command.parse arguments = .ok command := by
  cases spells with
  | progress rest => rfl
  | proposals atPage ofSize | grants atPage ofSize =>
      exact bind_ok_iff.mpr ⟨_, number_or_ok_iff.mpr atPage,
        bind_ok_iff.mpr ⟨_, number_or_ok_iff.mpr ofSize, rfl⟩⟩
  | proposal typed | grant typed | validator typed | adviseGrant typed =>
      exact bind_ok_iff.mpr ⟨_, number_ok_iff.mpr typed, rfl⟩
  | discussions typed atPage ofSize | proposalVotes typed atPage ofSize
  | grantVotes typed atPage ofSize =>
      exact bind_ok_iff.mpr ⟨_, number_ok_iff.mpr typed, bind_ok_iff.mpr ⟨_,
        number_or_ok_iff.mpr atPage, bind_ok_iff.mpr ⟨_, number_or_ok_iff.mpr ofSize, rfl⟩⟩⟩
  | adviseProposal typed named nonempty =>
      refine bind_ok_iff.mpr ⟨_, number_ok_iff.mpr typed, ?_⟩
      simp only [List.getElem?_cons_succ, named, Option.getD_some]
      rfl

/-!
## What is refused
-/

/-- Whatever is wrong is told as wrong usage. -/
def Explains {α : Type} (answer : Except Fault α) : Prop :=
  ∀ fault, answer = .error fault → ∃ message, fault = .usage message

section Explains

variable {α β : Type}

theorem explains_ok (value : α) : Explains (.ok value) := nofun

theorem explains_usage (message : String) :
    Explains (.error (.usage message) : Except Fault α) := by
  rintro _ ⟨⟩
  exact ⟨message, rfl⟩

theorem explains_bind {answer : Except Fault α} {next : α → Except Fault β}
    (first : Explains answer) (rest : ∀ value, Explains (next value)) :
    Explains (answer >>= next) := by
  cases answer with
  | error fault =>
      rintro _ ⟨⟩
      exact first fault rfl
  | ok value => exact rest value

end Explains

theorem explains_number (argument : Option String) (name : String) (default : Option Number) :
    Explains (number argument name default) := by
  unfold number
  cases argument with
  | none =>
      cases default with
      | none => exact explains_usage _
      | some value => exact explains_ok _
  | some text =>
      dsimp only
      split
      case isTrue => exact explains_ok _
      case isFalse => exact explains_usage _

theorem explains_parse (arguments : List String) : Explains (Command.parse arguments) := by
  unfold Command.parse
  split
  case h_1 => exact explains_ok _
  case h_2 | h_5 =>
    exact explains_bind (explains_number _ _ _) fun _ => explains_bind (explains_number _ _ _)
      fun _ => explains_ok _
  case h_3 | h_6 | h_9 | h_11 =>
    exact explains_bind (explains_number _ _ _) fun _ => explains_ok _
  case h_4 | h_7 | h_8 =>
    exact explains_bind (explains_number _ _ _) fun _ => explains_bind (explains_number _ _ _)
      fun _ => explains_bind (explains_number _ _ _) fun _ => explains_ok _
  case h_10 =>
    refine explains_bind (explains_number _ _ _) fun _ => ?_
    split
    case h_1 => exact explains_usage _
    case h_2 => exact explains_ok _
  case h_12 | h_13 => exact explains_usage _

/-!
## What is handed on
-/

/-- What a command asks of the ledger, if anything. -/
def Command.operation? (progressId : String) : Command → Option Ledger.Operation
  | .progress => some (.progress progressId)
  | .query .progress => some (.progress progressId)
  | .query (.proposals page size proposer) =>
      some (.proposals (PageRequest.clamp page size).window proposer)
  | .query (.proposal id) => some (.proposal id)
  | .query (.discussions proposal page size) =>
      some (.discussions proposal (PageRequest.clamp page size).window)
  | .query (.grants page size) => some (.grants (PageRequest.clamp page size).window)
  | .query (.grant validator) => some (.grant validator)
  | .query (.proposalVotes filter page size) =>
      some (.proposalVotes filter (PageRequest.clamp page size).window)
  | .query (.grantVotes filter page size) =>
      some (.grantVotes filter (PageRequest.clamp page size).window)
  | .query (.validator id) => some (.validator id)
  | .adviseProposal _ _ => none
  | .adviseGrant validator _ => some (.grant validator)

/-- What a command tells the advisory agent. What is told of a grant is what the ledger keeps of
it. -/
inductive Command.Tells : Command → Advice.Request → Prop
  | proposal (id : Number) (voter : String) :
      Tells (.adviseProposal id voter) (.recommendProposalVote id voter)
  | grant (validator : Number) (statement : String) (grant : Ledger.Grant) :
      Tells (.adviseGrant validator statement)
        (.recommendGrantVote grant.id grant.proposerAddress grant.stake statement)

/-- What a command may leave behind. -/
def Command.Notes (progressId : String) (command : Command) : Note → Prop
  | .recorded operation _ => command.operation? progressId = some operation
  | .consulted request => command.Tells request
  | note => note.isOutside

section Notes

open Call

variable {others : Collaborators} (discreet : others.Discreet) {allowed : Note → Prop}
  (quiet : ∀ note : Note, note.isOutside → allowed note)

include discreet quiet

theorem record_notes {operation : Ledger.Operation}
    (asked : ∀ succeeded, allowed (.recorded operation succeeded)) :
    Keeps (Noting allowed) (World.record operation : Call (World others) _) := by
  have books := Noting.mono (discreet.books operation) quiet
  refine Noting.bind (Keeps.attempt (Noting.inside books)) fun result => ?_
  exact Noting.bind (Noting.note (asked _)) fun _ =>
    Keeps.ofExcept Noting.chaining result

theorem consult_notes {request : Advice.Request} (told : allowed (.consulted request)) :
    Keeps (Noting allowed) (World.consult request : Call (World others) _) :=
  Noting.bind (Noting.note told) fun _ =>
    Noting.inside (Noting.mono (discreet.agent request) quiet)

end Notes

section Notes

open Call

variable {σ α β : Type} {allowed : Note → Prop}

theorem written_notes {call : Call σ α} (kept : Keeps (Noting allowed) call) (write : α → β) :
    Keeps (Noting allowed) (call >>= fun answer => pure (write answer)) :=
  Noting.bind kept fun _ => Noting.pure _

end Notes

/-- A command leaves nothing behind but what it may. -/
theorem Command.run_notes {others : Collaborators} (discreet : others.Discreet)
    (progressId : String) (command : Command) :
    Call.Keeps (Noting (command.Notes progressId))
      (command.run progressId : Call (World others) Value) := by
  have quiet : ∀ note : Note, note.isOutside → command.Notes progressId note := by
    rintro (_ | _ | _ | _ | _ | _ | _ | _ | _) outside <;> first | exact outside | cases outside
  have read {operation : Ledger.Operation}
      (asked : command.operation? progressId = some operation) :
      Call.Keeps (Noting (command.Notes progressId))
        (World.record operation : Call (World others) _) :=
    record_notes discreet quiet fun _ => asked
  cases command with
  | progress => exact written_notes (written_notes (read rfl) _) _
  | query wanted =>
      cases wanted with
      | progress | proposal | grant | validator => exact written_notes (read rfl) _
      | proposals | discussions | grants | proposalVotes | grantVotes =>
          exact written_notes (written_notes (read rfl) _) _
  | adviseProposal proposal voter =>
      exact written_notes (consult_notes discreet quiet (.proposal proposal voter)) _
  | adviseGrant validator statement =>
      refine Noting.bind (read rfl) fun found => ?_
      cases found with
      | none => exact Noting.pure _
      | some grant =>
          exact written_notes (consult_notes discreet quiet (.grant validator statement grant)) _

/-!
## Typed numbers
-/

theorem typed_some_iff {text : String} {value : Nat} (spelled : Number.InDigits text value)
    {number : Number} : Typed (some text) number ↔ number = .nearest (value : Rat) := by
  constructor
  · rintro ⟨_, other, ⟨⟩, spelled', rfl⟩
    rw [spelled'.denoted, spelled.denoted]
  · exact fun same => ⟨text, value, rfl, spelled, same⟩

/-- Arguments that spell no command are refused as wrong usage before anything is asked. What spells
a command is done, with nothing asked but what the command asks; each number in it is the nearest to
the one that is typed, which is the number typed itself just if that is exact. -/
theorem run_hands_on (progressId : String) (arguments : List String) :
    ((∀ command, ¬ Spells arguments command) →
      ∃ message, ∀ {others : Collaborators} (world : World others),
        (run progressId arguments).Ends world (.error (.usage message)) [] world) ∧
    (∀ command, Spells arguments command → ∀ others : Collaborators,
      (run progressId arguments : Call (World others) Value) = command.run progressId ∧
      (others.Discreet → Call.Keeps (Noting (command.Notes progressId))
        (run progressId arguments : Call (World others) Value))) ∧
    ∀ text ∈ arguments, ∀ value, Number.InDigits text value →
      (∀ number, Typed (some text) number ↔ number = .nearest (value : Rat)) ∧
      (Typed (some text) (.ofNat value) ↔ Number.IsExact value) := by
  refine ⟨fun none => ?_, fun command spells others => ?_, fun text _ value spelled => ?_⟩
  · cases parsed : Command.parse arguments with
    | ok command => exact (none command (.of_parse parsed)).elim
    | error fault =>
        obtain ⟨message, rfl⟩ := explains_parse arguments fault parsed
        refine ⟨message, fun world => ?_⟩
        refine Call.ends_bind.mpr (.inl ⟨_, rfl, Call.ends_ofExcept.mpr ⟨?_, rfl, rfl⟩⟩)
        exact parsed.symm
  · have same :
        (run progressId arguments : Call (World others) Value) = command.run progressId := by
      unfold run
      rw [spells.parse]
      rfl
    exact ⟨same, fun discreet => same ▸ command.run_notes discreet progressId⟩
  · refine ⟨fun number => typed_some_iff spelled, ?_⟩
    rw [typed_some_iff spelled, eq_comm, Number.nearest_natCast_eq_iff]

theorem run_hands_on_padded :
    Spells ["advise-proposal", "0042", "AA01"] (.adviseProposal 42 "AA01") ∧
      Collaborators.inMemory.Discreet ∧ Number.InDigits "0042" 42 ∧ Number.IsExact 42 ∧
      Typed (some "0042") (.ofNat 42) ∧
      Call.Keeps (Noting ((Command.adviseProposal 42 "AA01").Notes "follow"))
        (run "follow" ["advise-proposal", "0042", "AA01"] : Call (World .inMemory) Value) ∧
      (∀ command, ¬ Spells ["proposal", "1e3"] command) ∧
      ∃ message, (run "follow" ["proposal", "1e3"]).Ends (World.inMemory {} {})
        (.error (.usage message)) [] (World.inMemory {} {}) := by
  have padded := run_hands_on "follow" ["advise-proposal", "0042", "AA01"]
  have spelled : Number.InDigits "0042" 42 := by decide
  have few : Number.IsExact 42 := Number.isExact_of_safe (by decide)
  have typed : Typed (some "0042") (.ofNat 42) :=
    (padded.2.2 "0042" (by decide) 42 spelled).2.mpr few
  have spells : Spells ["advise-proposal", "0042", "AA01"] (.adviseProposal 42 "AA01") :=
    .adviseProposal typed rfl (by decide)
  have handed := (padded.2.1 _ spells .inMemory).2 Collaborators.discreet_inMemory
  have none (command : Command) : ¬ Spells ["proposal", "1e3"] command := fun spells => by
    cases spells.parse
  obtain ⟨message, refused⟩ := (run_hands_on "follow" ["proposal", "1e3"]).1 none
  exact ⟨spells, Collaborators.discreet_inMemory, spelled, few, typed, handed, none, message,
    refused _⟩

/-- A number of 54 bits is not handed on as it is typed, and not refused either. -/
theorem not_run_hands_on_exactly :
    Number.InDigits "9007199254740993" 9007199254740993 ∧
      ∃ answer,
        (run "follow" ["advise-proposal", "9007199254740993", "AA01"]).Ends (World.inMemory {} {})
          (.ok answer) [.consulted (.recommendProposalVote (.ofNat 9007199254740992) "AA01")]
          (World.inMemory {} {}) := by
  have spelled : Number.InDigits "9007199254740993" 9007199254740993 := by decide
  have rounded : Number.ofNat 9007199254740992 = .nearest ((9007199254740993 : Nat) : Rat) := by
    decide +kernel
  have spells : Spells ["advise-proposal", "9007199254740993", "AA01"]
      (.adviseProposal (.ofNat 9007199254740992) "AA01") :=
    .adviseProposal ((typed_some_iff spelled).mpr rounded) rfl (by decide)
  refine ⟨spelled, Advice.Vote.toValue { approve := true, reason := "" }, ?_⟩
  unfold run
  rw [spells.parse]
  exact Call.ends_iff.mpr ⟨rfl, rfl, rfl⟩

end RollCall.Inspect
