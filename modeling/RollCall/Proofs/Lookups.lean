import RollCall.Accounts
import RollCall.Proofs.Cells
import RollCall.Proofs.Clients
import RollCall.Proofs.Documents
import RollCall.Proofs.Grammar
import RollCall.Proofs.InMemory

/-!
# What account lookups find

An address is two hexadecimal digits a byte, with or without a mark before them; the node is asked
once, for the bytes, and not at all about anything else. Which replies tell of an account is said
here of the texts themselves: of the bytes in the reply, the document in them and the last index in
that. All spellings of the same bytes find the same account or none.
-/

set_option autoImplicit false

namespace RollCall

open Call

/-!
## Questions
-/

namespace Trace

@[simp] theorem questions_append (first second : Trace) :
    Trace.questions (first ++ second) = first.questions ++ second.questions :=
  List.filterMap_append

theorem questions_of_quiet {trace : Trace} (quiet : ∀ note ∈ trace, note.isOutside) :
    trace.questions = [] := by
  apply List.filterMap_eq_nil_iff.mpr
  intro note member
  have outside := quiet note member
  cases note with
  | asked => cases outside
  | _ => rfl

end Trace

namespace Chain.Connection

variable {ν χ : Type} {provider : Provider ν χ} {connection final : Connection ν χ} {trace : Trace}

/-- A question is put to the node once, if there is a client to put it to. -/
theorem ask_questions {question : Question} {result : Except Fault question.Answer}
    (connect : Keeps Quiet provider.connect) (close : Keeps Quiet provider.close)
    (answering : Keeps Quiet (provider.ask question))
    (ending : (ask provider question).Ends connection result trace final) :
    trace.questions = [question] ∨ trace.questions = [] ∧
      (result = .error unavailable ∨
        result = .error .wordless ∧ connection.IsSilenced provider) := by
  have steps : Steps provider Quiet := steps_noting (fun _ outside => outside) connect close
  obtain ⟨_, rfl, refused⟩ | ⟨place, bound, first, _, begun, rest, rfl⟩ := ends_bind.mp ending
  · refine .inr ⟨Trace.questions_of_quiet (begin_keeps steps refused), ?_⟩
    cases begin_ends refused with
    | unavailable => exact .inl rfl
    | broken ensured =>
        obtain ⟨rfl, silenced⟩ := ensured.silenced
        exact .inr ⟨rfl, silenced⟩
  obtain ⟨outcome, middle, second, third, ran, finished, rfl⟩ := ends_attempt_bind.mp rest
  obtain ⟨noted, called, rfl⟩ := ends_note_bind.mp ran
  have before := Trace.questions_of_quiet (begin_keeps steps begun)
  have meanwhile := Trace.questions_of_quiet (noting_byClient answering called)
  have after := Trace.questions_of_quiet (finish_keeps steps place outcome finished)
  refine .inl ?_
  rw [Trace.questions_append, Trace.questions_append, before, after, List.nil_append,
    List.append_nil]
  exact congrArg (question :: ·) meanwhile

end Chain.Connection

namespace World

variable {others : Collaborators}

theorem ask_questions (discreet : others.Discreet) {question : Chain.Question}
    {world final : World others} {result : Except Fault question.Answer} {trace : Trace}
    (ending : (ask question).Ends world result trace final) :
    trace.questions = [question] ∨ trace.questions = [] ∧
      (result = .error Chain.Connection.unavailable ∨
        result = .error .wordless ∧ world.chain.IsSilenced others.provider) := by
  have once {result : Except Fault question.Answer} {trace : Trace} {final : World others}
      (asked : ((Chain.Connection.ask others.provider question).inside World.chain
        fun chain world => { world with chain }).Ends world result trace final) :=
    Chain.Connection.ask_questions discreet.connect discreet.close (discreet.ask question)
      (ends_inside.mp asked).choose_spec.1
  obtain ⟨_, rfl, failed⟩ | ⟨answer, _, first, _, asked, rest, rfl⟩ := ends_bind.mp ending
  · exact once failed
  obtain ⟨_, returned, rfl⟩ := ends_note_bind.mp rest
  obtain ⟨rfl, rfl, -⟩ := ends_pure.mp returned
  obtain questions | ⟨-, impossible | ⟨impossible, -⟩⟩ := once asked
  · refine .inl ?_
    rw [Trace.questions_append, questions]
    rfl
  · cases impossible
  · cases impossible

end World

/-!
## Natural numbers in documents
-/

namespace Value

/-- A value that is a natural number below `2 ^ 53`: the number itself, or its digits, which may have
blanks around them. -/
inductive IsNatural : Value → Nat → Prop where
  | number {natural : Nat} (safe : natural < 2 ^ 53) : IsNatural (.number (.ofNat natural)) natural
  | text {text : String} {natural : Nat} (spelled : Number.InDigits (Text.trim text) natural)
      (safe : natural < 2 ^ 53) : IsNatural (.text text) natural

theorem asNat?_text (text : String) :
    (Value.text text).asNat? = Number.naturalOf? (Text.trim text).toList := by
  rw [asNat?, Text.trim, String.toList_ofList]

theorem asNat?_iff {value : Value} {natural : Nat} :
    value.asNat? = some natural ↔ value.IsNatural natural := by
  have bound : Number.safeBound + 1 = 2 ^ 53 := rfl
  constructor
  · intro read
    cases value with
    | number number =>
        obtain ⟨rfl, safe⟩ := Number.safeNat?_eq_some_iff.mp read
        exact .number (by omega)
    | text text =>
        rw [asNat?_text] at read
        obtain ⟨spelled, safe⟩ := Number.naturalOf?_iff.mp read
        exact .text spelled safe
    | _ => cases read
  · rintro (safe | ⟨spelled, safe⟩)
    · exact Number.safeNat?_eq_some_iff.mpr ⟨rfl, by omega⟩
    · rw [asNat?_text]
      exact Number.naturalOf?_iff.mpr ⟨spelled, safe⟩

end Value

/-!
## Replies
-/

/-- A reply tells of an index: it is no error, and its value is the base64 of a text that is a record
whose last index is a natural number. -/
def Chain.QueryReply.Tells (reply : QueryReply) (index : Nat) : Prop :=
  reply.code = 0 ∧ ∃ payload members value, reply.value = some payload ∧
    Json.DenotesRecord (Utf8.decode (Base64.decode payload)) members ∧
    members.Last "index" value ∧ value.IsNatural index

open Chain (QueryReply)

variable {address : String} {reply : QueryReply}

theorem index_iff {document : Value} {index : Nat} :
    (document.member "index").asNat? = some index ↔ ∃ kept value, document = .record kept ∧
      Members.find? kept "index" = some value ∧ value.IsNatural index := by
  constructor
  · intro read
    cases document with
    | record kept =>
        cases found : Members.find? kept "index" with
        | none =>
            rw [Value.member, Value.members, found] at read
            cases read
        | some value =>
            rw [Value.member, Value.members, found] at read
            exact ⟨kept, value, rfl, found, Value.asNat?_iff.mp read⟩
    | _ => cases read
  · rintro ⟨kept, value, rfl, found, natural⟩
    rw [Value.member, Value.members, found]
    exact Value.asNat?_iff.mpr natural

theorem read_ok_iff {payload : String} {account : Account} :
    Account.read payload address = .ok account ↔
      (∃ members value, Json.DenotesRecord (Utf8.decode (Base64.decode payload)) members ∧
        members.Last "index" value ∧ value.IsNatural account.index) ∧
        account.address = Text.upper address := by
  unfold Account.read
  constructor
  · intro read
    split at read
    · cases read
    · next document parsed =>
      split at read
      · cases read
      · next index told =>
        cases read
        obtain ⟨kept, value, rfl, found, natural⟩ := index_iff.mp told
        obtain ⟨members, denotes, rfl⟩ :=
          Json.denotes_record_iff.mp (Json.parse?_iff.mp parsed)
        exact ⟨⟨members, value, denotes, Members.find?_ofList_iff.mp found, natural⟩, rfl⟩
  · rintro ⟨⟨members, value, denotes, last, natural⟩, upper⟩
    have parsed := Json.parse?_iff.mpr (Json.denotes_record_iff.mpr ⟨members, denotes, rfl⟩)
    have told := index_iff.mpr ⟨_, value, rfl, Members.find?_ofList_iff.mpr last, natural⟩
    obtain ⟨index, _⟩ := account
    obtain rfl : _ = Text.upper address := upper
    simp only [parsed, told]

theorem accountOf_ok_iff {account : Account} :
    accountOf address reply = .ok account ↔
      reply.Tells account.index ∧ account.address = Text.upper address := by
  unfold accountOf
  constructor
  · intro found
    split at found
    · next payload given =>
      split at given
      · next fine =>
        obtain ⟨⟨members, value, told⟩, upper⟩ := read_ok_iff.mp found
        exact ⟨⟨fine, payload, members, value, given, told⟩, upper⟩
      · cases given
    · cases found
  · rintro ⟨⟨fine, payload, members, value, given, told⟩, upper⟩
    rw [if_pos fine, given]
    exact read_ok_iff.mpr ⟨⟨members, value, told⟩, upper⟩

/-- Any other reply contradicts what the index holds, and the fault names the address. -/
theorem inconsistent_of_accountOf {fault : Fault} (failed : accountOf address reply = .error fault) :
    ∃ message details, fault = .inconsistent message (("address", .text address) :: details) := by
  unfold accountOf at failed
  split at failed
  · unfold Account.read at failed
    split at failed
    · cases failed
      exact ⟨_, _, rfl⟩
    · split at failed <;> cases failed
      exact ⟨_, _, rfl⟩
  · cases failed
    exact ⟨_, _, rfl⟩

/-!
## Addresses
-/

/-- A text is an address: after a mark, if there is one, it has hexadecimal digits of either case,
an even number of them but not none. -/
def IsAddress (address : String) : Prop :=
  ∃ digits, Hex.Unmarked address.toList digits ∧ digits ≠ [] ∧ digits.length % 2 = 0 ∧
    ∀ char ∈ digits, Hex.IsDigit char

/-- An address stands for bytes. -/
def Addresses (address : String) (bytes : Bytes) : Prop :=
  ∃ digits, Hex.Unmarked address.toList digits ∧ Hex.Spells digits bytes ∧ bytes ≠ []

theorem addressBytes?_iff {bytes : Bytes} :
    addressBytes? address = some bytes ↔ Addresses address bytes := by
  unfold addressBytes? Hex.decode?
  rw [Option.filter_eq_some_iff, Hex.decodeDigits_iff]
  constructor
  · rintro ⟨spelled, nonempty⟩
    exact ⟨_, Hex.unmarked_iff.mpr rfl, spelled, by simpa using nonempty⟩
  · rintro ⟨digits, unmarked, spelled, nonempty⟩
    rw [Hex.unmarked_iff.mp unmarked]
    exact ⟨spelled, by simpa using nonempty⟩

theorem isAddress_iff : IsAddress address ↔ ∃ bytes, Addresses address bytes := by
  constructor
  · rintro ⟨digits, unmarked, nonempty, spells⟩
    obtain ⟨bytes, spelled⟩ := Hex.exists_spells_iff.mpr spells
    refine ⟨bytes, digits, unmarked, spelled, ?_⟩
    rintro rfl
    cases spelled
    exact nonempty rfl
  · rintro ⟨bytes, digits, unmarked, spelled, nonempty⟩
    refine ⟨digits, unmarked, ?_, Hex.exists_spells_iff.mp ⟨bytes, spelled⟩⟩
    rintro rfl
    cases spelled
    exact nonempty rfl

theorem Addresses.encode {bytes : Bytes} (addresses : Addresses address bytes) :
    ∃ digits, Hex.Unmarked address.toList digits ∧
      (Hex.encode bytes).toList = digits.map Char.toLower := by
  obtain ⟨digits, unmarked, spelled, -⟩ := addresses
  exact ⟨digits, unmarked, Hex.encode_of_spells spelled⟩

/-!
## Lookups
-/

/-- What a lookup makes of the answer to its question: a fault is passed on; a reply that tells of
an index gives the account of that index and of the address in upper case, any other reply
contradicts what the index holds. -/
structure Finds (address : String) (answer : Except Fault QueryReply)
    (result : Except Fault Account) : Prop where
  fails : ∀ fault, answer = .error fault → result = .error fault
  succeeds : ∀ reply, answer = .ok reply → ∀ account, result = .ok account ↔
    reply.Tells account.index ∧ account.address = Text.upper address
  contradicts : ∀ reply, answer = .ok reply → (¬ ∃ index, reply.Tells index) →
    ∃ message details,
      result = .error (.inconsistent message (("address", .text address) :: details))

theorem finds_accountOf (address : String) (reply : QueryReply) :
    Finds address (.ok reply) (accountOf address reply) where
  fails := nofun
  succeeds := by
    rintro _ ⟨⟩ account
    exact accountOf_ok_iff
  contradicts := by
    rintro _ ⟨⟩ silent
    cases told : accountOf address reply with
    | ok account => exact (silent ⟨_, (accountOf_ok_iff.mp told).1⟩).elim
    | error fault =>
        obtain ⟨message, details, rfl⟩ := inconsistent_of_accountOf told
        exact ⟨message, details, rfl⟩

/-- Both lookups fail, or both find the same index. -/
inductive FindsAlike : Except Fault Account → Except Fault Account → Prop where
  | failed (left right : Fault) : FindsAlike (.error left) (.error right)
  | found (index : Nat) (left right : String) :
      FindsAlike (.ok { index, address := left }) (.ok { index, address := right })

theorem accountOf_alike (left right : String) (reply : QueryReply) :
    FindsAlike (accountOf left reply) (accountOf right reply) := by
  have other {left right : String} {account : Account} (found : accountOf left reply = .ok account) :
      accountOf right reply = .ok { account with address := Text.upper right } :=
    accountOf_ok_iff.mpr ⟨(accountOf_ok_iff.mp found).1, rfl⟩
  cases first : accountOf left reply with
  | ok account =>
      rw [other first]
      exact .found account.index account.address _
  | error fault =>
      cases second : accountOf right reply with
      | ok account =>
          rw [other second] at first
          cases first
      | error fault' => exact .failed fault fault'

namespace World

variable {others : Collaborators} {world final : World others} {trace : Trace}

theorem resolve_of_not_address (nothing : ¬ IsAddress address) :
    (resolve address).Ends world
      (.error (.inconsistent s!"invalid validator address \"{address}\""
        [("address", .text address)])) [] world := by
  unfold resolve
  split
  · exact ends_fail.mpr ⟨rfl, rfl, rfl⟩
  · next bytes found => exact (nothing (isAddress_iff.mpr ⟨bytes, addressBytes?_iff.mp found⟩)).elim

/-- A lookup is the question for the bytes of the address, and what the answer tells. -/
theorem resolve_of_asked {bytes : Bytes} (addresses : Addresses address bytes)
    {answer : Except Fault QueryReply}
    (asked : (World.ask (.query accountsPath (Hex.encode bytes))).Ends world answer trace final) :
    (resolve address).Ends world (answer >>= accountOf address) trace final := by
  unfold resolve
  rw [addressBytes?_iff.mpr addresses]
  cases answer with
  | error fault => exact ends_bind.mpr (.inl ⟨fault, rfl, asked⟩)
  | ok reply =>
      have told : (Call.ofExcept (accountOf address reply)).Ends final (accountOf address reply) []
          final := ends_ofExcept.mpr ⟨rfl, rfl, rfl⟩
      exact ends_bind.mpr (.inr ⟨reply, final, trace, [], asked, told, (List.append_nil _).symm⟩)

theorem resolve_of_tells {bytes : Bytes} (addresses : Addresses address bytes) {index : Nat}
    (asked : (World.ask (.query accountsPath (Hex.encode bytes))).Ends world (.ok reply) trace final)
    (tells : reply.Tells index) :
    (resolve address).Ends world (.ok { index, address := Text.upper address }) trace final := by
  have told : (Except.ok reply >>= accountOf address) =
      .ok { index, address := Text.upper address } :=
    accountOf_ok_iff.mpr ⟨tells, rfl⟩
  rw [← told]
  exact resolve_of_asked addresses asked

/-- A text that is no address is refused without a word to the node. For an address the node is
asked once, unless it cannot be reached at all, for the bytes in lower case; what is found is what
the answer tells. Another spelling of the same bytes asks the same and finds the same index, or
fails as well. -/
theorem resolve_finds (discreet : others.Discreet) (address : String) (world : World others) :
    (¬ IsAddress address → ∃ message, (resolve address).Ends world
      (.error (.inconsistent message [("address", .text address)])) [] world) ∧
    (IsAddress address → ∃ bytes digits, Addresses address bytes ∧
      Hex.Unmarked address.toList digits ∧ (Hex.encode bytes).toList = digits.map Char.toLower ∧
      ∀ answer trace final,
        (World.ask (.query "/accounts/" (Hex.encode bytes))).Ends world answer trace final →
          (trace.questions = [.query "/accounts/" (Hex.encode bytes)] ∨
            trace.questions = [] ∧
              (answer = .error Chain.Connection.unavailable ∨
                answer = .error .wordless ∧ world.chain.IsSilenced others.provider)) ∧
          ∃ result, (resolve address).Ends world result trace final ∧ Finds address answer result ∧
            ∀ other, Addresses other bytes →
              ∃ result', (resolve other).Ends world result' trace final ∧
                FindsAlike result result') := by
  constructor
  · intro nothing
    exact ⟨_, resolve_of_not_address nothing⟩
  · intro isAddress
    obtain ⟨bytes, addresses⟩ := isAddress_iff.mp isAddress
    obtain ⟨digits, unmarked, lower⟩ := addresses.encode
    refine ⟨bytes, digits, addresses, unmarked, lower, fun answer trace final asked => ?_⟩
    refine ⟨ask_questions discreet asked, _, resolve_of_asked addresses asked, ?_, ?_⟩
    · cases answer with
      | ok reply => exact finds_accountOf address reply
      | error fault =>
          exact
            { fails := fun _ same => by cases same; rfl
              succeeds := nofun
              contradicts := nofun }
    · intro other addresses'
      refine ⟨_, resolve_of_asked addresses' asked, ?_⟩
      cases answer with
      | ok reply => exact accountOf_alike address other reply
      | error fault => exact .failed fault fault

/-- A chain with one account, whose document holds its index with blanks around it. -/
def paddedChain : Chain.Simulated := { accounts := [("AA01", .text " 7 ")] }

def paddedReply : QueryReply := paddedChain.queryReply "/accounts/" "aa01"

theorem paddedChain_answers :
    ∃ trace final, (World.ask (.query "/accounts/" (Hex.encode [0xaa, 0x01]))).Ends
      (World.inMemory paddedChain {}) (.ok paddedReply) trace final :=
  ⟨_, _, ends_iff.mpr ⟨rfl, rfl, rfl⟩⟩

theorem addressBytes?_aa01 : addressBytes? "0xaA01" = some [0xaa, 0x01] := by decide +kernel

theorem paddedReply_tells : paddedReply.Tells 7 := by
  have found : (accountOf "AA01" paddedReply).toOption = some { index := 7, address := "AA01" } := by
    decide +kernel
  cases account : accountOf "AA01" paddedReply with
  | ok account =>
      rw [account] at found
      cases found
      exact (accountOf_ok_iff.mp account).1
  | error fault =>
      rw [account] at found
      cases found

theorem resolve_finds_in_paddedChain :
    (∃ message, (resolve "0xAA0").Ends (World.inMemory paddedChain {})
      (.error (.inconsistent message [("address", .text "0xAA0")])) []
      (World.inMemory paddedChain {})) ∧
    ∃ trace final, (resolve "0xaA01").Ends (World.inMemory paddedChain {})
      (.ok { index := 7, address := "0XAA01" }) trace final ∧
      trace.questions = [.query "/accounts/" "aa01"] := by
  have finds (address : String) :=
    resolve_finds Collaborators.discreet_inMemory address (World.inMemory paddedChain {})
  constructor
  · have odd : addressBytes? "0xAA0" = none := by decide +kernel
    refine (finds "0xAA0").1 fun isAddress => ?_
    obtain ⟨bytes, addresses⟩ := isAddress_iff.mp isAddress
    cases odd.symm.trans (addressBytes?_iff.mpr addresses)
  · obtain ⟨bytes, _, addresses, -, -, lookup⟩ :=
      (finds "0xaA01").2 (isAddress_iff.mpr ⟨_, addressBytes?_iff.mp addressBytes?_aa01⟩)
    obtain rfl := Option.some.inj (addressBytes?_aa01.symm.trans (addressBytes?_iff.mpr addresses))
    obtain ⟨trace, final, asked⟩ := paddedChain_answers
    obtain ⟨questions | ⟨-, impossible | ⟨impossible, -⟩⟩, result, found, finds, -⟩ :=
      lookup _ _ _ asked
    · have upper : Text.upper "0xaA01" = "0XAA01" := by decide +kernel
      obtain rfl := (finds.succeeds _ rfl ⟨7, "0XAA01"⟩).mpr ⟨paddedReply_tells, upper.symm⟩
      exact ⟨trace, final, found, questions⟩
    · cases impossible
    · cases impossible

/-- The digits of an index are not the whole text. -/
theorem paddedReply_padded {payload : String} {members : Members} {value : Value}
    (given : paddedReply.value = some payload)
    (denotes : Json.DenotesRecord (Utf8.decode (Base64.decode payload)) members)
    (last : members.Last "index" value) : value = .text " 7 " := by
  have padded : paddedReply.value.any fun payload =>
      (Json.parse? (Utf8.decode (Base64.decode payload))).any fun document =>
        (document.member "index").same (.text " 7 ") := by
    decide +kernel
  have parsed := Json.parse?_iff.mpr (Json.denotes_record_iff.mpr ⟨members, denotes, rfl⟩)
  rw [given, Option.any_some, parsed, Option.any_some, Value.member, Value.members,
    Members.find?_ofList_iff.mpr last] at padded
  cases value with
  | text text => exact congrArg Value.text (eq_of_beq padded)
  | _ => cases padded

end World

/-- Collaborators in memory where no client can be made. -/
def Collaborators.unreachable : Collaborators :=
  { Collaborators.inMemory with
    provider := { Chain.Simulated.provider with connect := Call.fail (.other "no route") } }

namespace World

def unreachable : World Collaborators.unreachable where
  chain := { node := ({} : Chain.Simulated) }
  store := ({ ledger := {} } : Ledger.Refusing Ledger.Tables)
  agent := ()
  clock := (0 : Nat)

/-- Texts with blanks around their digits are natural numbers as well, and the node is not asked
when there is no client to ask it. -/
theorem not_resolve_finds_strictly :
    (¬ ∀ (address : String) (bytes : Bytes) (world : World Collaborators.inMemory)
      (reply : QueryReply) (trace : Trace) (final : World Collaborators.inMemory),
      Addresses address bytes →
      (World.ask (.query "/accounts/" (Hex.encode bytes))).Ends world (.ok reply) trace final →
      ∀ account, (resolve address).Ends world (.ok account) trace final →
        ∃ payload members value, reply.code = 0 ∧ reply.value = some payload ∧
          Json.DenotesRecord (Utf8.decode (Base64.decode payload)) members ∧
          members.Last "index" value ∧
          (value = .number (.ofNat account.index) ∨
            ∃ text, value = .text text ∧ Number.InDigits text account.index)) ∧
    ¬ ∀ (address : String) (world : World Collaborators.unreachable)
      (result : Except Fault Account) (trace : Trace) (final : World Collaborators.unreachable),
      IsAddress address → (resolve address).Ends world result trace final →
        trace.questions.length = 1 := by
  have addresses := addressBytes?_iff.mp addressBytes?_aa01
  constructor
  · intro strict
    obtain ⟨trace, final, asked⟩ := paddedChain_answers
    have found := resolve_of_tells addresses asked paddedReply_tells
    obtain ⟨payload, members, value, -, given, denotes, last, digits⟩ :=
      strict _ _ _ _ _ _ addresses asked _ found
    obtain rfl := paddedReply_padded given denotes last
    obtain impossible | ⟨text, same, spelled⟩ := digits
    · cases impossible
    · cases same
      exact absurd (spelled.digits ' ' (by decide)) (by decide)
  · intro strict
    have once := strict "0xaA01" unreachable _ _ _ (isAddress_iff.mpr ⟨_, addresses⟩)
      ((resolve "0xaA01").ends unreachable)
    exact absurd once (by decide +kernel)

end World

end RollCall
