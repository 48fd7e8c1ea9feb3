import Mathlib.Data.List.TakeWhile
import Mathlib.Data.Nat.Digits.Defs
import RollCall.Event.Typed
import RollCall.Proofs.Encodings
import RollCall.Proofs.Heights

/-!
# The grammar of governance events

What an event says is set down here without the readers: which attribute of a name counts, which
texts are of a form, and what they stand for. An event is read as one of a kind if and only if it
carries the type of the kind and everything that the kind requires is of its form; then all fields
are what the attributes stand for, and otherwise nothing is read.
-/

set_option autoImplicit false

namespace RollCall

theorem bind_ok_iff {ε α β : Type} {first : Except ε α} {next : α → Except ε β}
    {result : β} :
    (first >>= next) = .ok result ↔ ∃ value, first = .ok value ∧ next value = .ok result := by
  cases first <;> simp [bind, Except.bind]

theorem pure_ok_iff {ε α : Type} {value result : α} :
    (pure value : Except ε α) = .ok result ↔ value = result := by
  simp [pure, Except.pure]

/-!
## Blanks around a text
-/

theorem Text.trimChars_around {before middle behind : List Char}
    (blank : ∀ char ∈ before, isBlank char) (blank' : ∀ char ∈ behind, isBlank char)
    (solid : ∀ char ∈ middle, ¬ isBlank char) : trimChars (before ++ middle ++ behind) = middle := by
  have front (rest : List Char) : (before ++ rest).dropWhile isBlank = rest.dropWhile isBlank :=
    List.dropWhile_append_of_pos blank
  rw [List.append_assoc, trimChars, front]
  cases middle with
  | nil => simp [List.dropWhile_eq_nil_iff.mpr blank']
  | cons first rest =>
      have kept : (first :: rest ++ behind).dropWhile isBlank = first :: rest ++ behind :=
        List.dropWhile_cons_of_neg (solid first List.mem_cons_self)
      have back : ∀ char ∈ behind.reverse, isBlank char := fun char member =>
        blank' char (List.mem_reverse.mp member)
      have whole : (first :: rest).reverse.dropWhile isBlank = (first :: rest).reverse := by
        rw [List.dropWhile_eq_self_iff]
        intro inside
        exact solid _ (List.mem_reverse.mp (List.getElem_mem inside))
      rw [kept, List.reverse_append, List.dropWhile_append_of_pos back, whole, List.reverse_reverse]

theorem Text.trimChars_of_solid {chars : List Char} (solid : ∀ char ∈ chars, ¬ isBlank char) :
    trimChars chars = chars := by
  have around : trimChars ([] ++ chars ++ []) = chars :=
    trimChars_around (by simp) (by simp) solid
  rwa [List.nil_append, List.append_nil] at around

/-!
## Numbers in digits
-/

namespace Number

/-- A text of one or more ASCII digits and the number that it denotes, however many digits there
are. -/
structure InDigits (text : String) (value : Nat) : Prop where
  nonempty : text ≠ ""
  digits : ∀ char ∈ text.toList, '0' ≤ char ∧ char ≤ '9'
  denoted : value =
    Nat.ofDigits 10 (text.toList.reverse.map fun char => char.toNat - '0'.toNat)

theorem isDigit_iff {char : Char} : isDigit char = true ↔ '0' ≤ char ∧ char ≤ '9' := by
  unfold isDigit digit?
  split <;> simp_all

theorem isDigits_iff {text : String} : Text.isDigits text.toList = true ↔
    text ≠ "" ∧ ∀ char ∈ text.toList, '0' ≤ char ∧ char ≤ '9' := by
  simp [Text.isDigits, isDigit_iff]

instance (text : String) (value : Nat) : Decidable (InDigits text value) :=
  decidable_of_iff (Text.isDigits text.toList = true ∧ value =
      Nat.ofDigits 10 (text.toList.reverse.map fun char => char.toNat - '0'.toNat))
    ⟨fun ⟨isDigits, denoted⟩ =>
      ⟨(isDigits_iff.mp isDigits).1, (isDigits_iff.mp isDigits).2, denoted⟩,
    fun spelled => ⟨isDigits_iff.mpr ⟨spelled.nonempty, spelled.digits⟩, spelled.denoted⟩⟩

theorem InDigits.solid {text : String} {value : Nat} (spelled : InDigits text value) :
    ∀ char ∈ text.toList, ¬ Text.isBlank char := by
  intro char member
  obtain ⟨least, most⟩ := spelled.digits char member
  have low : 48 ≤ char.toNat := UInt32.le_iff_toNat_le.mp least
  have high : char.toNat ≤ 57 := UInt32.le_iff_toNat_le.mp most
  simp [Text.isBlank]
  omega

theorem digit?_of_digit {char : Char} (digit : '0' ≤ char ∧ char ≤ '9') :
    digit? char = some (char.toNat - '0'.toNat) :=
  if_pos digit

theorem digitsValue_eq {chars : List Char} (digits : ∀ char ∈ chars, '0' ≤ char ∧ char ≤ '9') :
    digitsValue chars =
      Nat.ofDigits 10 (chars.reverse.map fun char => char.toNat - '0'.toNat) := by
  induction chars using List.reverseRecOn with
  | nil => rfl
  | append_singleton chars last ih =>
      have front := ih fun char member => digits char (List.mem_append_left _ member)
      have back := digit?_of_digit (digits last (by simp))
      rw [List.reverse_append, List.reverse_singleton, List.singleton_append, List.map_cons,
        Nat.ofDigits_cons, ← front]
      unfold digitsValue
      rw [List.foldl_append, List.foldl_cons, List.foldl_nil, back]
      simp only [Option.getD_some]
      omega

theorem inDigits_toString (value : Nat) : InDigits (toString value) value := by
  have spelled : (toString value).toList = Nat.toDigits 10 value := Nat.toList_repr
  have digits : ∀ char ∈ (toString value).toList, '0' ≤ char ∧ char ≤ '9' := by
    intro char member
    rw [spelled] at member
    have digit := Nat.isDigit_of_mem_toDigits (by omega) (by omega) member
    rwa [Char.isDigit, Bool.and_eq_true, decide_eq_true_iff, decide_eq_true_iff] at digit
  refine ⟨?_, digits, ?_⟩
  · intro empty
    rw [empty] at spelled
    exact Nat.toDigits_ne_nil spelled.symm
  · have read : digitsValue (toString value).toList =
        Nat.ofDigitChars 10 (toString value).toList 0 := by
      rw [Nat.ofDigitChars_eq_foldl]
      refine List.foldl_ext _ _ _ fun sum char member => ?_
      rw [digit?_of_digit (digits char member), Option.getD_some]
    rw [← digitsValue_eq digits, read, spelled, Nat.ofDigitChars_ten_toDigits]

theorem ofDigits_eq_nearest (digits : List Char) :
    ofDigits digits = nearest (digitsValue digits : Rat) := by
  unfold ofDigits ofDecimal
  split
  · next zero => rw [zero]; decide
  · simp

/-- Rounding alters no safe natural number and lets no other pass for one. -/
theorem safeNat?_nearest (value : Nat) :
    (nearest (value : Rat)).safeNat? = if value ≤ safeBound then some value else none := by
  split
  · next safe =>
    rw [nearest, if_pos (isSafeInteger_natCast.mpr safe)]
    simp [safeNat?, safeInt?, isSafeInteger_natCast.mpr safe]
  · next large =>
    have above := nearest_natCast_not_below (Nat.not_le.mp large) (Nat.le_refl (safeBound + 1))
    cases rounded : nearest (value : Rat) with
    | nan => rfl
    | infinite negative => rfl
    | finite rational =>
        have outside : isSafeInteger rational = false := by
          rw [rounded] at above
          refine Bool.eq_false_iff.mpr fun safe => above ?_
          obtain ⟨whole, small⟩ := of_decide_eq_true safe
          have least : rational.num < (safeBound + 1 : Nat) := by omega
          have same : rational = rational.num := Rat.ext rfl whole
          rw [same]
          simp only [below, ofNat, ofInt, decide_eq_true_eq]
          exact_mod_cast least
        simp [safeNat?, safeInt?, outside]

theorem safeNat?_ofDigits (digits : List Char) :
    (ofDigits digits).safeNat? =
      if digitsValue digits ≤ safeBound then some (digitsValue digits) else none := by
  rw [ofDigits_eq_nearest, safeNat?_nearest]

/-- What is read of a text of digits is what it denotes, and only texts of digits are read. -/
theorem naturalOf?_iff {text : String} {value : Nat} :
    naturalOf? text.toList = some value ↔ InDigits text value ∧ value < 2 ^ 53 := by
  have bound : safeBound + 1 = 2 ^ 53 := rfl
  unfold naturalOf?
  split
  · next isDigits =>
    obtain ⟨nonempty, digits⟩ := isDigits_iff.mp isDigits
    rw [safeNat?_ofDigits, digitsValue_eq digits]
    split
    · next small =>
      constructor
      · intro same
        cases same
        exact ⟨⟨nonempty, digits, rfl⟩, by omega⟩
      · rintro ⟨spelled, _⟩
        rw [spelled.denoted]
    · next large =>
      refine ⟨nofun, ?_⟩
      rintro ⟨spelled, small⟩
      rw [spelled.denoted] at small
      omega
  · next other =>
    refine ⟨nofun, ?_⟩
    rintro ⟨spelled, _⟩
    exact absurd (isDigits_iff.mpr ⟨spelled.nonempty, spelled.digits⟩) other

end Number

/-!
## The value of a name
-/

/-- An attribute has a key in base64 and this is the name inside. -/
def Attribute.Wraps (entry : Attribute) (name : String) : Prop :=
  entry.key ≠ "" ∧ Base64.isStrict entry.key ∧ Event.Attributes.unwrapped entry.key = name

instance (entry : Attribute) (name : String) : Decidable (entry.Wraps name) :=
  inferInstanceAs (Decidable (_ ∧ _))

namespace Event

/-- The value of the first attribute whose key is the name. -/
def plain? (event : Event) (name : String) : Option String :=
  (event.attributes.find? (·.key = name)).map Attribute.value

/-- The value of the first attribute whose key wraps the name; a value that is not base64 stands for
itself. -/
def wrapped? (event : Event) (name : String) : Option String :=
  (event.attributes.find? (·.Wraps name)).map fun entry => Attributes.wrappedValue entry.value

/-- The value of a name: wrapped attributes count only where there is no plain one. -/
def value? (event : Event) (name : String) : Option String :=
  (event.plain? name).or (event.wrapped? name)

theorem Attributes.has_iff {attributes : Attributes} {name : String} :
    attributes.has name = (attributes.lookup name).isSome := by
  induction attributes with
  | nil => rfl
  | cons entry rest ih =>
      obtain ⟨key, value⟩ := entry
      simp only [Attributes.has, List.any_cons, List.lookup_cons] at ih ⊢
      rw [ih, show (key == name) = (name == key) from BEq.comm]
      cases name == key <;> simp

theorem Attributes.lookup_fill (attributes : Attributes) (key value name : String) :
    (attributes.fill key value).lookup name =
      (attributes.lookup name).or (if key = name then some value else none) := by
  unfold Attributes.fill
  split
  · next taken =>
    split
    · next same =>
      subst same
      obtain ⟨known, found⟩ := Option.isSome_iff_exists.mp (Attributes.has_iff.symm.trans taken)
      rw [found]
      rfl
    · rw [Option.or_none]
  · rw [List.lookup_append, List.lookup_cons, List.lookup_nil]
    by_cases same : key = name
    · simp [same]
    · simp [same, beq_eq_false_iff_ne.mpr (Ne.symm same)]

private theorem lookup_foldl {step : Attributes → Attribute → Attributes} {name : String}
    (counts : Attribute → Prop) [DecidablePred counts] (value : Attribute → String)
    (one : ∀ attributes entry, (step attributes entry).lookup name =
      (attributes.lookup name).or (if counts entry then some (value entry) else none))
    (entries : List Attribute) (attributes : Attributes) :
    (entries.foldl step attributes).lookup name =
      (attributes.lookup name).or ((entries.find? (counts ·)).map value) := by
  induction entries generalizing attributes with
  | nil => simp
  | cons entry rest ih =>
      rw [List.foldl_cons, ih, one, Option.or_assoc, List.find?_cons]
      by_cases counted : counts entry <;> simp [counted]

/-- The attributes that are gathered hold the value of every name that can be wrapped. -/
theorem lookup_attributeValues (event : Event) {name : String}
    (identifier : Text.isIdentifier name) :
    event.attributeValues.lookup name = event.value? name := by
  unfold attributeValues
  -- The keys themselves are gathered first, then the wrapped names that none of them is.
  rw [lookup_foldl (·.Wraps name) fun entry => Attributes.wrappedValue entry.value,
    lookup_foldl (·.key = name) Attribute.value]
  · rfl
  · exact fun attributes entry => Attributes.lookup_fill _ _ _ _
  · intro attributes entry
    unfold Attributes.fillWrapped Attributes.wrappedName?
    split
    · next name' wraps =>
      split at wraps
      · next legal =>
        cases wraps
        rw [Attributes.lookup_fill]
        simp [Attribute.Wraps, legal.1, legal.2.1]
      · cases wraps
    · next plain =>
      split at plain
      · cases plain
      · next illegal =>
        -- A wrapped name that is no identifier is left out, but such a name is not looked for.
        rw [if_neg, Option.or_none]
        rintro ⟨nonempty, strict, rfl⟩
        exact illegal ⟨nonempty, strict, identifier⟩

/-!
## The forms of values
-/

/-- How the value of an attribute may have to be spelled. -/
inductive Form where
  | natural
  | text
  | flag
  | payload
deriving DecidableEq, Repr

namespace Form

@[reducible]
def Value : Form → Type
  | natural => Nat
  | text => String
  | flag => Bool
  | payload => Bytes

/-- What a text of a form stands for; a text that is not of the form stands for nothing. -/
def Denotes : (form : Form) → String → form.Value → Prop
  | natural, spelled, value => Number.InDigits spelled value ∧ value < 2 ^ 53
  | text, spelled, value => spelled ≠ "" ∧ value = spelled
  | flag, spelled, value => spelled = if value then "true" else "false"
  | payload, spelled, value => Base64.Spells spelled.toList value

end Form

/-- A name has a value of a form, blanks around it aside, and what that stands for. -/
def Gives (values : String → Option String) (form : Form) (name : String) (value : form.Value) :
    Prop :=
  ∃ raw, values name = some raw ∧ form.Denotes (Text.trim raw) value

/-- What an event of a kind has to carry, and in which form. -/
def Kind.required : Kind → List (String × Form)
  | grant => [("validator", .natural), ("address", .text), ("amount", .natural),
      ("proposer_index", .natural), ("proposer_address", .text), ("grant", .flag)]
  | discussion => [("proposal", .natural), ("speaker", .natural), ("speaker_address", .text),
      ("data", .payload)]
  | proposal => [("proposal_index", .natural), ("proposer", .natural), ("proposer_address", .text),
      ("data", .payload), ("status", .natural)]
  | settlement => [("proposal", .natural), ("state", .natural)]

/-- What an event of a kind may carry besides. -/
def Kind.optional : Kind → List String
  | grant => ["agent_url"]
  | _ => []

/-- The names that matter to a kind. -/
def Kind.names (kind : Kind) : List String :=
  kind.required.map Prod.fst ++ kind.optional

/-- The fields of a kind are what the values of its names stand for. -/
def Says (values : String → Option String) : (kind : Kind) → kind.Content → Prop
  | .grant, grant =>
      Gives values .natural "validator" grant.validator ∧
      Gives values .text "address" grant.address ∧
      Gives values .natural "amount" grant.amount ∧
      Gives values .natural "proposer_index" grant.proposerIndex ∧
      Gives values .text "proposer_address" grant.proposerAddress ∧
      Gives values .flag "grant" grant.granted ∧
      grant.agentUrl = Text.trim ((values "agent_url").getD "")
  | .discussion, discussion =>
      Gives values .natural "proposal" discussion.proposal ∧
      Gives values .natural "speaker" discussion.speaker ∧
      Gives values .text "speaker_address" discussion.speakerAddress ∧
      Gives values .payload "data" discussion.data
  | .proposal, proposal =>
      Gives values .natural "proposal_index" proposal.index ∧
      Gives values .natural "proposer" proposal.proposer ∧
      Gives values .text "proposer_address" proposal.proposerAddress ∧
      Gives values .payload "data" proposal.data ∧
      Gives values .natural "status" proposal.status
  | .settlement, settlement =>
      Gives values .natural "proposal" settlement.proposal ∧
      Gives values .natural "state" settlement.state

theorem Kind.named?_iff {type : String} {kind : Kind} :
    Kind.named? type = some kind ↔ type = kind.name := by
  constructor
  · intro named
    have same := List.find?_some named
    exact (beq_iff_eq.mp same).symm
  · rintro rfl
    cases kind <;> rfl

theorem Kind.isIdentifier_of_mem_names :
    ∀ kind : Kind, ∀ name ∈ kind.names, Text.isIdentifier name := by
  intro kind
  cases kind <;> decide +kernel

theorem Says.congr {left right : String → Option String} {kind : Kind} {content : kind.Content}
    (same : ∀ name ∈ kind.names, left name = right name) (said : Says left kind content) :
    Says right kind content := by
  cases kind <;>
    simpa [Says, Gives, Kind.names, Kind.required, Kind.optional, same] using said

/-- An event says something as soon as everything required is of its form: each field depends on
its own attribute. -/
theorem exists_says {values : String → Option String} {kind : Kind} :
    (∃ content, Says values kind content) ↔
      ∀ field ∈ kind.required, ∃ value, Gives values field.2 field.1 value := by
  cases kind with
  | grant =>
      simp only [Kind.required, List.forall_mem_cons]
      constructor
      · rintro ⟨content, validator, address, amount, index, proposer, granted, -⟩
        exact ⟨⟨_, validator⟩, ⟨_, address⟩, ⟨_, amount⟩, ⟨_, index⟩, ⟨_, proposer⟩,
          ⟨_, granted⟩, by simp⟩
      · rintro ⟨⟨_, validator⟩, ⟨_, address⟩, ⟨_, amount⟩, ⟨_, index⟩, ⟨_, proposer⟩,
          ⟨_, granted⟩, -⟩
        exact ⟨⟨_, _, _, _, _, _, _⟩, validator, address, amount, index, proposer, granted, rfl⟩
  | discussion =>
      simp only [Kind.required, List.forall_mem_cons]
      constructor
      · rintro ⟨content, proposal, speaker, address, data⟩
        exact ⟨⟨_, proposal⟩, ⟨_, speaker⟩, ⟨_, address⟩, ⟨_, data⟩, by simp⟩
      · rintro ⟨⟨_, proposal⟩, ⟨_, speaker⟩, ⟨_, address⟩, ⟨_, data⟩, -⟩
        exact ⟨⟨_, _, _, _⟩, proposal, speaker, address, data⟩
  | proposal =>
      simp only [Kind.required, List.forall_mem_cons]
      constructor
      · rintro ⟨content, index, proposer, address, data, status⟩
        exact ⟨⟨_, index⟩, ⟨_, proposer⟩, ⟨_, address⟩, ⟨_, data⟩, ⟨_, status⟩, by simp⟩
      · rintro ⟨⟨_, index⟩, ⟨_, proposer⟩, ⟨_, address⟩, ⟨_, data⟩, ⟨_, status⟩, -⟩
        exact ⟨⟨_, _, _, _, _⟩, index, proposer, address, data, status⟩
  | settlement =>
      simp only [Kind.required, List.forall_mem_cons]
      constructor
      · rintro ⟨content, proposal, state⟩
        exact ⟨⟨_, proposal⟩, ⟨_, state⟩, by simp⟩
      · rintro ⟨⟨_, proposal⟩, ⟨_, state⟩, -⟩
        exact ⟨⟨_, _⟩, proposal, state⟩

/-!
## The readers
-/

namespace Attributes

theorem required_ok_iff {attributes : Attributes} {name spelled : String} :
    attributes.required name = .ok spelled ↔
      ∃ raw, attributes.lookup name = some raw ∧ Text.trim raw = spelled := by
  unfold required
  cases attributes.lookup name <;> simp

section Readers

variable {attributes : Attributes} {name : String}

theorem natural_ok_iff {value : Nat} :
    attributes.natural name = .ok value ↔
      ∃ spelled, attributes.required name = .ok spelled ∧ Form.natural.Denotes spelled value := by
  refine bind_ok_iff.trans (exists_congr fun spelled => and_congr_right fun _ => ?_)
  rw [Form.Denotes, ← Number.naturalOf?_iff]
  cases Number.naturalOf? spelled.toList <;> simp [pure, Except.pure, throw, throwThe,
    MonadExceptOf.throw]

theorem text_ok_iff {value : String} :
    attributes.text name = .ok value ↔
      ∃ spelled, attributes.required name = .ok spelled ∧ Form.text.Denotes spelled value := by
  refine bind_ok_iff.trans (exists_congr fun spelled => and_congr_right fun _ => ?_)
  by_cases empty : spelled = ""
  · simp [empty, Form.Denotes, throw, throwThe, MonadExceptOf.throw]
  · simp [empty, Form.Denotes, pure, Except.pure, eq_comm]

theorem flag_ok_iff {value : Bool} :
    attributes.flag name = .ok value ↔
      ∃ spelled, attributes.required name = .ok spelled ∧ Form.flag.Denotes spelled value := by
  refine bind_ok_iff.trans (exists_congr fun spelled => and_congr_right fun _ => ?_)
  by_cases positive : spelled = "true"
  · cases value <;> simp [positive, Form.Denotes, pure, Except.pure]
  · by_cases negative : spelled = "false" <;> cases value <;>
      simp [positive, negative, Form.Denotes, pure, Except.pure, throw, throwThe,
        MonadExceptOf.throw]

theorem payload_ok_iff {value : Bytes} :
    attributes.payload name = .ok value ↔
      ∃ spelled, attributes.required name = .ok spelled ∧ Form.payload.Denotes spelled value := by
  refine bind_ok_iff.trans (exists_congr fun spelled => and_congr_right fun _ => ?_)
  by_cases strict : Base64.isStrict spelled
  · obtain ⟨bytes, spells⟩ := Base64.isStrict_iff.mp strict
    have read := Base64.decode_of_spells spells
    simp only [strict, if_true, read, pure_ok_iff, Form.Denotes]
    constructor
    · rintro rfl
      exact spells
    · intro other
      exact read.symm.trans (Base64.decode_of_spells other)
  · simp only [strict, Form.Denotes]
    constructor
    · intro impossible
      cases impossible
    · intro spells
      exact absurd (Base64.isStrict_iff.mpr ⟨value, spells⟩) strict

/-- The reader of each form. -/
def reader (attributes : Attributes) : (form : Form) → String → Except Defect form.Value
  | .natural => attributes.natural
  | .text => attributes.text
  | .flag => attributes.flag
  | .payload => attributes.payload

theorem reader_ok_iff (form : Form) {value : form.Value} :
    attributes.reader form name = .ok value ↔
      Gives (fun name => attributes.lookup name) form name value := by
  have by_required : attributes.reader form name = .ok value ↔
      ∃ spelled, attributes.required name = .ok spelled ∧ form.Denotes spelled value := by
    cases form with
    | natural => exact natural_ok_iff
    | text => exact text_ok_iff
    | flag => exact flag_ok_iff
    | payload => exact payload_ok_iff
  rw [by_required, Gives]
  simp [required_ok_iff]

end Readers

/-- Only the values of the names that matter to a kind decide what is read, or what is wrong. -/
theorem content_congr {left right : Attributes} {kind : Kind}
    (same : ∀ name ∈ kind.names, left.lookup name = right.lookup name) :
    left.content kind = right.content kind := by
  cases kind <;>
    simp only [Kind.names, Kind.required, Kind.optional, List.map_cons, List.map_nil,
      List.cons_append, List.nil_append, List.forall_mem_cons] at same <;>
    simp [content, natural, text, flag, payload, optionalText, required, same]

theorem content_ok_iff {attributes : Attributes} {kind : Kind} {content : kind.Content} :
    attributes.content kind = .ok content ↔
      Says (fun name => attributes.lookup name) kind content := by
  have natural {name value} : attributes.natural name = .ok value ↔ _ :=
    reader_ok_iff .natural
  have text {name value} : attributes.text name = .ok value ↔ _ := reader_ok_iff .text
  have flag {name value} : attributes.flag name = .ok value ↔ _ := reader_ok_iff .flag
  have payload {name value} : attributes.payload name = .ok value ↔ _ :=
    reader_ok_iff .payload
  cases kind <;> cases content <;>
    simp only [Attributes.content, Says, bind_ok_iff, pure_ok_iff, natural, text, flag, payload,
      optionalText, Grant.mk.injEq, Discussion.mk.injEq, Proposal.mk.injEq, Settlement.mk.injEq] <;>
    simp [eq_comm]

end Attributes

/-!
## What is read
-/

theorem read_ok_iff {event : Event} {kind : Kind} {content : kind.Content} :
    event.read kind = .ok content ↔ event.type = kind.name ∧ Says event.value? kind content := by
  have same : ∀ name ∈ kind.names, event.attributeValues.lookup name = event.value? name :=
    fun name member => lookup_attributeValues event (kind.isIdentifier_of_mem_names name member)
  unfold read
  split
  · next typed =>
    rw [Attributes.content_ok_iff]
    exact ⟨fun said => ⟨typed, said.congr same⟩,
      fun said => said.2.congr fun name member => (same name member).symm⟩
  · next other => simp [other]

theorem decode?_iff {event : Event} {kind : Kind} {content : kind.Content} :
    event.decode? kind = some content ↔ event.read kind = .ok content := by
  unfold decode?
  cases event.read kind <;> simp [Except.toOption]

/-- The decoders take exactly the events of the grammar, and each of them as a whole. -/
theorem decoders_take_exactly_the_grammar (event : Event) :
    (∀ kind : Kind, (∃ content, event.decode? kind = some content) ↔
      event.type = kind.name ∧
        ∀ field ∈ kind.required, ∃ value, Gives event.value? field.2 field.1 value) ∧
    (∀ (kind : Kind) (content : kind.Content), event.decode? kind = some content ↔
      event.type = kind.name ∧ Says event.value? kind content) ∧
    (∀ kind : Kind,
      (∃ content, event.decode? kind = some content ∧ event.parse kind = .ok content) ∨
        event.decode? kind = none ∧ ∃ reason details,
          event.parse kind = .error (.undecodable event.type reason details)) ∧
    (∀ typed : Typed, event.typed? = some typed ↔
      event.decode? typed.kind = some typed.content) := by
  have taken {kind : Kind} {content : kind.Content} :
      event.decode? kind = some content ↔
        event.type = kind.name ∧ Says event.value? kind content :=
    decode?_iff.trans read_ok_iff
  refine ⟨fun kind => ?_, fun kind content => taken, fun kind => ?_, fun typed => ?_⟩
  · simp only [taken, exists_and_left, exists_says]
  · unfold decode? parse
    cases event.read kind with
    | error defect => exact .inr ⟨rfl, defect.reason, defect.details, rfl⟩
    | ok content => exact .inl ⟨content, rfl, rfl⟩
  · obtain ⟨kind, content⟩ := typed
    simp only [typed?, Option.bind_eq_bind, Option.bind_eq_some_iff, Option.pure_def,
      Option.some.injEq]
    constructor
    · rintro ⟨named, _, content', decoded, same⟩
      cases same
      exact decoded
    · intro decoded
      exact ⟨kind, Kind.named?_iff.mpr (taken.mp decoded).1, content, decoded, rfl⟩

end Event

end RollCall
