import RollCall.Proofs.Grammar

/-!
# Wrapped attributes

Older nodes write key and value of an attribute in base64. Which attributes of an event are written
so makes no difference to what is read, as long as the keys are identifiers and no two are equal:
an identifier that is base64 itself wraps none of the names that are looked for, and none of these
names is what an identifier looks like when it is wrapped.
-/

set_option autoImplicit false

namespace RollCall

/-- A text as older nodes write it. -/
def Event.wrap (text : String) : String :=
  Base64.encode (Utf8.encode text)

/-- An attribute as older nodes write it. -/
def Attribute.wrap (entry : Attribute) : Attribute where
  key := Event.wrap entry.key
  value := Event.wrap entry.value

def Attribute.wrapIf (chosen : Bool) (entry : Attribute) : Attribute :=
  if chosen then entry.wrap else entry

/-- An event whose chosen attributes are written as older nodes write them. -/
def Event.wrapWhere (chosen : Attribute → Bool) (event : Event) : Event where
  type := event.type
  attributes := event.attributes.map fun entry => entry.wrapIf (chosen entry)

namespace Text

variable {name : String}

theorem ne_empty_of_isIdentifier (identifier : isIdentifier name) : name ≠ "" := by
  rintro rfl
  cases identifier

theorem mem_of_isIdentifier (identifier : isIdentifier name) {char : Char}
    (member : char ∈ name.toList) :
    beginsIdentifier char = true ∨ Number.isDigit char = true := by
  unfold isIdentifier at identifier
  cases chars : name.toList with
  | nil => simp [chars] at member
  | cons first rest =>
      simp only [chars, Bool.and_eq_true, List.all_eq_true, Bool.or_eq_true] at identifier
      rw [chars] at member
      rcases List.mem_cons.mp member with rfl | later
      · exact .inl identifier.1
      · exact identifier.2 char later

theorem ascii_of_isIdentifier (identifier : isIdentifier name) :
    ∀ char ∈ name.toList, char.toNat < 128 := by
  intro char member
  rcases mem_of_isIdentifier identifier member with begins | digit
  · simp only [beginsIdentifier, Bool.or_eq_true, Bool.and_eq_true, decide_eq_true_eq,
      beq_iff_eq] at begins
    rcases begins with letter | rfl
    · exact ascii_of_le letter.2 (by decide)
    · decide
  · exact ascii_of_le (Number.isDigit_iff.mp digit).2 (by decide)

theorem padding_not_mem_of_isIdentifier (identifier : isIdentifier name) :
    '=' ∉ name.toList := by
  intro member
  have neither : beginsIdentifier '=' = false ∧ Number.isDigit '=' = false := by decide
  rcases mem_of_isIdentifier identifier member with begins | digit
  · simp [neither.1] at begins
  · simp [neither.2] at digit

end Text

namespace Event

/-!
## Names, wrapped and plain
-/

theorem unwrapped_wrap (text : String) : Attributes.unwrapped (wrap text) = text := by
  rw [Attributes.unwrapped, wrap, Base64.decode_encode, Utf8.decode_encode]

theorem isStrict_wrap (text : String) : Base64.isStrict (wrap text) = true :=
  Base64.isStrict_encode _

theorem wrappedValue_wrap (text : String) : Attributes.wrappedValue (wrap text) = text := by
  rw [Attributes.wrappedValue, if_pos (isStrict_wrap text), unwrapped_wrap]

theorem wrap_ne_empty {text : String} (nonempty : text ≠ "") : wrap text ≠ "" := by
  intro empty
  have same := unwrapped_wrap text
  rw [empty] at same
  exact nonempty (same.symm.trans (by decide +kernel))

/-- A text of ASCII that unpadded base64 wraps is wrapped by it in no other way. -/
theorem eq_wrap_of_unwrapped {key name : String} (strict : Base64.isStrict key)
    (unpadded : '=' ∉ key.toList) (ascii : ∀ char ∈ name.toList, char.toNat < 128)
    (wraps : Attributes.unwrapped key = name) : key = wrap name := by
  obtain ⟨bytes, spelled⟩ := Base64.isStrict_iff.mp strict
  have decoded : Utf8.decode bytes = name := by
    rw [← Base64.decode_of_spells spelled]
    exact wraps
  rw [wrap, ← Utf8.eq_encode_of_decode ascii decoded, Base64.encode,
    Base64.encodeChars_of_spells spelled unpadded, String.ofList_toList]

/-- The names that matter look neither wrapped nor unwrapped like identifiers. -/
theorem Kind.name_apart : ∀ kind : Kind, ∀ name ∈ kind.names,
    Text.isIdentifier (wrap name) = false ∧
      Text.isIdentifier (Attributes.unwrapped name) = false := by
  intro kind
  cases kind <;> decide +kernel

/-!
## One attribute
-/

section

variable {entry : Attribute} {kind : Kind} {name : String}

theorem not_wraps (identifier : Text.isIdentifier entry.key) (member : name ∈ kind.names) :
    ¬ entry.Wraps name := by
  rintro ⟨-, strict, wraps⟩
  have same := eq_wrap_of_unwrapped strict (Text.padding_not_mem_of_isIdentifier identifier)
    (Text.ascii_of_isIdentifier (kind.isIdentifier_of_mem_names name member)) wraps
  rw [same, (kind.name_apart name member).1] at identifier
  cases identifier

theorem wrap_key_ne (identifier : Text.isIdentifier entry.key) (member : name ∈ kind.names) :
    entry.wrap.key ≠ name := by
  intro same
  have inside : Attributes.unwrapped name = entry.key := by
    rw [← same]
    exact unwrapped_wrap entry.key
  rw [← inside, (kind.name_apart name member).2] at identifier
  cases identifier

theorem wrap_wraps_iff (identifier : Text.isIdentifier entry.key) :
    entry.wrap.Wraps name ↔ entry.key = name := by
  constructor
  · rintro ⟨-, -, wraps⟩
    exact (unwrapped_wrap entry.key).symm.trans wraps
  · rintro rfl
    exact ⟨wrap_ne_empty (Text.ne_empty_of_isIdentifier identifier), isStrict_wrap _,
      unwrapped_wrap _⟩

theorem wrapIf_key_iff {chosen : Bool} (identifier : Text.isIdentifier entry.key)
    (member : name ∈ kind.names) :
    (entry.wrapIf chosen).key = name ↔ chosen = false ∧ entry.key = name := by
  cases chosen with
  | false => simp [Attribute.wrapIf]
  | true => simpa [Attribute.wrapIf] using wrap_key_ne identifier member

theorem wrapIf_wraps_iff {chosen : Bool} (identifier : Text.isIdentifier entry.key)
    (member : name ∈ kind.names) :
    (entry.wrapIf chosen).Wraps name ↔ chosen = true ∧ entry.key = name := by
  cases chosen with
  | false => simpa [Attribute.wrapIf] using not_wraps identifier member
  | true => simpa [Attribute.wrapIf] using wrap_wraps_iff identifier

end

/-!
## All attributes
-/

variable {kind : Kind} {name : String}

theorem find?_wrapIf_eq_none (chosen : Attribute → Bool) {entries : List Attribute}
    (identifiers : ∀ entry ∈ entries, Text.isIdentifier entry.key) (member : name ∈ kind.names)
    (fresh : name ∉ entries.map Attribute.key) :
    (entries.map fun entry => entry.wrapIf (chosen entry)).find? (·.key = name) = none := by
  rw [List.find?_eq_none]
  intro written among plain
  obtain ⟨entry, inside, rfl⟩ := List.mem_map.mp among
  have taken := (wrapIf_key_iff (identifiers entry inside) member).mp (of_decide_eq_true plain)
  exact fresh (List.mem_map.mpr ⟨entry, inside, taken.2⟩)

/-- A name that matters has the same value, in whichever way the attributes are written. -/
theorem value?_wrapWhere (chosen : Attribute → Bool) (event : Event)
    (distinct : (event.attributes.map Attribute.key).Nodup)
    (identifiers : ∀ entry ∈ event.attributes, Text.isIdentifier entry.key)
    (member : name ∈ kind.names) :
    (event.wrapWhere chosen).value? name = event.value? name := by
  have unwrapped : event.wrapped? name = none := by
    rw [wrapped?, List.find?_eq_none.mpr, Option.map_none]
    intro entry among
    simpa using not_wraps (identifiers entry among) member
  rw [value?, value?, unwrapped, Option.or_none]
  unfold plain? wrapped? wrapWhere
  dsimp only
  generalize event.attributes = entries at distinct identifiers
  induction entries with
  | nil => rfl
  | cons entry rest ih =>
      obtain ⟨fresh, distinct⟩ := List.nodup_cons.mp distinct
      have identifier := identifiers entry List.mem_cons_self
      have others := fun other among => identifiers other (List.mem_cons_of_mem _ among)
      have known := ih distinct others
      simp only [List.map_cons, List.find?_cons, wrapIf_key_iff identifier member,
        wrapIf_wraps_iff identifier member]
      by_cases same : entry.key = name
      · -- Later attributes have other keys, so a plain one does not come in before a wrapped head.
        have later := find?_wrapIf_eq_none chosen others member (same ▸ fresh)
        have value : Attributes.wrappedValue entry.wrap.value = entry.value := wrappedValue_wrap _
        cases written : chosen entry with
        | false => simp [same, Attribute.wrapIf]
        | true =>
            simp only [later, same, and_self, decide_true, Option.map_some]
            rw [Attribute.wrapIf, if_pos rfl, value]
            rfl
      · simpa [same] using known

/-- Plain and wrapped attributes are interchangeable: whichever of them are wrapped, the same is
read, or the same is wrong. -/
theorem typed?_wrapWhere (chosen : Attribute → Bool) (event : Event)
    (distinct : (event.attributes.map Attribute.key).Nodup)
    (identifiers : ∀ entry ∈ event.attributes, Text.isIdentifier entry.key) :
    (event.wrapWhere chosen).typed? = event.typed? ∧
      ∀ kind : Kind, (event.wrapWhere chosen).decode? kind = event.decode? kind ∧
        (event.wrapWhere chosen).parse kind = event.parse kind := by
  have read (kind : Kind) : (event.wrapWhere chosen).read kind = event.read kind := by
    have same : ∀ name ∈ kind.names, (event.wrapWhere chosen).attributeValues.lookup name =
        event.attributeValues.lookup name := by
      intro name member
      have identifier := kind.isIdentifier_of_mem_names name member
      rw [lookup_attributeValues _ identifier, lookup_attributeValues _ identifier,
        value?_wrapWhere chosen event distinct identifiers member]
    unfold Event.read
    rw [Attributes.content_congr same]
    rfl
  refine ⟨?_, fun kind => ⟨?_, ?_⟩⟩
  · simp only [typed?, decode?, read]
    rfl
  · rw [decode?, read, decode?]
  · rw [parse, read, parse]
    rfl

/-- A settlement with one required attribute wrapped, one plain, and another beside them. -/
theorem typed?_wrapWhere_settlement :
    let event : Event := ⟨"settle_proposal", [⟨"proposal", "7"⟩, ⟨"memo", "é"⟩, ⟨"state", "1"⟩]⟩
    let mixed : Event :=
      ⟨"settle_proposal", [⟨"cHJvcG9zYWw=", "Nw=="⟩, ⟨"bWVtbw==", "w6k="⟩, ⟨"state", "1"⟩]⟩
    (event.attributes.map Attribute.key).Nodup ∧
      (∀ entry ∈ event.attributes, Text.isIdentifier entry.key) ∧
      event.wrapWhere (fun entry => entry.key ≠ "state") = mixed ∧
      event.decode? .settlement = some ⟨7, 1⟩ ∧ mixed.decode? .settlement = some ⟨7, 1⟩ ∧
      mixed.typed? = event.typed? := by
  intro event mixed
  have distinct : (event.attributes.map Attribute.key).Nodup := by decide
  have identifiers : ∀ entry ∈ event.attributes, Text.isIdentifier entry.key := by decide +kernel
  have written : event.wrapWhere (fun entry => entry.key ≠ "state") = mixed := by decide +kernel
  have plain : event.decode? .settlement = some ⟨7, 1⟩ := by decide +kernel
  obtain ⟨typed, parts⟩ :=
    typed?_wrapWhere (fun entry => entry.key ≠ "state") event distinct identifiers
  rw [written] at typed parts
  exact ⟨distinct, identifiers, written, plain, (parts .settlement).1.trans plain, typed⟩

end Event

end RollCall
