import RollCall.Proofs.Configuring
import RollCall.Proofs.Lookups

/-!
# Readers of natural numbers

Documents, attributes and variables each have a reader of natural numbers. All three take the texts of
digits with blanks around them, of numbers below `2 ^ 53`, and no others, and they return the number
that the digits denote: rounding to binary64 before the bound is tested lets nothing beyond the bound
pass and changes nothing within it.
-/

set_option autoImplicit false

namespace RollCall

/-!
## Blanks around a text
-/

namespace Text

theorem exists_blanks (chars : List Char) : ∃ before behind,
    chars = before ++ trimChars chars ++ behind ∧ (∀ char ∈ before, isBlank char) ∧
      ∀ char ∈ behind, isBlank char := by
  have back := List.takeWhile_append_dropWhile (p := isBlank)
    (l := (chars.dropWhile isBlank).reverse)
  refine ⟨chars.takeWhile isBlank, ((chars.dropWhile isBlank).reverse.takeWhile isBlank).reverse,
    ?_, ?_, ?_⟩
  · rw [trimChars, List.append_assoc, ← List.reverse_append, back, List.reverse_reverse,
      List.takeWhile_append_dropWhile]
  · intro char member
    exact List.mem_takeWhile_imp member
  · intro char member
    exact List.mem_takeWhile_imp (List.mem_reverse.mp member)

end Text

namespace Number

/-- A text of digits, however many, with blanks around them, and the number that the digits
denote. -/
def Spaced (text : String) (value : Nat) : Prop :=
  ∃ before digits behind : String, text = before ++ digits ++ behind ∧
    (∀ char ∈ before.toList, Text.isBlank char) ∧ (∀ char ∈ behind.toList, Text.isBlank char) ∧
    InDigits digits value

theorem inDigits_trim_iff {text : String} {value : Nat} :
    InDigits (Text.trim text) value ↔ Spaced text value := by
  constructor
  · intro spelled
    obtain ⟨before, behind, split, blank, blank'⟩ := Text.exists_blanks text.toList
    refine ⟨String.ofList before, Text.trim text, String.ofList behind, ?_, ?_, ?_, spelled⟩
    · rw [← String.toList_inj, String.toList_append, String.toList_append, Text.trim,
        String.toList_ofList, String.toList_ofList, String.toList_ofList]
      exact split
    · rwa [String.toList_ofList]
    · rwa [String.toList_ofList]
  · intro spaced
    obtain ⟨before, digits, behind, rfl, blank, blank', spelled⟩ := spaced
    have trimmed := Text.trimChars_around blank blank' spelled.solid
    rwa [Text.trim, String.toList_append, String.toList_append, trimmed, String.ofList_toList]

/-- Blanks do not matter to the conversion that reads all numerals, and for digits it rounds what they
denote. -/
theorem ofNumeral_of_spaced {text : String} {value : Nat} (spaced : Spaced text value) :
    ofNumeral text = nearest (value : Rat) := by
  obtain ⟨before, digits, behind, rfl, blank, blank', spelled⟩ := spaced
  have trimmed := Text.trimChars_around blank blank' spelled.solid
  have same : ofNumeral (before ++ digits ++ behind) = ofNumeral digits := by
    unfold ofNumeral
    rw [String.toList_append, String.toList_append, trimmed, Text.trimChars_of_solid spelled.solid]
  rw [same, ofNumeral_of_inDigits spelled, ofDigits_eq_nearest, digitsValue_eq spelled.digits,
    ← spelled.denoted]

end Number

namespace Value

theorem asNat?_text_iff {text : String} {value : Nat} :
    (Value.text text).asNat? = some value ↔ Number.Spaced text value ∧ value ≤ 2 ^ 53 - 1 := by
  rw [asNat?_iff, ← Number.inDigits_trim_iff]
  constructor
  · intro natural
    cases natural with
    | text spelled safe => exact ⟨spelled, by omega⟩
  · intro spelled
    exact .text spelled.1 (by omega)

theorem asNat?_number_iff {number : Number} {value : Nat} :
    (Value.number number).asNat? = some value ↔ number = .ofNat value ∧ value ≤ 2 ^ 53 - 1 :=
  Number.safeNat?_eq_some_iff

end Value

theorem Event.Attributes.natural_of_lookup {attributes : Event.Attributes} {name text : String}
    (given : attributes.lookup name = some text) :
    attributes.natural name =
      (Value.text text).asNat?.elim (.error (.notNatural name (Text.trim text))) .ok := by
  have required : attributes.required name = .ok (Text.trim text) :=
    required_ok_iff.mpr ⟨text, given, rfl⟩
  rw [natural, required, Value.asNat?_text]
  dsimp only [bind, Except.bind]
  cases Number.naturalOf? (Text.trim text).toList <;> rfl

theorem Variables.natural_of_lookup {environment : Variables} {key text : String} (default : Nat)
    (given : environment.lookup key = some text) (solid : Text.trim text ≠ "") :
    environment.natural key default 0 =
      (Value.text text).asNat?.elim
        (.error (.setting key (Text.trim text) "an integer >= 0")) .ok := by
  have value : environment.value? key = some (Text.trim text) := by
    simp [Variables.value?, given, solid]
  have least (found : Option Nat) : found.filter (0 ≤ ·) = found := by
    cases found <;> simp
  rw [natural, ofForm, value, Value.asNat?_text]
  simp only [least]
  cases Number.naturalOf? (Text.trim text).toList <;> rfl

/-- The readers of natural numbers take the same texts and return what their digits denote. -/
theorem natural_readers_agree :
    (∀ (text : String) (value : Nat), (Value.text text).asNat? = some value ↔
      Number.Spaced text value ∧ value ≤ 2 ^ 53 - 1) ∧
    (∀ (attributes : Event.Attributes) (name text : String), attributes.lookup name = some text →
      attributes.natural name =
        (Value.text text).asNat?.elim (.error (.notNatural name (Text.trim text))) .ok) ∧
    (∀ (environment : Variables) (key text : String) (default : Nat),
      environment.lookup key = some text → Text.trim text ≠ "" →
      environment.natural key default 0 =
        (Value.text text).asNat?.elim
          (.error (.setting key (Text.trim text) "an integer >= 0")) .ok) ∧
    (∀ (text : String) (value : Nat), Number.Spaced text value →
      Number.ofNumeral text = .nearest (value : Rat) ∧
      (Number.ofNumeral text).safeNat? = if value ≤ 2 ^ 53 - 1 then some value else none) ∧
    (∀ (number : Number) (value : Nat), (Value.number number).asNat? = some value ↔
      number = .ofNat value ∧ value ≤ 2 ^ 53 - 1) := by
  refine ⟨fun text value => Value.asNat?_text_iff, fun attributes name text given => ?_,
    fun environment key text default given solid => ?_, fun text value spaced => ?_,
    fun number value => Value.asNat?_number_iff⟩
  · exact Event.Attributes.natural_of_lookup given
  · exact Variables.natural_of_lookup default given solid
  · have rounded := Number.ofNumeral_of_spaced spaced
    refine ⟨rounded, ?_⟩
    rw [rounded]
    exact Number.safeNat?_nearest value

/-- The greatest number that is read, with zeros before its digits and blanks around them, and one
beyond it that rounding takes for another. -/
theorem natural_readers_agree_at_bound :
    Number.Spaced "\t0009007199254740991 " (2 ^ 53 - 1) ∧
      (Value.text "\t0009007199254740991 ").asNat? = some (2 ^ 53 - 1) ∧
      Event.Attributes.natural [("amount", "\t0009007199254740991 ")] "amount" = .ok (2 ^ 53 - 1) ∧
      Variables.natural [("RPC_RETRIES", "\t0009007199254740991 ")] "RPC_RETRIES" 2 0 =
        .ok (2 ^ 53 - 1) ∧
      Number.Spaced "9007199254740993" (2 ^ 53 + 1) ∧
      Number.ofNumeral "9007199254740993" = .ofNat (2 ^ 53) ∧
      (Value.text "9007199254740993").asNat? = none ∧
      Event.Attributes.natural [("amount", "9007199254740993")] "amount" =
        .error (.notNatural "amount" "9007199254740993") ∧
      (Value.number (.ofNat (2 ^ 53 - 1))).asNat? = some (2 ^ 53 - 1) := by
  obtain ⟨ofText, ofAttribute, ofVariable, rounds, ofNumber⟩ := natural_readers_agree
  have padded : Number.Spaced "\t0009007199254740991 " (2 ^ 53 - 1) :=
    ⟨"\t", "0009007199254740991", " ", rfl, by simp [Text.isBlank], by simp [Text.isBlank],
      by decide +kernel⟩
  have read := (ofText _ _).mpr ⟨padded, Nat.le_refl _⟩
  have given := ofAttribute [("amount", "\t0009007199254740991 ")] "amount" _ rfl
  have set := ofVariable [("RPC_RETRIES", "\t0009007199254740991 ")] "RPC_RETRIES" _ 2 rfl
    (by decide +kernel)
  rw [read] at given set
  have beyond : Number.Spaced "9007199254740993" (2 ^ 53 + 1) :=
    ⟨"", "9007199254740993", "", rfl, by simp, by simp, by decide +kernel⟩
  have even : Number.nearest ((2 ^ 53 + 1 : Nat) : Rat) = .ofNat (2 ^ 53) := by decide +kernel
  have refused : (Value.text "9007199254740993").asNat? = none := by decide +kernel
  have wrong := ofAttribute [("amount", "9007199254740993")] "amount" _ rfl
  have bare : Text.trim "9007199254740993" = "9007199254740993" := by decide +kernel
  rw [refused, bare] at wrong
  exact ⟨padded, read, given, set, beyond, (rounds _ _ beyond).1.trans even, refused, wrong,
    (ofNumber _ _).mpr ⟨rfl, Nat.le_refl _⟩⟩

end RollCall
