import Mathlib.Algebra.Group.Nat.Defs
import Mathlib.Data.List.ModifyLast
import Mathlib.Data.List.TakeWhile
import Mathlib.Data.Set.List
import RollCall.Proofs.Encodings

/-!
# Bytes in groups of six bits

Base64 regroups the bits of a byte string by sixes. Every bit of a padded text is read but for those
that the last value before the padding has beyond the last byte, and writing the bytes again clears
just these. Which texts pass the strict tests of base64 and of hexadecimal text is set down here
without the tests.
-/

set_option autoImplicit false

namespace RollCall

/-!
## Bits
-/

/-- The lowest bits of a number, the highest of them first. -/
def lowestBits : Nat → Nat → List Bool
  | 0, _ => []
  | count + 1, value => value.testBit count :: lowestBits count value

@[simp] theorem length_lowestBits (count value : Nat) :
    (lowestBits count value).length = count := by
  induction count with
  | zero => rfl
  | succ count ih => rw [lowestBits, List.length_cons, ih]

theorem lowestBits_mod {count width : Nat} (inside : count ≤ width) (value : Nat) :
    lowestBits count (value % 2 ^ width) = lowestBits count value := by
  induction count with
  | zero => rfl
  | succ count ih =>
      have within : count < width := inside
      rw [lowestBits, lowestBits, ih within.le, Nat.testBit_mod_two_pow, decide_eq_true within,
        Bool.true_and]

/-- The bits of a number are those of its quotient by a power of two and those of the rest. -/
theorem lowestBits_add (high low value : Nat) :
    lowestBits (high + low) value =
      lowestBits high (value / 2 ^ low) ++ lowestBits low (value % 2 ^ low) := by
  rw [lowestBits_mod (Nat.le_refl low)]
  induction high with
  | zero => rw [Nat.zero_add, lowestBits, List.nil_append]
  | succ high ih =>
      rw [Nat.succ_add, lowestBits, lowestBits, ih, List.cons_append, Nat.testBit_div_two_pow,
        Nat.add_comm]

theorem length_flatMap_lowestBits {α : Type} (count : Nat) (value : α → Nat) (items : List α) :
    (items.flatMap fun item => lowestBits count (value item)).length = count * items.length := by
  induction items with
  | nil => rfl
  | cons item rest ih =>
      rw [List.flatMap_cons, List.length_append, ih, length_lowestBits, List.length_cons,
        Nat.mul_succ, Nat.add_comm]

namespace Base64

/-!
## Padded texts
-/

/-- The characters of the standard alphabet, in the order of their values. -/
def alphabet : List Char :=
  "ABCDEFGHIJKLMNOPQRSTUVWXYZabcdefghijklmnopqrstuvwxyz0123456789+/".toList

theorem length_alphabet : alphabet.length = 64 := by
  decide +kernel

/-- The character of a value. -/
def letter (value : Fin 64) : Char :=
  alphabet.get (value.cast length_alphabet.symm)

theorem symbol_eq_letter : ∀ value : Fin 64, symbol value = letter value := by
  decide +kernel

theorem letter_ascii (value : Fin 64) : (letter value).toNat < 128 :=
  symbol_eq_letter value ▸ symbol_ascii value

theorem letter_ne_padding (value : Fin 64) : letter value ≠ '=' :=
  symbol_eq_letter value ▸ symbol_ne_padding value

theorem standardValue?_letter (value : Fin 64) : standardValue? (letter value) = some value.val :=
  symbol_eq_letter value ▸ standardValue?_symbol value

theorem value?_letter (value : Fin 64) : value? (letter value) = some value.val :=
  symbol_eq_letter value ▸ value?_symbol value

/-- A text of letters in groups of four, of which the last may be completed by one or two padding
characters. -/
structure Padded (text : String) (values : List (Fin 64)) (padding : Nat) : Prop where
  spelled : text.toList = values.map letter ++ List.replicate padding '='
  few : padding ≤ 2
  whole : 4 ∣ values.length + padding

variable {text : String} {values : List (Fin 64)} {padding : Nat}

theorem Padded.ascii (padded : Padded text values padding) :
    ∀ char ∈ text.toList, char.toNat < 128 := by
  intro char member
  rw [padded.spelled, List.mem_append, List.mem_map] at member
  rcases member with ⟨value, _, rfl⟩ | pad
  · exact letter_ascii value
  · rw [List.eq_of_mem_replicate pad]
    decide

theorem Padded.count_padding (padded : Padded text values padding) :
    text.toList.count '=' = padding := by
  have none : '=' ∉ values.map letter := by
    intro member
    obtain ⟨value, _, same⟩ := List.mem_map.mp member
    exact letter_ne_padding value same
  rw [padded.spelled, List.count_append, List.count_eq_zero_of_not_mem none,
    List.count_replicate_self, Nat.zero_add]

theorem Padded.length (padded : Padded text values padding) :
    text.length = values.length + padding := by
  rw [← String.length_toList, padded.spelled, List.length_append, List.length_map,
    List.length_replicate]

theorem exists_values {chars : List Char}
    (standard : ∀ char ∈ chars, (standardValue? char).isSome) :
    ∃ values : List (Fin 64), values.map letter = chars := by
  have each : ∀ char ∈ chars, char ∈ Set.range letter := by
    intro char member
    obtain ⟨value, same⟩ := exists_symbol (standard char member)
    exact ⟨value, (symbol_eq_letter value).symm.trans same⟩
  have range : chars ∈ Set.range (List.map letter) := by
    rw [Set.range_list_map]
    exact each
  exact range

theorem isStrict_iff_padded :
    isStrict text = true ↔ ∃ values padding, Padded text values padding := by
  constructor
  · intro strict
    simp only [isStrict, Bool.and_eq_true, Bool.or_eq_true, beq_iff_eq, or_assoc] at strict
    obtain ⟨whole, padded⟩ := strict
    obtain ⟨padding, few, same⟩ : ∃ padding ≤ 2,
        text.toList.dropWhile (fun char => (standardValue? char).isSome) =
          List.replicate padding '=' := by
      rcases padded with none | one | two
      · exact ⟨0, by omega, none⟩
      · exact ⟨1, by omega, one⟩
      · exact ⟨2, by omega, two⟩
    obtain ⟨values, letters⟩ := exists_values fun char member =>
      List.mem_takeWhile_imp (p := fun char => (standardValue? char).isSome) (l := text.toList)
        member
    have parts := List.takeWhile_append_dropWhile (p := fun char => (standardValue? char).isSome)
      (l := text.toList)
    rw [← letters, same] at parts
    have length := congrArg List.length parts
    rw [List.length_append, List.length_map, List.length_replicate] at length
    exact ⟨values, padding, parts.symm, few, by omega⟩
  · intro shaped
    obtain ⟨values, padding, padded⟩ := shaped
    have outside : standardValue? '=' = none := by decide
    have letters : ∀ char ∈ values.map letter, (standardValue? char).isSome = true := by
      intro char member
      obtain ⟨value, _, rfl⟩ := List.mem_map.mp member
      rw [standardValue?_letter, Option.isSome_some]
    have rest : text.toList.dropWhile (fun char => (standardValue? char).isSome) =
        List.replicate padding '=' := by
      rw [padded.spelled, List.dropWhile_append_of_pos letters]
      simp [outside]
    have whole : text.toList.length % 4 = 0 := by
      rw [String.length_toList, padded.length]
      exact Nat.mod_eq_zero_of_dvd padded.whole
    unfold isStrict
    dsimp only
    rw [rest, whole]
    obtain rfl | rfl | rfl : padding = 0 ∨ padding = 1 ∨ padding = 2 := by
      have few := padded.few
      omega
    all_goals rfl

/-!
## Reading
-/

/-- The lenient reader joins the values of a padded text and leaves none of them out. -/
theorem decode_of_padded (padded : Padded text values padding) :
    decode text = joinSextets (values.map Fin.val) := by
  have letters : ∀ char ∈ values.map letter, (char != '=') = true := by
    intro char member
    obtain ⟨value, _, rfl⟩ := List.mem_map.mp member
    exact bne_iff_ne.mpr (letter_ne_padding value)
  have valued : value? ∘ letter = some ∘ Fin.val := funext value?_letter
  have before : text.toList.takeWhile (· != '=') = values.map letter := by
    rw [padded.spelled, List.takeWhile_append_of_pos letters]
    simp
  rw [decode, narrowed_of_ascii padded.ascii, before, List.filterMap_map, valued,
    List.filterMap_eq_map]

section Group

variable (first second third fourth : Fin 64)

theorem bits_first : lowestBits 8 (UInt8.ofNat (first * 4 + second / 16)).toNat =
    lowestBits 6 first ++ lowestBits 2 (second / 16) := by
  rw [toNat_byte _ (by omega), lowestBits_add 6 2]
  congr 2 <;> omega

theorem bits_second : lowestBits 8 (UInt8.ofNat (second % 16 * 16 + third / 4)).toNat =
    lowestBits 4 (second % 16) ++ lowestBits 4 (third / 4) := by
  rw [toNat_byte _ (by omega), lowestBits_add 4 4]
  congr 2 <;> omega

theorem bits_third : lowestBits 8 (UInt8.ofNat (third % 4 * 64 + fourth)).toNat =
    lowestBits 2 (third % 4) ++ lowestBits 6 fourth := by
  rw [toNat_byte _ (by omega), lowestBits_add 2 6]
  congr 2 <;> omega

theorem bits_after_two : lowestBits 6 second =
    lowestBits 2 (second / 16) ++ lowestBits 4 (second % 16) :=
  lowestBits_add 2 4 second

theorem bits_after_four : lowestBits 6 third =
    lowestBits 4 (third / 4) ++ lowestBits 2 (third % 4) :=
  lowestBits_add 4 2 third

end Group

/-- The bits of the bytes that values are joined to are the bits of the values, but for the last
ones, which are too few for a byte. -/
theorem exists_spare : ∀ values : List (Fin 64), ∃ spare,
    spare.length = 6 * values.length % 8 ∧
      values.flatMap (fun value => lowestBits 6 value.val) =
        (joinSextets (values.map Fin.val)).flatMap (fun byte => lowestBits 8 byte.toNat) ++ spare
  | [] => ⟨[], rfl, rfl⟩
  | [first] => ⟨lowestBits 6 first, rfl, by simp [joinSextets]⟩
  | [first, second] => by
      refine ⟨lowestBits 4 (second % 16), by simp, ?_⟩
      simp only [List.map_cons, List.map_nil, joinSextets, List.flatMap_cons, List.flatMap_nil,
        List.append_nil, List.append_assoc, bits_first]
      rw [bits_after_two second]
  | [first, second, third] => by
      refine ⟨lowestBits 2 (third % 4), by simp, ?_⟩
      simp only [List.map_cons, List.map_nil, joinSextets, List.flatMap_cons, List.flatMap_nil,
        List.append_nil, List.append_assoc, bits_first, bits_second]
      rw [bits_after_two second, bits_after_four third, List.append_assoc]
  | first :: second :: third :: fourth :: rest => by
      obtain ⟨spare, few, same⟩ := exists_spare rest
      -- Four values are three bytes to the last bit, so the rest spares all that there is to spare.
      refine ⟨spare, ?_, ?_⟩
      · simp only [List.length_cons]
        omega
      · simp only [List.map_cons, joinSextets, List.flatMap_cons, List.append_assoc, bits_first,
          bits_second, bits_third, ← same]
        rw [bits_after_two second, bits_after_four third, List.append_assoc,
          List.append_assoc]

/-- Six bits a value make as many bytes as are whole. -/
theorem length_joinSextets (values : List (Fin 64)) :
    (joinSextets (values.map Fin.val)).length = 6 * values.length / 8 := by
  obtain ⟨spare, few, same⟩ := exists_spare values
  have lengths := congrArg List.length same
  rw [List.length_append, length_flatMap_lowestBits, length_flatMap_lowestBits, few] at lengths
  omega

/-!
## Writing again
-/

/-- A value without its lowest bits, two for each padding character. -/
def cleared (padding : Nat) (value : Fin 64) : Fin 64 :=
  ⟨value / 4 ^ padding * 4 ^ padding, lt_of_le_of_lt (Nat.div_mul_le_self _ _) value.isLt⟩

theorem cleared_zero (value : Fin 64) : cleared 0 value = value := by
  simp [cleared]

theorem encodeChars_two (first second third : Fin 64) :
    encodeChars [UInt8.ofNat (first * 4 + second / 16), UInt8.ofNat (second % 16 * 16 + third / 4)] =
      [letter first, letter second, letter (cleared 1 third), '='] := by
  rw [encodeChars, toNat_byte _ (by omega), toNat_byte _ (by omega), ← symbol_eq_letter,
    ← symbol_eq_letter, ← symbol_eq_letter]
  dsimp only [cleared]
  rw [show (first * 4 + second / 16 : Nat) / 4 = first by omega,
    show (first * 4 + second / 16 : Nat) % 4 * 16 + (second % 16 * 16 + third / 4) / 16 = second by
      omega,
    show (second % 16 * 16 + third / 4 : Nat) % 16 * 4 = third / 4 ^ 1 * 4 ^ 1 by omega]

theorem encodeChars_one (first second : Fin 64) :
    encodeChars [UInt8.ofNat (first * 4 + second / 16)] =
      [letter first, letter (cleared 2 second), '=', '='] := by
  rw [encodeChars, toNat_byte _ (by omega), ← symbol_eq_letter, ← symbol_eq_letter]
  dsimp only [cleared]
  rw [show (first * 4 + second / 16 : Nat) / 4 = first by omega,
    show (first * 4 + second / 16 : Nat) % 4 * 16 = second / 4 ^ 2 * 4 ^ 2 by omega]

/-- Of the values that were read only the last may be written otherwise. -/
theorem encodeChars_joinSextets {padding : Nat} (few : padding ≤ 2) :
    ∀ values : List (Fin 64), 4 ∣ values.length + padding →
      encodeChars (joinSextets (values.map Fin.val)) =
        (values.modifyLast (cleared padding)).map letter ++ List.replicate padding '='
  | [], whole => by
      obtain rfl : padding = 0 := by
        rw [List.length_nil] at whole
        omega
      rfl
  | [first], whole => by
      rw [List.length_singleton] at whole
      omega
  | [first, second], whole => by
      obtain rfl : padding = 2 := by
        simp only [List.length_cons, List.length_nil] at whole
        omega
      exact encodeChars_one first second
  | [first, second, third], whole => by
      obtain rfl : padding = 1 := by
        simp only [List.length_cons, List.length_nil] at whole
        omega
      exact encodeChars_two first second third
  | first :: second :: third :: fourth :: rest, whole => by
      simp only [List.length_cons] at whole
      have later := encodeChars_joinSextets few rest (by omega)
      simp only [List.map_cons, joinSextets, encodeChars_group, later, symbol_eq_letter]
      -- The value that changes is the last of all: it is in this group only if no other follows.
      cases rest with
      | nil =>
          obtain rfl : padding = 0 := by
            rw [List.length_nil] at whole
            omega
          rw [show [first, second, third, fourth] = [first, second, third] ++ [fourth] from rfl,
            List.modifyLast_concat, cleared_zero]
          rfl
      | cons next others =>
          rw [show first :: second :: third :: fourth :: next :: others =
              [first, second, third, fourth] ++ next :: others from rfl,
            List.modifyLast_append_of_right_ne_nil _ _ _ (List.cons_ne_nil next others)]
          rfl

theorem Padded.length_decode (padded : Padded text values padding) :
    (decode text).length = 3 * text.length / 4 - padding := by
  have few := padded.few
  have whole := padded.whole
  rw [decode_of_padded padded, length_joinSextets, padded.length]
  omega

theorem Padded.exists_spare (padded : Padded text values padding) : ∃ spare,
    spare.length = 2 * padding ∧
      values.flatMap (fun value => lowestBits 6 value.val) =
        (decode text).flatMap (fun byte => lowestBits 8 byte.toNat) ++ spare := by
  obtain ⟨spare, length, same⟩ := Base64.exists_spare values
  have few := padded.few
  have whole := padded.whole
  refine ⟨spare, by omega, ?_⟩
  rw [decode_of_padded padded, same]

theorem length_modifyLast {α : Type} (change : α → α) (items : List α) :
    (items.modifyLast change).length = items.length := by
  rcases items.eq_nil_or_concat with rfl | ⟨front, last, rfl⟩
  · rfl
  · rw [List.concat_eq_append, List.modifyLast_concat, List.length_append, List.length_append]
    rfl

theorem Padded.encode_decode (padded : Padded text values padding) :
    Padded (encode (decode text)) (values.modifyLast (cleared padding)) padding := by
  have written := encodeChars_joinSextets padded.few values padded.whole
  refine ⟨?_, padded.few, ?_⟩
  · rw [encode, String.toList_ofList, decode_of_padded padded, written]
  · rw [length_modifyLast]
    exact padded.whole

end Base64

/-!
## Hexadecimal text
-/

namespace Hex

theorem spells_encode (bytes : Bytes) : Spells (encode bytes).toList bytes := by
  have small : ∀ value : Fin 16, (digit value).toLower = digit value := by decide
  rw [encode, String.toList_ofList]
  induction bytes with
  | nil => exact .nil
  | cons byte rest ih =>
      have below := byte.toNat_lt
      have spelled := Spells.cons ⟨byte.toNat / 16, by omega⟩ ⟨byte.toNat % 16, by omega⟩
        (small _) (small _) ih
      dsimp only at spelled
      rwa [Nat.div_add_mod, UInt8.ofNat_toNat] at spelled

theorem stripMarker_of_digits {chars : List Char} (digits : ∀ char ∈ chars, IsDigit char) :
    stripMarker chars = chars := by
  unfold stripMarker
  split
  · exact absurd (digits 'x' (by simp)) (by decide)
  · exact absurd (digits 'X' (by simp)) (by decide)
  · rfl

theorem decode?_encode (bytes : Bytes) : decode? (encode bytes) = some bytes := by
  have spelled := spells_encode bytes
  have digits := (exists_spells_iff.mp ⟨bytes, spelled⟩).2
  rw [decode?, stripMarker_of_digits digits]
  exact decodeDigits_iff.mpr spelled

theorem decode?_eq_some_iff {text : String} {bytes : Bytes} :
    decode? text = some bytes ↔ ∃ rest, Unmarked text.toList rest ∧ Spells rest bytes := by
  simp [decode?, decodeDigits_iff, unmarked_iff]

end Hex

/-!
## The codecs
-/

theorem codecs_lose_nothing :
    (∀ bytes : Bytes, Base64.isStrict (Base64.encode bytes) = true ∧
      Base64.decode (Base64.encode bytes) = bytes ∧
      Hex.decode? (Hex.encode bytes) = some bytes) ∧
    (∀ text : String, Base64.isStrict text = true ↔
      ∃ values padding, Base64.Padded text values padding) ∧
    (∀ (text : String) (values : List (Fin 64)) (padding : Nat), Base64.Padded text values padding →
      (Base64.decode text).length = 3 * text.length / 4 - text.toList.count '=' ∧
      (∃ spare, spare.length = 2 * padding ∧
        values.flatMap (fun value => lowestBits 6 value.val) =
          (Base64.decode text).flatMap (fun byte => lowestBits 8 byte.toNat) ++ spare) ∧
      Base64.Padded (Base64.encode (Base64.decode text))
        (values.modifyLast (Base64.cleared padding)) padding) ∧
    (∀ text : String, (∃ bytes, Hex.decode? text = some bytes) ↔
      ∃ rest, Hex.Unmarked text.toList rest ∧ 2 ∣ rest.length ∧
        ∀ char ∈ rest, Hex.IsDigit char) ∧
    (∀ (text : String) (bytes : Bytes), Hex.decode? text = some bytes →
      ∃ rest, Hex.Unmarked text.toList rest ∧
        (Hex.encode bytes).toList = rest.map Char.toLower) := by
  refine ⟨fun bytes => ?_, fun text => Base64.isStrict_iff_padded,
    fun text values padding padded => ?_, fun text => ?_, fun text bytes read => ?_⟩
  · exact ⟨Base64.isStrict_encode bytes, Base64.decode_encode bytes, Hex.decode?_encode bytes⟩
  · refine ⟨?_, padded.exists_spare, padded.encode_decode⟩
    rw [padded.count_padding]
    exact padded.length_decode
  · constructor
    · intro found
      obtain ⟨bytes, read⟩ := found
      obtain ⟨rest, unmarked, spelled⟩ := Hex.decode?_eq_some_iff.mp read
      obtain ⟨even, digits⟩ := Hex.exists_spells_iff.mp ⟨bytes, spelled⟩
      exact ⟨rest, unmarked, Nat.dvd_of_mod_eq_zero even, digits⟩
    · intro shaped
      obtain ⟨rest, unmarked, even, digits⟩ := shaped
      obtain ⟨bytes, spelled⟩ := Hex.exists_spells_iff.mpr ⟨Nat.mod_eq_zero_of_dvd even, digits⟩
      exact ⟨bytes, Hex.decode?_eq_some_iff.mpr ⟨rest, unmarked, spelled⟩⟩
  · obtain ⟨rest, unmarked, spelled⟩ := Hex.decode?_eq_some_iff.mp read
    exact ⟨rest, unmarked, Hex.encode_of_spells spelled⟩

/-- A text whose last value has bits beyond the last byte, and digits of both cases behind a mark. -/
theorem codecs_lose_nothing_untidy :
    Base64.Padded "aGl=" [26, 6, 37] 1 ∧ (Base64.decode "aGl=").length = 2 ∧
      Base64.Padded (Base64.encode (Base64.decode "aGl=")) [26, 6, 36] 1 ∧
      Base64.encode (Base64.decode "aGl=") = "aGk=" ∧
      Hex.decode? "0XaB" = some [0xAB] ∧
      ∃ rest, Hex.Unmarked "0XaB".toList rest ∧
        (Hex.encode [0xAB]).toList = rest.map Char.toLower := by
  have padded : Base64.Padded "aGl=" [26, 6, 37] 1 :=
    ⟨by decide +kernel, by decide, by decide⟩
  have read : Hex.decode? "0XaB" = some [0xAB] := by decide +kernel
  obtain ⟨-, -, of_padded, -, of_hex⟩ := codecs_lose_nothing
  obtain ⟨length, -, again⟩ := of_padded "aGl=" [26, 6, 37] 1 padded
  exact ⟨padded, length, again, by decide +kernel, read, of_hex "0XaB" [0xAB] read⟩

end RollCall
