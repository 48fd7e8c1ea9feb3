import RollCall.Bytes.Base64
import RollCall.Bytes.Hex
import RollCall.Bytes.Utf8

/-!
# Texts and bytes, there and back

Which texts are strict base64, and for which bytes, is said by a relation that mentions neither the
strict test nor the lenient reader; both agree with it. Reading a text's UTF-8 gives the text, and a
byte string that reads as ASCII is the UTF-8 of what it reads as.
-/

set_option autoImplicit false

namespace RollCall

private theorem char_of_below (bound : Nat) {P : Char → Prop}
    (each : ∀ code < bound, P (Char.ofNat code)) (char : Char) (below : char.toNat < bound) :
    P char := by
  have found := each char.toNat below
  rwa [Char.ofNat_toNat] at found

theorem ascii_of_le {char limit : Char} (below : char ≤ limit) (small : limit.toNat < 128) :
    char.toNat < 128 :=
  Nat.lt_of_le_of_lt (UInt32.le_iff_toNat_le.mp below) small

theorem narrowed_of_ascii {text : String} (ascii : ∀ char ∈ text.toList, char.toNat < 128) :
    narrowed text = text.toList := by
  unfold narrowed units16
  generalize text.toList = chars at ascii
  induction chars with
  | nil => rfl
  | cons char rest ih =>
      have small := ascii char List.mem_cons_self
      have others := ih fun other member => ascii other (List.mem_cons_of_mem _ member)
      rw [List.flatMap_cons, if_pos (by omega), List.map_append, others]
      simp [Nat.mod_eq_of_lt (show char.toNat < 256 by omega), Char.ofNat_toNat]

theorem toNat_byte (value : Nat) (small : value < 256) : (UInt8.ofNat value).toNat = value :=
  UInt8.toNat_ofNat_of_lt' small

/-!
## Base64
-/

namespace Base64

/-- The byte strings that padded texts stand for: four characters for three bytes, and in the end,
with padding, three for two or two for one. What the last character before the padding holds beyond
these bytes is left open. -/
inductive Spells : List Char → Bytes → Prop where
  | nil : Spells [] []
  | one (first second : Fin 64) :
      Spells [symbol first, symbol second, '=', '='] [UInt8.ofNat (first * 4 + second / 16)]
  | two (first second third : Fin 64) :
      Spells [symbol first, symbol second, symbol third, '=']
        [UInt8.ofNat (first * 4 + second / 16), UInt8.ofNat (second % 16 * 16 + third / 4)]
  | three (first second third fourth : Fin 64) {rest : List Char} {bytes : Bytes}
      (spelled : Spells rest bytes) :
      Spells (symbol first :: symbol second :: symbol third :: symbol fourth :: rest)
        (UInt8.ofNat (first * 4 + second / 16) :: UInt8.ofNat (second % 16 * 16 + third / 4) ::
          UInt8.ofNat (third % 4 * 64 + fourth) :: bytes)

example : String.ofList ((List.range 64).map symbol) =
    "ABCDEFGHIJKLMNOPQRSTUVWXYZabcdefghijklmnopqrstuvwxyz0123456789+/" := by decide +kernel

theorem standardValue?_symbol : ∀ value : Fin 64, standardValue? (symbol value) = some value.val := by
  decide +kernel

theorem value?_symbol : ∀ value : Fin 64, value? (symbol value) = some value.val := by
  decide +kernel

theorem symbol_ascii : ∀ value : Fin 64, (symbol value).toNat < 128 := by
  decide +kernel

theorem symbol_ne_padding : ∀ value : Fin 64, symbol value ≠ '=' := by
  decide +kernel

theorem ascii_of_standardValue? {char : Char} (standard : (standardValue? char).isSome) :
    char.toNat < 128 := by
  unfold standardValue? at standard
  split at standard
  · next range => exact ascii_of_le range.2 (by decide)
  · split at standard
    · next range => exact ascii_of_le range.2 (by decide)
    · split at standard
      · next range => exact ascii_of_le range.2 (by decide)
      · split at standard
        · next same => subst same; decide
        · split at standard
          · next same => subst same; decide
          · cases standard

theorem exists_symbol {char : Char} (standard : (standardValue? char).isSome) :
    ∃ value : Fin 64, symbol value = char := by
  refine char_of_below 128 (P := fun char => (standardValue? char).isSome →
    ∃ value : Fin 64, symbol value = char) ?_ char
    (ascii_of_standardValue? standard) standard
  decide +kernel

theorem Spells.ascii {chars : List Char} {bytes : Bytes} (spelled : Spells chars bytes) :
    ∀ char ∈ chars, char.toNat < 128 := by
  induction spelled with
  | nil => simp
  | one first second => simp [symbol_ascii]
  | two first second third => simp [symbol_ascii]
  | three first second third fourth _ ih => simpa [symbol_ascii] using ih

/-- The lenient reader reads what a padded text spells. -/
theorem decode_of_spells {text : String} {bytes : Bytes} (spelled : Spells text.toList bytes) :
    decode text = bytes := by
  unfold decode
  rw [narrowed_of_ascii spelled.ascii]
  generalize text.toList = chars at spelled
  induction spelled with
  | nil => rfl
  | one first second => simp [symbol_ne_padding, value?_symbol, joinSextets]
  | two first second third => simp [symbol_ne_padding, value?_symbol, joinSextets]
  | three first second third fourth _ ih =>
      simp [symbol_ne_padding, value?_symbol, joinSextets, ih]

theorem spells_encodeChars : ∀ bytes : Bytes, Spells (encodeChars bytes) bytes
  | [] => .nil
  | [first] => by
      have small := first.toNat_lt
      have spelled := Spells.one ⟨first.toNat / 4, by omega⟩ ⟨first.toNat % 4 * 16, by omega⟩
      rw [show first.toNat / 4 * 4 + first.toNat % 4 * 16 / 16 = first.toNat by omega,
        UInt8.ofNat_toNat] at spelled
      exact spelled
  | [first, second] => by
      have small := first.toNat_lt
      have small' := second.toNat_lt
      have spelled := Spells.two ⟨first.toNat / 4, by omega⟩
        ⟨first.toNat % 4 * 16 + second.toNat / 16, by omega⟩ ⟨second.toNat % 16 * 4, by omega⟩
      dsimp only at spelled
      rw [show first.toNat / 4 * 4 + (first.toNat % 4 * 16 + second.toNat / 16) / 16 = first.toNat by
          omega,
        show (first.toNat % 4 * 16 + second.toNat / 16) % 16 * 16 + second.toNat % 16 * 4 / 4 =
          second.toNat by omega, UInt8.ofNat_toNat, UInt8.ofNat_toNat] at spelled
      exact spelled
  | first :: second :: third :: rest => by
      have small := first.toNat_lt
      have small' := second.toNat_lt
      have small'' := third.toNat_lt
      have spelled := Spells.three ⟨first.toNat / 4, by omega⟩
        ⟨first.toNat % 4 * 16 + second.toNat / 16, by omega⟩
        ⟨second.toNat % 16 * 4 + third.toNat / 64, by omega⟩ ⟨third.toNat % 64, by omega⟩
        (spells_encodeChars rest)
      dsimp only at spelled
      rw [show first.toNat / 4 * 4 + (first.toNat % 4 * 16 + second.toNat / 16) / 16 = first.toNat by
          omega,
        show (first.toNat % 4 * 16 + second.toNat / 16) % 16 * 16 +
          (second.toNat % 16 * 4 + third.toNat / 64) / 4 = second.toNat by omega,
        show (second.toNat % 16 * 4 + third.toNat / 64) % 4 * 64 + third.toNat % 64 =
          third.toNat by omega, UInt8.ofNat_toNat, UInt8.ofNat_toNat, UInt8.ofNat_toNat] at spelled
      exact spelled

theorem spells_encode (bytes : Bytes) : Spells (encode bytes).toList bytes := by
  rw [encode, String.toList_ofList]
  exact spells_encodeChars bytes

theorem decode_encode (bytes : Bytes) : decode (encode bytes) = bytes :=
  decode_of_spells (spells_encode bytes)

theorem encodeChars_group (first second third fourth : Fin 64) (rest : Bytes) :
    encodeChars (UInt8.ofNat (first * 4 + second / 16) ::
        UInt8.ofNat (second % 16 * 16 + third / 4) :: UInt8.ofNat (third % 4 * 64 + fourth) :: rest) =
      symbol first :: symbol second :: symbol third :: symbol fourth :: encodeChars rest := by
  rw [encodeChars, toNat_byte _ (by omega), toNat_byte _ (by omega), toNat_byte _ (by omega)]
  rw [show (first * 4 + second / 16 : Nat) / 4 = first by omega,
    show (first * 4 + second / 16 : Nat) % 4 * 16 + (second % 16 * 16 + third / 4) / 16 = second by
      omega,
    show (second % 16 * 16 + third / 4 : Nat) % 16 * 4 + (third % 4 * 64 + fourth) / 64 = third by
      omega,
    show (third % 4 * 64 + fourth : Nat) % 64 = fourth by omega]

/-- A text without padding is what is written for the bytes that it spells. -/
theorem encodeChars_of_spells {chars : List Char} {bytes : Bytes} (spelled : Spells chars bytes)
    (whole : '=' ∉ chars) : encodeChars bytes = chars := by
  induction spelled with
  | nil => rfl
  | one first second => simp at whole
  | two first second third => simp at whole
  | three first second third fourth _ ih =>
      rw [encodeChars_group, ih fun member => whole (by simp [member])]

private theorem exists_spelled_of_standard {padding : List Char}
    (padded : padding = [] ∨ padding = ['='] ∨ padding = ['=', '=']) :
    ∀ body : List Char, (∀ char ∈ body, (standardValue? char).isSome) →
      (body.length + padding.length) % 4 = 0 → ∃ bytes, Spells (body ++ padding) bytes
  | [], _, whole => by
      obtain rfl | rfl | rfl := padded
      · exact ⟨[], .nil⟩
      · simp at whole
      · simp at whole
  | [first], _, whole => by
      obtain rfl | rfl | rfl := padded <;> simp at whole
  | [first, second], standard, whole => by
      obtain rfl | rfl | rfl := padded
      · simp at whole
      · simp at whole
      · obtain ⟨first, rfl⟩ := exists_symbol (standard first (by simp))
        obtain ⟨second, rfl⟩ := exists_symbol (standard second (by simp))
        exact ⟨_, .one first second⟩
  | [first, second, third], standard, whole => by
      obtain rfl | rfl | rfl := padded
      · simp at whole
      · obtain ⟨first, rfl⟩ := exists_symbol (standard first (by simp))
        obtain ⟨second, rfl⟩ := exists_symbol (standard second (by simp))
        obtain ⟨third, rfl⟩ := exists_symbol (standard third (by simp))
        exact ⟨_, .two first second third⟩
      · simp at whole
  | first :: second :: third :: fourth :: rest, standard, whole => by
      obtain ⟨bytes, spelled⟩ := exists_spelled_of_standard padded rest
        (fun char member => standard char (by simp [member]))
        (by simp only [List.length_cons] at whole; omega)
      obtain ⟨first, rfl⟩ := exists_symbol (standard first (by simp))
      obtain ⟨second, rfl⟩ := exists_symbol (standard second (by simp))
      obtain ⟨third, rfl⟩ := exists_symbol (standard third (by simp))
      obtain ⟨fourth, rfl⟩ := exists_symbol (standard fourth (by simp))
      exact ⟨_, .three first second third fourth spelled⟩

theorem Spells.padding {chars : List Char} {bytes : Bytes} (spelled : Spells chars bytes) :
    chars.length % 4 = 0 ∧
      (chars.dropWhile (fun char => (standardValue? char).isSome) = [] ∨
        chars.dropWhile (fun char => (standardValue? char).isSome) = ['='] ∨
        chars.dropWhile (fun char => (standardValue? char).isSome) = ['=', '=']) := by
  have outside : standardValue? '=' = none := by decide
  induction spelled with
  | nil => simp
  | one first second => simp [standardValue?_symbol, outside]
  | two first second third => simp [standardValue?_symbol, outside]
  | three first second third fourth _ ih =>
      obtain ⟨whole, padded⟩ := ih
      refine ⟨?_, by simpa [standardValue?_symbol] using padded⟩
      simp only [List.length_cons]
      omega

/-- The strict test admits exactly the texts that spell something. -/
theorem isStrict_iff {text : String} :
    isStrict text = true ↔ ∃ bytes, Spells text.toList bytes := by
  constructor
  · intro strict
    simp only [isStrict, Bool.and_eq_true, Bool.or_eq_true, beq_iff_eq, or_assoc] at strict
    obtain ⟨whole, padded⟩ := strict
    have parts := List.takeWhile_append_dropWhile (p := fun char => (standardValue? char).isSome)
      (l := text.toList)
    rw [← parts]
    refine exists_spelled_of_standard padded _ (fun char member => ?_) ?_
    · exact List.all_eq_true.mp (List.all_takeWhile) char member
    · rw [← List.length_append, parts]
      exact whole
  · rintro ⟨bytes, spelled⟩
    simpa [isStrict, or_assoc] using spelled.padding

theorem isStrict_encode (bytes : Bytes) : isStrict (encode bytes) = true :=
  isStrict_iff.mpr ⟨bytes, spells_encode bytes⟩

end Base64

/-!
## Hexadecimal text
-/

namespace Hex

/-- A hexadecimal digit of either case. -/
def IsDigit (char : Char) : Prop :=
  ('0' ≤ char ∧ char ≤ '9') ∨ ('a' ≤ char ∧ char ≤ 'f') ∨ ('A' ≤ char ∧ char ≤ 'F')

/-- The byte strings that digits of either case stand for, two for each byte. -/
inductive Spells : List Char → Bytes → Prop where
  | nil : Spells [] []
  | cons {first second : Char} (high low : Fin 16) {rest : List Char} {bytes : Bytes}
      (isHigh : first.toLower = digit high) (isLow : second.toLower = digit low)
      (spelled : Spells rest bytes) :
      Spells (first :: second :: rest) (UInt8.ofNat (16 * high + low) :: bytes)

/-- A text without the `0x` or `0X` at its beginning, if it has one. -/
inductive Unmarked : List Char → List Char → Prop where
  | small (rest : List Char) : Unmarked ('0' :: 'x' :: rest) rest
  | large (rest : List Char) : Unmarked ('0' :: 'X' :: rest) rest
  | none {text : List Char} (not_small : ∀ rest, text ≠ '0' :: 'x' :: rest)
      (not_large : ∀ rest, text ≠ '0' :: 'X' :: rest) : Unmarked text text

instance : DecidablePred IsDigit := fun _ => inferInstanceAs (Decidable (_ ∨ _))

theorem ascii_of_value? {char : Char} {value : Nat} (found : value? char = some value) :
    char.toNat < 128 := by
  unfold value? at found
  split at found
  · next digit => exact ascii_of_le digit.2 (by decide)
  · split at found
    · next lower => exact ascii_of_le lower.2 (by decide)
    · split at found
      · next upper => exact ascii_of_le upper.2 (by decide)
      · cases found

theorem byte?_eq_some {high low : Char} {byte : UInt8} (found : byte? high low = some byte) :
    high.toNat < 128 ∧ low.toNat < 128 := by
  unfold byte? at found
  split at found
  · next left right => exact ⟨ascii_of_value? left, ascii_of_value? right⟩
  · cases found

theorem decodeDigits_cons {high low : Char} {rest : List Char} {bytes : Bytes} :
    decodeDigits (high :: low :: rest) = some bytes ↔
      ∃ byte others, byte? high low = some byte ∧ decodeDigits rest = some others ∧
        bytes = byte :: others := by
  rw [decodeDigits]
  cases byte? high low <;> cases decodeDigits rest <;> simp [eq_comm]

/-- Lenient reading takes all of a text that strict reading takes. -/
theorem decodeLeading_of_decodeDigits : ∀ {digits : List Char} {bytes : Bytes},
    decodeDigits digits = some bytes →
      decodeLeading digits = bytes ∧ ∀ char ∈ digits, char.toNat < 128
  | [], bytes, spelled => by
      cases spelled
      simp [decodeLeading]
  | [_], bytes, spelled => by cases spelled
  | high :: low :: rest, bytes, spelled => by
      obtain ⟨byte, others, here, later, rfl⟩ := decodeDigits_cons.mp spelled
      obtain ⟨read, ascii⟩ := decodeLeading_of_decodeDigits later
      obtain ⟨first, second⟩ := byte?_eq_some here
      refine ⟨?_, ?_⟩
      · rw [decodeLeading, here]
        exact congrArg (byte :: ·) read
      · simp only [List.forall_mem_cons]
        exact ⟨first, second, ascii⟩

theorem ascii_of_toLower {char : Char} (small : char.toLower.toNat < 128) : char.toNat < 128 := by
  unfold Char.toLower at small
  split at small
  · next range =>
    have capital : char ≤ 'Z' := range.2
    exact ascii_of_le capital (by decide)
  · exact small

theorem digit_of_value? {char : Char} {value : Nat} (found : value? char = some value) :
    ∃ code : Fin 16, value = code ∧ char.toLower = digit code := by
  refine char_of_below 128 (P := fun char => ∀ value ∈ value? char,
    ∃ code : Fin 16, value = code ∧ char.toLower = digit code) ?_ char
    (ascii_of_value? found) value found
  decide +kernel

theorem value?_of_digit {char : Char} {value : Fin 16} (same : char.toLower = digit value) :
    value? char = some value.val := by
  have plain : ∀ value : Fin 16, (digit value).toNat < 128 := by decide
  have small : char.toNat < 128 := ascii_of_toLower (same ▸ plain value)
  refine char_of_below 128 (P := fun char => ∀ value : Fin 16, char.toLower = digit value →
    value? char = some value.val) ?_ char small value same
  decide +kernel

theorem isDigit_iff {char : Char} :
    IsDigit char ↔ ∃ value : Fin 16, char.toLower = digit value := by
  have classified : ∀ code < 128, IsDigit (Char.ofNat code) ↔
      ∃ value : Fin 16, (Char.ofNat code).toLower = digit value := by decide +kernel
  by_cases small : char.toNat < 128
  · have here := classified char.toNat small
    rwa [Char.ofNat_toNat] at here
  · have plain : ∀ value : Fin 16, (digit value).toNat < 128 := by decide
    constructor
    · rintro (digit | lower | upper)
      · exact (small (ascii_of_le digit.2 (by decide))).elim
      · exact (small (ascii_of_le lower.2 (by decide))).elim
      · exact (small (ascii_of_le upper.2 (by decide))).elim
    · rintro ⟨value, same⟩
      exact (small (ascii_of_toLower (same ▸ plain value))).elim

theorem byte?_iff {first second : Char} {byte : UInt8} :
    byte? first second = some byte ↔ ∃ high low : Fin 16, first.toLower = digit high ∧
      second.toLower = digit low ∧ byte = UInt8.ofNat (16 * high + low) := by
  constructor
  · intro found
    unfold byte? at found
    split at found
    · next left right =>
      obtain ⟨high, rfl, isHigh⟩ := digit_of_value? left
      obtain ⟨low, rfl, isLow⟩ := digit_of_value? right
      exact ⟨high, low, isHigh, isLow, (Option.some.inj found).symm⟩
    · cases found
  · rintro ⟨high, low, isHigh, isLow, rfl⟩
    rw [byte?, value?_of_digit isHigh, value?_of_digit isLow]

/-- The strict reader reads what digits stand for, and nothing else. -/
theorem decodeDigits_iff {chars : List Char} {bytes : Bytes} :
    decodeDigits chars = some bytes ↔ Spells chars bytes := by
  constructor
  · fun_induction decodeDigits chars generalizing bytes with
    | case1 =>
        rintro ⟨⟩
        exact .nil
    | case2 => nofun
    | case3 first second rest byte others read found ih =>
        rintro ⟨⟩
        obtain ⟨high, low, isHigh, isLow, rfl⟩ := byte?_iff.mp found
        exact .cons high low isHigh isLow (ih read)
    | case4 => nofun
  · intro spelled
    induction spelled with
    | nil => rfl
    | cons high low isHigh isLow _ ih =>
        exact decodeDigits_cons.mpr ⟨_, _, byte?_iff.mpr ⟨high, low, isHigh, isLow, rfl⟩, ih, rfl⟩

/-- Texts of digits stand for bytes if their number is even. -/
theorem exists_spells_iff {chars : List Char} :
    (∃ bytes, Spells chars bytes) ↔ chars.length % 2 = 0 ∧ ∀ char ∈ chars, IsDigit char := by
  constructor
  · rintro ⟨bytes, spelled⟩
    induction spelled with
    | nil => simp
    | cons high low isHigh isLow _ ih =>
        obtain ⟨even, digits⟩ := ih
        refine ⟨by simp only [List.length_cons]; omega, ?_⟩
        simp only [List.forall_mem_cons]
        exact ⟨isDigit_iff.mpr ⟨high, isHigh⟩, isDigit_iff.mpr ⟨low, isLow⟩, digits⟩
  · rintro ⟨even, digits⟩
    induction chars using decodeDigits.induct with
    | case1 => exact ⟨[], .nil⟩
    | case2 => simp at even
    | case3 first second rest _ _ _ _ ih | case4 first second rest _ ih =>
        simp only [List.forall_mem_cons, List.length_cons] at digits even
        obtain ⟨bytes, spelled⟩ := ih (by omega) digits.2.2
        obtain ⟨high, isHigh⟩ := isDigit_iff.mp digits.1
        obtain ⟨low, isLow⟩ := isDigit_iff.mp digits.2.1
        exact ⟨_, .cons high low isHigh isLow spelled⟩

/-- What is written for the bytes that digits stand for are the digits, in lower case. -/
theorem encode_of_spells {chars : List Char} {bytes : Bytes} (spelled : Spells chars bytes) :
    (encode bytes).toList = chars.map Char.toLower := by
  rw [encode, String.toList_ofList]
  induction spelled with
  | nil => rfl
  | cons high low isHigh isLow _ ih =>
      have large := high.isLt
      have small := low.isLt
      have fits : (16 * high + low : Nat) % 256 = 16 * high + low := by omega
      simp only [List.flatMap_cons, List.map_cons, ih, isHigh, isLow, UInt8.toNat_ofNat',
        Nat.reducePow, fits, List.cons_append, List.nil_append]
      rw [show (16 * high + low : Nat) / 16 = high by omega,
        show (16 * high + low : Nat) % 16 = low by omega]

theorem unmarked_iff {text rest : List Char} : Unmarked text rest ↔ stripMarker text = rest := by
  constructor
  · rintro (_ | _ | ⟨not_small, not_large⟩)
    · rfl
    · rfl
    · unfold stripMarker
      split
      · exact (not_small _ rfl).elim
      · exact (not_large _ rfl).elim
      · rfl
  · rintro rfl
    unfold stripMarker
    split
    · exact .small _
    · exact .large _
    · next not_small not_large => exact .none not_small not_large

end Hex

/-!
## UTF-8
-/

namespace Utf8

theorem decodeFrom_cons (pending : Option Pending) (byte : UInt8) (rest : Bytes) :
    decodeFrom pending (byte :: rest) =
      (step pending byte).1 ++ decodeFrom (step pending byte).2 rest := rfl

theorem begin_one {byte : UInt8} (small : byte.toNat < 0x80) :
    begin byte = ([Char.ofNat byte.toNat], none) := by
  simp [begin, small]

theorem begin_two {byte : UInt8} (least : 0xC2 ≤ byte.toNat) (most : byte.toNat ≤ 0xDF) :
    begin byte = ([], some ⟨byte.toNat - 0xC0, 1, 0x80, 0xBF⟩) := by
  unfold begin
  rw [if_neg (by omega), if_pos (by omega)]

theorem begin_three {byte : UInt8} (least : 0xE0 ≤ byte.toNat) (most : byte.toNat ≤ 0xEF) :
    begin byte = ([], some ⟨byte.toNat - 0xE0, 2, if byte.toNat = 0xE0 then 0xA0 else 0x80,
      if byte.toNat = 0xED then 0x9F else 0xBF⟩) := by
  unfold begin
  rw [if_neg (by omega), if_neg (by omega), if_pos (by omega)]

theorem begin_four {byte : UInt8} (least : 0xF0 ≤ byte.toNat) (most : byte.toNat ≤ 0xF4) :
    begin byte = ([], some ⟨byte.toNat - 0xF0, 3, if byte.toNat = 0xF0 then 0x90 else 0x80,
      if byte.toNat = 0xF4 then 0x8F else 0xBF⟩) := by
  unfold begin
  rw [if_neg (by omega), if_neg (by omega), if_neg (by omega), if_pos (by omega)]

theorem step_onward {under : Pending} {byte : UInt8} (least : under.low ≤ byte.toNat)
    (most : byte.toNat ≤ under.high) (more : 1 < under.needed) :
    step (some under) byte =
      ([], some ⟨under.bits * 64 + byte.toNat % 64, under.needed - 1, 0x80, 0xBF⟩) := by
  unfold step
  dsimp only
  rw [if_pos ⟨least, most⟩, if_neg (by omega)]

theorem step_last {under : Pending} {byte : UInt8} (least : under.low ≤ byte.toNat)
    (most : byte.toNat ≤ under.high) (last : under.needed ≤ 1) :
    step (some under) byte = ([Char.ofNat (under.bits * 64 + byte.toNat % 64)], none) := by
  unfold step
  dsimp only
  rw [if_pos ⟨least, most⟩, if_pos last]

section Sequences

variable {first second third fourth : UInt8}

theorem decodeFrom_one (small : first.toNat < 0x80) (rest : Bytes) :
    decodeFrom none (first :: rest) = Char.ofNat first.toNat :: decodeFrom none rest := by
  rw [decodeFrom_cons, step, begin_one small]
  rfl

theorem decodeFrom_two (least : 0xC2 ≤ first.toNat) (most : first.toNat ≤ 0xDF)
    (tail : 0x80 ≤ second.toNat ∧ second.toNat ≤ 0xBF) (rest : Bytes) :
    decodeFrom none (first :: second :: rest) =
      Char.ofNat ((first.toNat - 0xC0) * 64 + second.toNat % 64) :: decodeFrom none rest := by
  rw [decodeFrom_cons, step, begin_two least most, List.nil_append, decodeFrom_cons,
    step_last tail.1 tail.2 (Nat.le_refl 1)]
  rfl

theorem decodeFrom_three (least : 0xE0 ≤ first.toNat) (most : first.toNat ≤ 0xEF)
    (low : (if first.toNat = 0xE0 then 0xA0 else 0x80) ≤ second.toNat)
    (high : second.toNat ≤ if first.toNat = 0xED then 0x9F else 0xBF)
    (tail : 0x80 ≤ third.toNat ∧ third.toNat ≤ 0xBF) (rest : Bytes) :
    decodeFrom none (first :: second :: third :: rest) =
      Char.ofNat (((first.toNat - 0xE0) * 64 + second.toNat % 64) * 64 + third.toNat % 64) ::
        decodeFrom none rest := by
  rw [decodeFrom_cons, step, begin_three least most, List.nil_append, decodeFrom_cons,
    step_onward low high (Nat.lt_succ_self 1), List.nil_append, decodeFrom_cons,
    step_last tail.1 tail.2 (Nat.le_refl 1)]
  rfl

theorem decodeFrom_four (least : 0xF0 ≤ first.toNat) (most : first.toNat ≤ 0xF4)
    (low : (if first.toNat = 0xF0 then 0x90 else 0x80) ≤ second.toNat)
    (high : second.toNat ≤ if first.toNat = 0xF4 then 0x8F else 0xBF)
    (tail : 0x80 ≤ third.toNat ∧ third.toNat ≤ 0xBF)
    (tail' : 0x80 ≤ fourth.toNat ∧ fourth.toNat ≤ 0xBF) (rest : Bytes) :
    decodeFrom none (first :: second :: third :: fourth :: rest) =
      Char.ofNat ((((first.toNat - 0xF0) * 64 + second.toNat % 64) * 64 + third.toNat % 64) * 64 +
        fourth.toNat % 64) :: decodeFrom none rest := by
  rw [decodeFrom_cons, step, begin_four least most, List.nil_append, decodeFrom_cons,
    step_onward low high (by simp only; omega), List.nil_append, decodeFrom_cons,
    step_onward tail.1 tail.2 (Nat.lt_succ_self 1), List.nil_append, decodeFrom_cons,
    step_last tail'.1 tail'.2 (Nat.le_refl 1)]
  rfl

end Sequences

/-- Reading the bytes of a character gives the character, whatever follows. -/
theorem decodeFrom_encodeChar (char : Char) (rest : Bytes) :
    decodeFrom none (String.utf8EncodeChar char ++ rest) = char :: decodeFrom none rest := by
  have valid : char.toNat < 0xD800 ∨ 0xDFFF < char.toNat ∧ char.toNat < 0x110000 := char.valid
  have same : Char.ofNat char.toNat = char := Char.ofNat_toNat char
  have code : char.val.toNat = char.toNat := rfl
  unfold String.utf8EncodeChar
  rw [code]
  generalize char.toNat = value at valid same
  dsimp only
  -- One case for each length; the bounds of the second byte rule out surrogates and long forms.
  split
  · next small =>
    have first := toNat_byte value (by omega)
    rw [List.singleton_append, decodeFrom_one (by omega), first, same]
  · split
    · next least most =>
      have first := toNat_byte (value / 64 % 32 + 192) (by omega)
      have second := toNat_byte (value % 64 + 128) (by omega)
      rw [List.cons_append, List.singleton_append, decodeFrom_two (by omega) (by omega) (by omega),
        first, second]
      rw [show (value / 64 % 32 + 192 - 192) * 64 + (value % 64 + 128) % 64 = value by omega, same]
    · split
      · next _ least most =>
        have first := toNat_byte (value / 4096 % 16 + 224) (by omega)
        have second := toNat_byte (value / 64 % 64 + 128) (by omega)
        have third := toNat_byte (value % 64 + 128) (by omega)
        rw [List.cons_append, List.cons_append, List.singleton_append,
          decodeFrom_three (by omega) (by omega) (by split <;> omega) (by split <;> omega) (by omega),
          first, second, third]
        rw [show ((value / 4096 % 16 + 224 - 224) * 64 + (value / 64 % 64 + 128) % 64) * 64 +
          (value % 64 + 128) % 64 = value by omega, same]
      · next _ _ least =>
        have first := toNat_byte (value / 262144 % 8 + 240) (by omega)
        have second := toNat_byte (value / 4096 % 64 + 128) (by omega)
        have third := toNat_byte (value / 64 % 64 + 128) (by omega)
        have fourth := toNat_byte (value % 64 + 128) (by omega)
        rw [List.cons_append, List.cons_append, List.cons_append, List.singleton_append,
          decodeFrom_four (by omega) (by omega) (by split <;> omega) (by split <;> omega) (by omega)
            (by omega), first, second, third, fourth]
        rw [show (((value / 262144 % 8 + 240 - 240) * 64 + (value / 4096 % 64 + 128) % 64) * 64 +
          (value / 64 % 64 + 128) % 64) * 64 + (value % 64 + 128) % 64 = value by omega, same]

theorem decode_encode (text : String) : decode (encode text) = text := by
  unfold decode encode
  have read : ∀ chars : List Char,
      decodeFrom none (chars.flatMap String.utf8EncodeChar) = chars := by
    intro chars
    induction chars with
    | nil => rfl
    | cons char rest ih => rw [List.flatMap_cons, decodeFrom_encodeChar, ih]
  rw [read, String.ofList_toList]

/-!
### Bytes that read as ASCII
-/

/-- Whatever continues a character under way, it does not become an ASCII one. -/
inductive Pending.Wide : Pending → Prop where
  | last {bits low high : Nat} (least : 2 ≤ bits) (most : bits < 0x4400)
      (valid : bits < 0x360 ∨ 0x380 ≤ bits) (tail : 0x80 ≤ low) (tail' : high ≤ 0xBF) :
      Wide ⟨bits, 1, low, high⟩
  | more {bits needed low high : Nat} (more : 1 < needed)
      (onward : ∀ byte, low ≤ byte → byte ≤ high →
        Wide ⟨bits * 64 + byte % 64, needed - 1, 0x80, 0xBF⟩) : Wide ⟨bits, needed, low, high⟩

private theorem code_ofNat {value : Nat} (scalar : value.isValidChar) :
    (Char.ofNat value).toNat = value := by
  rw [Char.ofNat, dif_pos scalar]
  rfl

private theorem begin_cases (byte : UInt8) :
    (byte.toNat < 0x80 ∧ begin byte = ([Char.ofNat byte.toNat], none)) ∨
      begin byte = ([replacement], none) ∨
      ∃ under, begin byte = ([], some under) ∧ under.Wide := by
  by_cases one : byte.toNat < 0x80
  · exact .inl ⟨one, begin_one one⟩
  · by_cases two : 0xC2 ≤ byte.toNat ∧ byte.toNat ≤ 0xDF
    · refine .inr (.inr ⟨_, begin_two two.1 two.2, .last ?_ ?_ ?_ ?_ ?_⟩) <;> omega
    · by_cases three : 0xE0 ≤ byte.toNat ∧ byte.toNat ≤ 0xEF
      · refine .inr (.inr ⟨_, begin_three three.1 three.2, .more (by omega) fun next least most => ?_⟩)
        split at least <;> split at most <;> refine .last ?_ ?_ ?_ ?_ ?_ <;> omega
      · by_cases four : 0xF0 ≤ byte.toNat ∧ byte.toNat ≤ 0xF4
        · refine .inr (.inr ⟨_, begin_four four.1 four.2, .more (by omega) fun next least most => ?_⟩)
          refine .more (by omega) fun other _ _ => ?_
          split at least <;> split at most <;> refine .last ?_ ?_ ?_ ?_ ?_ <;> omega
        · refine .inr (.inl ?_)
          unfold begin
          rw [if_neg one, if_neg two, if_neg three, if_neg four]

theorem Pending.Wide.decodeFrom {under : Pending} (wide : under.Wide) (bytes : Bytes) :
    ∃ char rest, Utf8.decodeFrom (some under) bytes = char :: rest ∧ 128 ≤ char.toNat := by
  induction bytes generalizing under with
  | nil => exact ⟨replacement, [], rfl, by decide⟩
  | cons byte rest ih =>
      rw [decodeFrom_cons]
      by_cases within : under.low ≤ byte.toNat ∧ byte.toNat ≤ under.high
      · cases wide with
        | @last bits low high least most valid tail tail' =>
            have scalar : (bits * 64 + byte.toNat % 64).isValidChar := by
              unfold Nat.isValidChar
              omega
            rw [step_last within.1 within.2 (by simp only; omega)]
            refine ⟨_, _, rfl, ?_⟩
            rw [code_ofNat scalar]
            omega
        | more more onward =>
            rw [step_onward within.1 within.2 more, List.nil_append]
            exact ih (onward _ within.1 within.2)
      · refine ⟨replacement, (begin byte).1 ++ Utf8.decodeFrom (begin byte).2 rest, ?_, by decide⟩
        unfold step
        dsimp only
        rw [if_neg within]
        rfl

/-- Bytes that read as ASCII are the UTF-8 of what they read as. -/
theorem eq_encode_of_decode {bytes : Bytes} {text : String}
    (ascii : ∀ char ∈ text.toList, char.toNat < 128) (read : decode bytes = text) :
    bytes = encode text := by
  subst read
  unfold encode
  rw [decode, String.toList_ofList] at ascii ⊢
  induction bytes with
  | nil => rfl
  | cons byte rest ih =>
      have high : ¬ replacement.toNat < 128 := by decide
      rw [decodeFrom_cons, step] at ascii ⊢
      obtain ⟨small, first⟩ | first | ⟨under, first, wide⟩ := begin_cases byte
      · rw [first] at ascii ⊢
        have others := ih fun char member => ascii char (List.mem_cons_of_mem _ member)
        rw [List.singleton_append, List.flatMap_cons, ← others]
        have code : (Char.ofNat byte.toNat).toNat = byte.toNat :=
          code_ofNat (by unfold Nat.isValidChar; omega)
        unfold String.utf8EncodeChar
        dsimp only
        rw [show (Char.ofNat byte.toNat).val.toNat = byte.toNat from code, if_pos (by omega),
          UInt8.ofNat_toNat]
        rfl
      · rw [first] at ascii
        exact absurd (ascii replacement List.mem_cons_self) high
      · obtain ⟨char, more, read, wideChar⟩ := wide.decodeFrom rest
        rw [first, List.nil_append, read] at ascii
        exact absurd (ascii char List.mem_cons_self) (by omega)

end Utf8

end RollCall
