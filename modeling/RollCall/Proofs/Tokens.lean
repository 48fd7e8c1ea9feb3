import RollCall.Json.Parser

/-!
# Numbers and strings in documents

Which texts are numbers and strings of a document, and which they are, is set down by relations that
say what stands where and mention no reader. The reader takes such a text from the front of another
as far as it goes, and takes nothing else.
-/

set_option autoImplicit false

namespace RollCall.Json

/-!
## Blanks and digits
-/

/-- Nothing but blanks. -/
def Blank (chars : List Char) : Prop :=
  ∀ char ∈ chars, isBlank char = true

/-- Nothing but ASCII digits. -/
def Digits (chars : List Char) : Prop :=
  ∀ char ∈ chars, Number.isDigit char = true

/-- The first character of a text, if it has one, is of some kind. -/
def Starts (kind : Char → Prop) (text : List Char) : Prop :=
  ∀ char ∈ text.head?, kind char

theorem Blank.append {first second : List Char} (blank : Blank first) (blank' : Blank second) :
    Blank (first ++ second) := fun char member =>
  (List.mem_append.mp member).elim (blank char) (blank' char)

theorem skipBlanks_append {before : List Char} (blank : Blank before) (text : List Char) :
    skipBlanks (before ++ text) = skipBlanks text :=
  List.dropWhile_append_of_pos blank

theorem exists_blank (text : List Char) : ∃ before, Blank before ∧ text = before ++ skipBlanks text :=
  ⟨text.takeWhile isBlank, List.all_eq_true.mp List.all_takeWhile,
    List.takeWhile_append_dropWhile.symm⟩

theorem takeDigits_append {digits rest : List Char} (all : Digits digits)
    (ends : Starts (fun char => Number.isDigit char = false) rest) :
    Number.takeDigits (digits ++ rest) = (digits, rest) := by
  unfold Number.takeDigits
  rw [List.takeWhile_append_of_pos all, List.dropWhile_append_of_pos all]
  cases rest with
  | nil => simp
  | cons char rest =>
      have other := ends char rfl
      simp [other]

theorem digits_takeDigits (text : List Char) :
    Digits (Number.takeDigits text).1 ∧
      text = (Number.takeDigits text).1 ++ (Number.takeDigits text).2 :=
  ⟨List.all_eq_true.mp List.all_takeWhile, List.takeWhile_append_dropWhile.symm⟩

/-!
## Numbers
-/

/-- The whole part of a number. -/
inductive SpellsWhole : List Char → Prop where
  | zero : SpellsWhole ['0']
  | other {first : Char} {rest : List Char} (nonzero : first ≠ '0')
      (digits : Digits (first :: rest)) : SpellsWhole (first :: rest)

/-- A fraction part, if there is one, and its digits. -/
inductive SpellsFraction : List Char → List Char → Prop where
  | none : SpellsFraction [] []
  | some {digits : List Char} (nonempty : digits ≠ []) (all : Digits digits) :
      SpellsFraction ('.' :: digits) digits

/-- An exponent part, if there is one, and its value. -/
inductive SpellsExponent : List Char → Int → Prop where
  | none : SpellsExponent [] 0
  | bare {mark : Char} {digits : List Char} (isMark : mark = 'e' ∨ mark = 'E')
      (nonempty : digits ≠ []) (all : Digits digits) :
      SpellsExponent (mark :: digits) (Number.digitsValue digits)
  | plus {mark : Char} {digits : List Char} (isMark : mark = 'e' ∨ mark = 'E')
      (nonempty : digits ≠ []) (all : Digits digits) :
      SpellsExponent (mark :: '+' :: digits) (Number.digitsValue digits)
  | minus {mark : Char} {digits : List Char} (isMark : mark = 'e' ∨ mark = 'E')
      (nonempty : digits ≠ []) (all : Digits digits) :
      SpellsExponent (mark :: '-' :: digits) (-Number.digitsValue digits)

/-- A number without a sign, as its parts. -/
structure SpellsParts (chars whole fraction : List Char) (exponent : Int) : Prop where
  split : ∃ point power, chars = whole ++ (point ++ power) ∧ SpellsFraction point fraction ∧
    SpellsExponent power exponent
  whole : SpellsWhole whole

/-- A number, to the nearest of the language. -/
inductive SpellsNumber : List Char → Number → Prop where
  | positive {chars whole fraction : List Char} {exponent : Int}
      (parts : SpellsParts chars whole fraction exponent) :
      SpellsNumber chars (Number.ofParts false whole fraction exponent)
  | negative {chars whole fraction : List Char} {exponent : Int}
      (parts : SpellsParts chars whole fraction exponent) :
      SpellsNumber ('-' :: chars) (Number.ofParts true whole fraction exponent)

/-- A character with which a number cannot go on. -/
def StopsNumber (char : Char) : Prop :=
  Number.isDigit char = false ∧ char ≠ '.' ∧ char ≠ 'e' ∧ char ≠ 'E'

instance : DecidablePred StopsNumber := fun _ => inferInstanceAs (Decidable (_ ∧ _))

theorem SpellsWhole.ne_nil {whole : List Char} (spelled : SpellsWhole whole) : whole ≠ [] := by
  cases spelled <;> exact List.cons_ne_nil _ _

theorem SpellsWhole.digits {whole : List Char} (spelled : SpellsWhole whole) : Digits whole := by
  cases spelled with
  | zero =>
      intro char member
      rw [List.mem_singleton.mp member]
      decide
  | other _ digits => exact digits

/-- What follows a part of a number cannot go on with the part before. -/
theorem SpellsExponent.starts {power rest : List Char} {exponent : Int}
    (spelled : SpellsExponent power exponent) (ends : Starts StopsNumber rest) :
    Starts (fun char => Number.isDigit char = false ∧ char ≠ '.') (power ++ rest) := by
  have marks : ∀ mark, mark = 'e' ∨ mark = 'E' → Number.isDigit mark = false ∧ mark ≠ '.' := by
    rintro mark (rfl | rfl) <;> decide
  cases spelled with
  | none => exact fun char first => ⟨(ends char first).1, (ends char first).2.1⟩
  | bare isMark | plus isMark | minus isMark =>
      intro char first
      cases first
      exact marks _ isMark

theorem SpellsFraction.starts {point rest fraction : List Char}
    (spelled : SpellsFraction point fraction)
    (ends : Starts (fun char => Number.isDigit char = false) rest) :
    Starts (fun char => Number.isDigit char = false) (point ++ rest) := by
  cases spelled with
  | none => exact ends
  | some =>
      intro char first
      cases first
      decide

theorem takeWhole_append {whole rest : List Char} (spelled : SpellsWhole whole)
    (ends : Starts (fun char => Number.isDigit char = false) rest) :
    takeWhole (whole ++ rest) = (whole, rest) := by
  cases spelled with
  | zero => rfl
  | @other first others nonzero digits =>
      unfold takeWhole
      split
      · next same => exact (nonzero (List.cons.inj same).1).elim
      · exact takeDigits_append digits ends

theorem takeFraction_append {point fraction rest : List Char}
    (spelled : SpellsFraction point fraction)
    (ends : Starts (fun char => Number.isDigit char = false ∧ char ≠ '.') rest) :
    Number.takeFraction (point ++ rest) = (fraction, rest) := by
  have stops : Starts (fun char => Number.isDigit char = false) rest :=
    fun char first => (ends char first).1
  cases spelled with
  | none =>
      rw [List.nil_append]
      unfold Number.takeFraction
      split
      · exact ((ends '.' rfl).2 rfl).elim
      · rfl
  | some nonempty all =>
      simp only [Number.takeFraction, List.cons_append, takeDigits_append all stops,
        List.isEmpty_iff, nonempty, ↓reduceIte]

theorem takeExponent_append {power rest : List Char} {exponent : Int}
    (spelled : SpellsExponent power exponent) (ends : Starts StopsNumber rest) :
    Number.takeExponent (power ++ rest) = (exponent, rest) := by
  have stops : Starts (fun char => Number.isDigit char = false) rest :=
    fun char first => (ends char first).1
  cases spelled with
  | none =>
      cases rest with
      | nil => rfl
      | cons char rest =>
          obtain ⟨-, -, small, large⟩ := ends char rfl
          simp [Number.takeExponent, small, large]
  | @bare _ digits isMark nonempty all =>
      obtain ⟨first, others, rfl⟩ := List.exists_cons_of_ne_nil nonempty
      have digit := all first List.mem_cons_self
      have taken := takeDigits_append all stops
      unfold Number.takeExponent
      simp only [List.cons_append, if_pos isMark]
      split
      · next same =>
        cases (List.cons.inj same).1
        cases digit
      · next same =>
        cases (List.cons.inj same).1
        cases digit
      · rw [← List.cons_append, taken]
        rfl
  | plus isMark nonempty all =>
      simp only [Number.takeExponent, List.cons_append, if_pos isMark, takeDigits_append all stops,
        List.isEmpty_iff, nonempty, ↓reduceIte, Bool.false_eq_true]
  | minus isMark nonempty all =>
      simp only [Number.takeExponent, List.cons_append, if_pos isMark, takeDigits_append all stops,
        List.isEmpty_iff, nonempty, ↓reduceIte]

/-- A number whose sign has been read, in front of a text, and what follows it. -/
def takeUnsigned (negative : Bool) (text : List Char) : Option (Number × List Char) :=
  let (whole, afterWhole) := takeWhole text
  if whole.isEmpty then none
  else
    let (fraction, afterFraction) := Number.takeFraction afterWhole
    let (exponent, rest) := Number.takeExponent afterFraction
    some (Number.ofParts negative whole fraction exponent, rest)

theorem takeNumber_minus (text : List Char) : takeNumber ('-' :: text) = takeUnsigned true text := rfl

theorem takeNumber_of_ne {text : List Char} (unsigned : Starts (· ≠ '-') text) :
    takeNumber text = takeUnsigned false text := by
  unfold takeNumber
  split
  next negative rest same =>
  split at same
  · exact (unsigned '-' rfl rfl).elim
  · cases same
    rfl

theorem takeUnsigned_append {chars whole fraction rest : List Char} {exponent : Int}
    (negative : Bool) (parts : SpellsParts chars whole fraction exponent)
    (ends : Starts StopsNumber rest) :
    takeUnsigned negative (chars ++ rest) =
      some (Number.ofParts negative whole fraction exponent, rest) := by
  obtain ⟨⟨point, power, rfl, pointed, powered⟩, whole'⟩ := parts
  have afterPoint := powered.starts ends
  have afterWhole := pointed.starts fun char first => (afterPoint char first).1
  simp only [takeUnsigned, List.append_assoc, takeWhole_append whole' afterWhole,
    takeFraction_append pointed afterPoint, takeExponent_append powered ends, List.isEmpty_iff,
    whole'.ne_nil, ↓reduceIte]

theorem takeNumber_append {chars rest : List Char} {number : Number}
    (spelled : SpellsNumber chars number) (ends : Starts StopsNumber rest) :
    takeNumber (chars ++ rest) = some (number, rest) := by
  cases spelled with
  | positive parts =>
      rw [takeNumber_of_ne, takeUnsigned_append false parts ends]
      obtain ⟨⟨point, power, rfl, -⟩, spelled⟩ := parts
      intro char first
      obtain ⟨char', others, rfl⟩ := List.exists_cons_of_ne_nil spelled.ne_nil
      cases first
      rintro rfl
      cases spelled.digits '-' List.mem_cons_self
  | negative parts =>
      rw [List.cons_append, takeNumber_minus, takeUnsigned_append true parts ends]

/-!
The other way round, what the reader takes is a number.
-/

theorem takeWhole_spells {text whole rest : List Char} (taken : takeWhole text = (whole, rest))
    (nonempty : whole ≠ []) : SpellsWhole whole ∧ text = whole ++ rest := by
  unfold takeWhole at taken
  split at taken
  · cases taken
    exact ⟨.zero, rfl⟩
  · next other =>
    obtain ⟨all, split⟩ := digits_takeDigits text
    rw [taken] at all split
    obtain ⟨first, others, rfl⟩ := List.exists_cons_of_ne_nil nonempty
    refine ⟨.other ?_ all, split⟩
    rintro rfl
    exact other _ split

theorem takeFraction_spells {text fraction rest : List Char}
    (taken : Number.takeFraction text = (fraction, rest)) :
    ∃ point, SpellsFraction point fraction ∧ text = point ++ rest := by
  unfold Number.takeFraction at taken
  split at taken
  · next text =>
    obtain ⟨all, split⟩ := digits_takeDigits text
    dsimp only at taken
    split at taken
    · cases taken
      exact ⟨[], .none, rfl⟩
    · next some =>
      cases taken
      refine ⟨_, .some (fun none => some (List.isEmpty_iff.mpr none)) all, ?_⟩
      rw [List.cons_append, ← split]
  · cases taken
    exact ⟨[], .none, rfl⟩

theorem takeExponent_spells {text rest : List Char} {exponent : Int}
    (taken : Number.takeExponent text = (exponent, rest)) :
    ∃ power, SpellsExponent power exponent ∧ text = power ++ rest := by
  have none : (0, text) = (exponent, rest) →
      ∃ power, SpellsExponent power exponent ∧ text = power ++ rest := by
    rintro ⟨⟩
    exact ⟨[], .none, rfl⟩
  unfold Number.takeExponent at taken
  split at taken
  · next mark after =>
    split at taken
    · next isMark =>
      split at taken
      next negative unsigned sign =>
      obtain ⟨all, split⟩ := digits_takeDigits unsigned
      dsimp only at taken
      split at taken
      · exact none taken
      · next some =>
        have nonempty := fun none => some (List.isEmpty_iff.mpr none)
        cases taken
        -- the sign says which exponent it is
        split at sign <;> cases sign
        · refine ⟨_, .minus isMark nonempty all, ?_⟩
          rw [List.cons_append, List.cons_append, ← split]
        · refine ⟨_, .plus isMark nonempty all, ?_⟩
          rw [List.cons_append, List.cons_append, ← split]
        · refine ⟨_, .bare isMark nonempty all, ?_⟩
          rw [List.cons_append, ← split]
    · exact none taken
  · exact none taken

theorem takeUnsigned_spells {negative : Bool} {text rest : List Char} {number : Number}
    (taken : takeUnsigned negative text = some (number, rest)) :
    ∃ chars whole fraction exponent, SpellsParts chars whole fraction exponent ∧
      number = Number.ofParts negative whole fraction exponent ∧ text = chars ++ rest := by
  unfold takeUnsigned at taken
  split at taken
  next whole afterWhole wholeTaken =>
  split at taken
  · cases taken
  · next some =>
    split at taken
    next fraction afterFraction fractionTaken =>
    split at taken
    next exponent after exponentTaken =>
    cases taken
    obtain ⟨spelled, rfl⟩ :=
      takeWhole_spells wholeTaken fun none => some (List.isEmpty_iff.mpr none)
    obtain ⟨point, pointed, rfl⟩ := takeFraction_spells fractionTaken
    obtain ⟨power, powered, rfl⟩ := takeExponent_spells exponentTaken
    refine ⟨_, whole, fraction, exponent, ⟨⟨point, power, rfl, pointed, powered⟩, spelled⟩, rfl, ?_⟩
    simp only [List.append_assoc]

theorem takeNumber_spells {text rest : List Char} {number : Number}
    (taken : takeNumber text = some (number, rest)) :
    ∃ chars, SpellsNumber chars number ∧ text = chars ++ rest := by
  by_cases signed : ∃ unsigned, text = '-' :: unsigned
  · obtain ⟨unsigned, rfl⟩ := signed
    obtain ⟨chars, _, _, _, parts, rfl, rfl⟩ := takeUnsigned_spells (takeNumber_minus _ ▸ taken)
    exact ⟨'-' :: chars, .negative parts, rfl⟩
  · have unsigned : Starts (· ≠ '-') text := by
      rintro char first rfl
      exact signed (List.head?_eq_some_iff.mp first)
    rw [takeNumber_of_ne unsigned] at taken
    obtain ⟨chars, _, _, _, parts, rfl, rfl⟩ := takeUnsigned_spells taken
    exact ⟨chars, .positive parts, rfl⟩

/-!
## Strings
-/

/-- What stands between the quotes of a string, as codes: a character for itself, escapes of one
character, and escapes of four digits. -/
inductive SpellsCodes : List Char → List Nat → Prop where
  | nil : SpellsCodes [] []
  | plain {char : Char} {chars : List Char} {codes : List Nat} (unquoted : char ≠ '"')
      (unescaped : char ≠ '\\') (printable : 0x20 ≤ char.toNat) (rest : SpellsCodes chars codes) :
      SpellsCodes (char :: chars) (char.toNat :: codes)
  | escape {char : Char} {code : Nat} {chars : List Char} {codes : List Nat}
      (escaped : escapeCode? char = some code) (rest : SpellsCodes chars codes) :
      SpellsCodes ('\\' :: char :: chars) (code :: codes)
  | unit {first second third fourth : Char} {code : Nat} {chars : List Char} {codes : List Nat}
      (digits : unitCode? first second third fourth = some code) (rest : SpellsCodes chars codes) :
      SpellsCodes ('\\' :: 'u' :: first :: second :: third :: fourth :: chars) (code :: codes)

/-- A string with its quotes. -/
inductive SpellsText : List Char → String → Prop where
  | mk {chars : List Char} {codes : List Nat} (coded : SpellsCodes chars codes) :
      SpellsText ('"' :: chars ++ ['"']) (String.ofList (joinCodes codes))

theorem takeCodes_append {chars : List Char} {codes : List Nat} (spelled : SpellsCodes chars codes)
    (rest : List Char) : takeCodes (chars ++ '"' :: rest) = some (codes, rest) := by
  induction spelled with
  | nil => rfl
  | @plain char chars codes unquoted unescaped printable _ ih =>
      have fine : ¬ (char = '\\' ∨ char.toNat < 0x20) := by
        rintro (same | small)
        · exact unescaped same
        · omega
      rw [List.cons_append, takeCodes, if_neg fine, ih]
      · exact unquoted
      · rintro _ _ _ _ _ rfl
        exact (unescaped rfl).elim
      · rintro _ _ rfl
        exact (unescaped rfl).elim
  | @escape char code chars codes escaped _ ih =>
      rw [List.cons_append, List.cons_append, takeCodes, escaped, ih]
      rintro _ _ _ _ _ rfl
      cases escaped
  | unit digits _ ih =>
      rw [List.cons_append, List.cons_append, List.cons_append, List.cons_append, List.cons_append,
        List.cons_append, takeCodes, digits, ih]

theorem takeCodes_spells {text rest : List Char} {codes : List Nat}
    (taken : takeCodes text = some (codes, rest)) :
    ∃ chars, SpellsCodes chars codes ∧ text = chars ++ '"' :: rest := by
  fun_induction takeCodes text generalizing codes rest with
  | case1 => cases taken
  | case2 =>
      cases taken
      exact ⟨[], .nil, rfl⟩
  | case3 first second third fourth text code codes following taken' digits ih =>
      cases taken
      obtain ⟨chars, spelled, rfl⟩ := ih taken'
      exact ⟨_, .unit digits spelled, rfl⟩
  | case4 => cases taken
  | case5 char text _ code codes following taken' escaped ih =>
      cases taken
      obtain ⟨chars, spelled, rfl⟩ := ih taken'
      exact ⟨_, .escape escaped spelled, rfl⟩
  | case6 => cases taken
  | case7 => cases taken
  | case8 char text unquoted _ _ fine codes following taken' ih =>
      cases taken
      obtain ⟨chars, spelled, rfl⟩ := ih taken'
      rw [not_or, Nat.not_lt] at fine
      exact ⟨_, .plain unquoted fine.1 fine.2 spelled, rfl⟩
  | case9 => cases taken

theorem takeString_append {chars : List Char} {text : String} (spelled : SpellsText chars text)
    (rest : List Char) :
    ∃ quoted, chars ++ rest = '"' :: quoted ∧ takeString quoted = some (text, rest) := by
  cases spelled with
  | @mk chars _ coded =>
      refine ⟨chars ++ '"' :: rest, ?_, ?_⟩
      · simp only [List.cons_append, List.append_assoc, List.nil_append]
      · rw [takeString, takeCodes_append coded]
        rfl

theorem takeString_spells {quoted rest : List Char} {text : String}
    (taken : takeString quoted = some (text, rest)) :
    ∃ chars, SpellsText chars text ∧ '"' :: quoted = chars ++ rest := by
  obtain ⟨⟨codes, after⟩, taken', same⟩ := Option.map_eq_some_iff.mp taken
  cases same
  obtain ⟨chars, spelled, rfl⟩ := takeCodes_spells taken'
  refine ⟨_, .mk spelled, ?_⟩
  simp only [List.cons_append, List.append_assoc, List.nil_append]

end RollCall.Json
