import Mathlib.Data.List.Induction
import RollCall.Proofs.Tokens

/-!
# The grammar of documents

Which texts are documents, and of which values, is set down by relations that say what stands where
and mention no reader. The reader accepts exactly these texts, and of the members of one name it
keeps the last one.
-/

set_option autoImplicit false

namespace RollCall.Json

/-!
## Values
-/

mutual

/-- A value without blanks around it. -/
inductive Spells : List Char → Value → Prop where
  | null : Spells "null".toList .null
  | yes : Spells "true".toList (.flag true)
  | no : Spells "false".toList (.flag false)
  | number {chars : List Char} {number : Number} (spelled : SpellsNumber chars number) :
      Spells chars (.number number)
  | text {chars : List Char} {text : String} (spelled : SpellsText chars text) :
      Spells chars (.text text)
  | emptyList {blanks : List Char} (blank : Blank blanks) :
      Spells ('[' :: (blanks ++ [']'])) (.list [])
  | list {before chars : List Char} {items : List Value} (blank : Blank before)
      (spelled : SpellsItems chars items) : Spells ('[' :: (before ++ chars ++ [']'])) (.list items)
  | record {chars : List Char} {members : Members} (spelled : SpellsRecord chars members) :
      Spells chars (.ofMembers members)

/-- The items of a list, with blanks after each and before each but the first. -/
inductive SpellsItems : List Char → List Value → Prop where
  | last {chars after : List Char} {item : Value} (spelled : Spells chars item)
      (blank : Blank after) : SpellsItems (chars ++ after) [item]
  | more {chars after before rest : List Char} {item : Value} {items : List Value}
      (spelled : Spells chars item) (blank : Blank after) (blank' : Blank before)
      (others : SpellsItems rest items) :
      SpellsItems (chars ++ after ++ ',' :: (before ++ rest)) (item :: items)

/-- A record and its members as they stand in the text, where names may recur. -/
inductive SpellsRecord : List Char → Members → Prop where
  | empty {blanks : List Char} (blank : Blank blanks) : SpellsRecord ('{' :: (blanks ++ ['}'])) []
  | members {before chars : List Char} {members : Members} (blank : Blank before)
      (spelled : SpellsMembers chars members) :
      SpellsRecord ('{' :: (before ++ chars ++ ['}'])) members

/-- The members of a record, with blanks after each and before each but the first. -/
inductive SpellsMembers : List Char → Members → Prop where
  | last {chars after : List Char} {name : String} {value : Value}
      (spelled : SpellsMember chars name value) (blank : Blank after) :
      SpellsMembers (chars ++ after) [(name, value)]
  | more {chars after before rest : List Char} {name : String} {value : Value} {members : Members}
      (spelled : SpellsMember chars name value) (blank : Blank after) (blank' : Blank before)
      (others : SpellsMembers rest members) :
      SpellsMembers (chars ++ after ++ ',' :: (before ++ rest)) ((name, value) :: members)

/-- A member of a record. -/
inductive SpellsMember : List Char → String → Value → Prop where
  | mk {key after before chars : List Char} {name : String} {value : Value}
      (named : SpellsText key name) (blank : Blank after) (blank' : Blank before)
      (spelled : Spells chars value) :
      SpellsMember (key ++ after ++ ':' :: (before ++ chars)) name value

end

/-!
## What the reader takes
-/

/-- Within so many steps the reader takes only values, after blanks. -/
def TakesValues (fuel : Nat) : Prop :=
  ∀ ⦃text value rest⦄, takeValue fuel text = some (value, rest) →
    ∃ before chars, Blank before ∧ Spells chars value ∧ text = before ++ (chars ++ rest)

def TakesItems (fuel : Nat) : Prop :=
  ∀ ⦃text items rest⦄, takeItems fuel text = some (items, rest) →
    ∃ before chars, Blank before ∧ SpellsItems chars items ∧ text = before ++ (chars ++ ']' :: rest)

def TakesMembers (fuel : Nat) : Prop :=
  ∀ ⦃text members rest⦄, takeMembers fuel text = some (members, rest) →
    ∃ before chars, Blank before ∧ SpellsMembers chars members ∧
      text = before ++ (chars ++ '}' :: rest)

theorem takeValue_spells {fuel : Nat} (items : TakesItems fuel) (members : TakesMembers fuel) :
    TakesValues (fuel + 1) := by
  intro text value rest taken
  obtain ⟨before, blank, split⟩ := exists_blank text
  rw [split]
  suffices found : ∃ chars, Spells chars value ∧ skipBlanks text = chars ++ rest by
    obtain ⟨chars, spelled, same⟩ := found
    exact ⟨before, chars, blank, spelled, congrArg _ same⟩
  -- The reader decides by the first characters, and each case is one of the ways to spell a value.
  unfold takeValue at taken
  split at taken
  · next same =>
    cases taken
    exact ⟨_, .null, same⟩
  · next same =>
    cases taken
    exact ⟨_, .yes, same⟩
  · next same =>
    cases taken
    exact ⟨_, .no, same⟩
  · next quoted same =>
    obtain ⟨⟨content, after⟩, taken', both⟩ := Option.map_eq_some_iff.mp taken
    cases both
    obtain ⟨chars, spelled, same'⟩ := takeString_spells taken'
    exact ⟨chars, .text spelled, same.trans same'⟩
  · next inner same =>
    obtain ⟨blanks, blank', split'⟩ := exists_blank inner
    rw [same, split']
    split at taken
    · next empty =>
      cases taken
      refine ⟨_, .emptyList blank', ?_⟩
      simp only [empty, List.cons_append, List.append_assoc, List.nil_append]
    · obtain ⟨⟨found, after⟩, taken', both⟩ := Option.map_eq_some_iff.mp taken
      cases both
      obtain ⟨blanks', chars, blank'', spelled, same'⟩ := items taken'
      refine ⟨_, .list (blank'.append blank'') spelled, ?_⟩
      simp only [same', List.cons_append, List.append_assoc, List.nil_append]
  · next inner same =>
    obtain ⟨blanks, blank', split'⟩ := exists_blank inner
    rw [same, split']
    split at taken
    · next empty =>
      cases taken
      refine ⟨_, .record (.empty blank'), ?_⟩
      simp only [empty, List.cons_append, List.append_assoc, List.nil_append]
    · obtain ⟨⟨found, after⟩, taken', both⟩ := Option.map_eq_some_iff.mp taken
      cases both
      obtain ⟨blanks', chars, blank'', spelled, same'⟩ := members taken'
      refine ⟨_, .record (.members (blank'.append blank'') spelled), ?_⟩
      simp only [same', List.cons_append, List.append_assoc, List.nil_append]
  · obtain ⟨⟨number, after⟩, taken', both⟩ := Option.map_eq_some_iff.mp taken
    cases both
    obtain ⟨chars, spelled, same⟩ := takeNumber_spells taken'
    exact ⟨chars, .number spelled, same⟩

theorem takeItems_spells {fuel : Nat} (values : TakesValues fuel) (items : TakesItems fuel) :
    TakesItems (fuel + 1) := by
  intro text found rest taken
  unfold takeItems at taken
  split at taken
  · cases taken
  · next item afterItem taken' =>
    obtain ⟨before, chars, blank, spelled, rfl⟩ := values taken'
    obtain ⟨after, blank', split⟩ := exists_blank afterItem
    rw [split]
    split at taken
    · next same =>
      cases taken
      refine ⟨before, _, blank, .last spelled blank', ?_⟩
      simp only [same, List.append_assoc]
    · next more same =>
      split at taken
      · next others afterItems taken'' =>
        cases taken
        obtain ⟨before', chars', blank'', spelled', rfl⟩ := items taken''
        refine ⟨before, _, blank, .more spelled blank' blank'' spelled', ?_⟩
        simp only [same, List.cons_append, List.append_assoc]
      · cases taken
    · cases taken

theorem member_spells {fuel : Nat} (values : TakesValues fuel)
    {quoted afterName inner rest : List Char} {name : String} {value : Value}
    (named : takeString quoted = some (name, afterName)) (colon : skipBlanks afterName = ':' :: inner)
    (taken : takeValue fuel inner = some (value, rest)) :
    ∃ chars, SpellsMember chars name value ∧ '"' :: quoted = chars ++ rest := by
  obtain ⟨key, named', same⟩ := takeString_spells named
  obtain ⟨after, blank, split⟩ := exists_blank afterName
  obtain ⟨before, chars, blank', spelled, rfl⟩ := values taken
  refine ⟨_, .mk named' blank blank' spelled, ?_⟩
  rw [same, split, colon]
  simp only [List.cons_append, List.append_assoc]

theorem takeMembers_spells {fuel : Nat} (values : TakesValues fuel) (members : TakesMembers fuel) :
    TakesMembers (fuel + 1) := by
  intro text found rest taken
  obtain ⟨before, blank, split⟩ := exists_blank text
  rw [split]
  unfold takeMembers at taken
  split at taken
  case h_2 => cases taken
  next quoted same =>
  split at taken
  · cases taken
  next name afterName named =>
  split at taken
  case h_2 => cases taken
  next content colon =>
  split at taken
  · cases taken
  next value afterValue taken' =>
  obtain ⟨chars, member, same'⟩ := member_spells values named colon taken'
  obtain ⟨after, blank', split'⟩ := exists_blank afterValue
  rw [same, same', split']
  split at taken
  · next brace =>
    cases taken
    refine ⟨before, _, blank, .last member blank', ?_⟩
    simp only [brace, List.append_assoc]
  · next more comma =>
    split at taken
    · next others afterMembers taken'' =>
      cases taken
      obtain ⟨before', chars', blank'', spelled, rfl⟩ := members taken''
      refine ⟨before, _, blank, .more member blank' blank'' spelled, ?_⟩
      simp only [comma, List.cons_append, List.append_assoc]
    · cases taken
  · cases taken

theorem take_spells (fuel : Nat) : TakesValues fuel ∧ TakesItems fuel ∧ TakesMembers fuel := by
  induction fuel with
  | zero =>
      refine ⟨fun _ _ _ taken => ?_, fun _ _ _ taken => ?_, fun _ _ _ taken => ?_⟩
      · rw [takeValue] at taken
        cases taken
      · rw [takeItems] at taken
        cases taken
      · rw [takeMembers] at taken
        cases taken
  | succ fuel ih =>
      obtain ⟨values, items, members⟩ := ih
      exact ⟨takeValue_spells items members, takeItems_spells values items,
        takeMembers_spells values members⟩

/-!
## What the reader cannot refuse
-/

theorem skipBlanks_cons {char : Char} (solid : isBlank char = false) (rest : List Char) :
    skipBlanks (char :: rest) = char :: rest := by
  simp [skipBlanks, solid]

theorem takeValue_skips {before : List Char} (blank : Blank before) (fuel : Nat)
    (text : List Char) : takeValue fuel (before ++ text) = takeValue fuel text := by
  cases fuel with
  | zero => rw [takeValue, takeValue]
  | succ fuel => rw [takeValue, takeValue, skipBlanks_append blank]

theorem takeItems_skips {before : List Char} (blank : Blank before) (fuel : Nat)
    (text : List Char) : takeItems fuel (before ++ text) = takeItems fuel text := by
  cases fuel with
  | zero => rw [takeItems, takeItems]
  | succ fuel => rw [takeItems, takeItems, takeValue_skips blank]

theorem takeMembers_skips {before : List Char} (blank : Blank before) (fuel : Nat)
    (text : List Char) : takeMembers fuel (before ++ text) = takeMembers fuel text := by
  cases fuel with
  | zero => rw [takeMembers, takeMembers]
  | succ fuel => rw [takeMembers, takeMembers, skipBlanks_append blank]

theorem SpellsNumber.starts {chars : List Char} {number : Number}
    (spelled : SpellsNumber chars number) :
    ∃ first rest, chars = first :: rest ∧ (first = '-' ∨ Number.isDigit first = true) := by
  cases spelled with
  | positive parts =>
      obtain ⟨⟨point, power, rfl, -⟩, whole⟩ := parts
      obtain ⟨first, rest, rfl⟩ := List.exists_cons_of_ne_nil whole.ne_nil
      exact ⟨first, _, rfl, .inr (whole.digits first List.mem_cons_self)⟩
  | negative => exact ⟨_, _, rfl, .inl rfl⟩

theorem Spells.starts {chars : List Char} {value : Value} (spelled : Spells chars value) :
    ∃ first rest, chars = first :: rest ∧ isBlank first = false ∧ first ≠ ']' := by
  cases spelled with
  | null | yes | no | emptyList | list => exact ⟨_, _, rfl, by decide, by decide⟩
  | text spelled =>
      cases spelled
      exact ⟨_, _, rfl, by decide, by decide⟩
  | record spelled => cases spelled <;> exact ⟨_, _, rfl, by decide, by decide⟩
  | number spelled =>
      obtain ⟨first, rest, rfl, start⟩ := spelled.starts
      refine ⟨first, rest, rfl, ?_, ?_⟩
      · rw [← Bool.not_eq_true]
        intro blank
        simp only [isBlank, Bool.or_eq_true, beq_iff_eq] at blank
        rcases blank with ((rfl | rfl) | rfl) | rfl <;> revert start <;> decide
      · rintro rfl
        revert start
        decide

theorem SpellsItems.starts {chars : List Char} {items : List Value}
    (spelled : SpellsItems chars items) :
    ∃ first rest, chars = first :: rest ∧ isBlank first = false ∧ first ≠ ']' := by
  cases spelled with
  | last spelled | more spelled =>
      obtain ⟨first, rest, rfl, solid, other⟩ := spelled.starts
      exact ⟨first, _, rfl, solid, other⟩

theorem SpellsMembers.starts {chars : List Char} {members : Members}
    (spelled : SpellsMembers chars members) : ∃ rest, chars = '"' :: rest := by
  cases spelled with
  | last spelled | more spelled =>
      obtain ⟨⟨_⟩, _, _, _⟩ := spelled
      exact ⟨_, rfl⟩

theorem stops_of_isBlank {char : Char} (blank : isBlank char = true) : StopsNumber char := by
  simp only [isBlank, Bool.or_eq_true, beq_iff_eq] at blank
  rcases blank with ((rfl | rfl) | rfl) | rfl <;> decide

theorem Blank.starts {blanks : List Char} (blank : Blank blanks) : Starts StopsNumber blanks :=
  fun char first => stops_of_isBlank (blank char (List.mem_of_mem_head? first))

/-- A number does not go on with blanks, nor with what ends a number after them. -/
theorem starts_after {after : List Char} (blank : Blank after) (char : Char)
    (stops : StopsNumber char) (rest : List Char) : Starts StopsNumber (after ++ char :: rest) := by
  intro first found
  cases after with
  | nil =>
      cases found
      exact stops
  | cons other others =>
      cases found
      exact stops_of_isBlank (blank first List.mem_cons_self)

/-- Within so many steps the reader takes every value that is short enough. -/
def ReadsValues (fuel : Nat) : Prop :=
  ∀ ⦃chars value rest⦄, Spells chars value → 2 * chars.length ≤ fuel → Starts StopsNumber rest →
    takeValue fuel (chars ++ rest) = some (value, rest)

def ReadsItems (fuel : Nat) : Prop :=
  ∀ ⦃chars items⦄ rest, SpellsItems chars items → 2 * chars.length < fuel →
    takeItems fuel (chars ++ ']' :: rest) = some (items, rest)

def ReadsMembers (fuel : Nat) : Prop :=
  ∀ ⦃chars members⦄ rest, SpellsMembers chars members → 2 * chars.length < fuel →
    takeMembers fuel (chars ++ '}' :: rest) = some (members, rest)

theorem takeValue_list {fuel : Nat} (items : ReadsItems fuel) {before chars : List Char}
    {found : List Value} (blank : Blank before) (spelled : SpellsItems chars found)
    (enough : 2 * ('[' :: (before ++ chars ++ [']'])).length ≤ fuel + 1) (rest : List Char) :
    takeValue (fuel + 1) ('[' :: (before ++ chars ++ [']']) ++ rest) = some (.list found, rest) := by
  have short : 2 * chars.length < fuel := by
    simp only [List.length_cons, List.length_append] at enough
    omega
  have taken := items rest spelled short
  obtain ⟨first, others, rfl, solid, other⟩ := spelled.starts
  rw [List.cons_append] at taken
  rw [takeValue, List.cons_append, skipBlanks_cons (by decide), List.append_assoc,
    List.singleton_append, List.append_assoc]
  simp only [skipBlanks_append blank, List.cons_append, skipBlanks_cons solid]
  split
  · next same => exact (other (List.cons.inj same).1).elim
  · rw [taken, Option.map_some]

theorem takeValue_record {fuel : Nat} (members : ReadsMembers fuel) {chars : List Char}
    {found : Members} (spelled : SpellsRecord chars found) (enough : 2 * chars.length ≤ fuel + 1)
    (rest : List Char) :
    takeValue (fuel + 1) (chars ++ rest) = some (.ofMembers found, rest) := by
  cases spelled with
  | @empty blanks blank =>
      rw [takeValue, List.cons_append, skipBlanks_cons (by decide), List.append_assoc,
        List.singleton_append]
      simp only [skipBlanks_append blank, skipBlanks_cons (show isBlank '}' = false by decide)]
      rfl
  | @members before chars found blank spelled =>
      have short : 2 * chars.length < fuel := by
        simp only [List.length_cons, List.length_append] at enough
        omega
      have taken := members rest spelled short
      obtain ⟨others, rfl⟩ := spelled.starts
      rw [List.cons_append] at taken
      rw [takeValue, List.cons_append, skipBlanks_cons (by decide), List.append_assoc,
        List.singleton_append, List.append_assoc]
      simp only [skipBlanks_append blank, List.cons_append,
        skipBlanks_cons (show isBlank '"' = false by decide)]
      split
      · next same => exact absurd (List.cons.inj same).1 (by decide)
      · rw [taken, Option.map_some]

theorem takeValue_append {fuel : Nat} (items : ReadsItems fuel) (members : ReadsMembers fuel) :
    ReadsValues (fuel + 1) := by
  intro chars value rest spelled enough ends
  cases spelled with
  | null | yes | no =>
      unfold takeValue
      rfl
  | number spelled =>
      have taken := takeNumber_append spelled ends
      obtain ⟨first, others, rfl, start⟩ := spelled.starts
      obtain ⟨_, _, same, solid, -⟩ := (Spells.number spelled).starts
      cases same
      unfold takeValue
      rw [List.cons_append, skipBlanks_cons solid]
      rw [List.cons_append] at taken
      -- only a number starts so
      split
      case h_7 => rw [taken, Option.map_some]
      all_goals
        next same =>
          cases (List.cons.inj same).1
          exact absurd start (by decide)
  | text spelled =>
      obtain ⟨quoted, same, taken⟩ := takeString_append spelled rest
      rw [same, takeValue, skipBlanks_cons (by decide)]
      simp only [taken, Option.map_some]
  | @emptyList blanks blank =>
      rw [takeValue, List.cons_append, skipBlanks_cons (by decide), List.append_assoc,
        List.singleton_append]
      simp only [skipBlanks_append blank, skipBlanks_cons (show isBlank ']' = false by decide)]
  | list blank spelled => exact takeValue_list items blank spelled enough rest
  | record spelled => exact takeValue_record members spelled enough rest

theorem takeItems_append {fuel : Nat} (values : ReadsValues fuel) (items : ReadsItems fuel) :
    ReadsItems (fuel + 1) := by
  intro chars found rest spelled enough
  cases spelled with
  | @last chars after item spelled blank =>
      simp only [List.length_append] at enough
      have taken := values spelled (by omega) (starts_after blank ']' (by decide) rest)
      rw [takeItems, List.append_assoc, taken]
      simp only [skipBlanks_append blank, skipBlanks_cons (show isBlank ']' = false by decide)]
  | @more chars after before others item items' spelled blank blank' spelled' =>
      simp only [List.length_append, List.length_cons] at enough
      have taken := values spelled (by omega)
        (starts_after blank ',' (by decide) (before ++ others ++ ']' :: rest))
      have taken' := items rest spelled' (by omega)
      rw [takeItems, List.append_assoc, List.append_assoc, List.cons_append, taken]
      simp only [skipBlanks_append blank, skipBlanks_cons (show isBlank ',' = false by decide),
        List.append_assoc, takeItems_skips blank', taken']

/-- The reader takes a member apart at its colon. -/
theorem SpellsMember.taken {fuel : Nat} (values : ReadsValues fuel) {chars rest : List Char}
    {name : String} {value : Value} (spelled : SpellsMember chars name value)
    (enough : 2 * chars.length ≤ fuel) (ends : Starts StopsNumber rest) :
    ∃ quoted afterName inner, chars ++ rest = '"' :: quoted ∧
      takeString quoted = some (name, afterName) ∧ skipBlanks afterName = ':' :: inner ∧
      takeValue fuel inner = some (value, rest) := by
  cases spelled with
  | @mk key after before chars _ _ named blank blank' spelled =>
      simp only [List.length_append, List.length_cons] at enough
      obtain ⟨quoted, same, taken⟩ :=
        takeString_append named (after ++ ':' :: (before ++ chars) ++ rest)
      refine ⟨quoted, _, before ++ (chars ++ rest), ?_, taken, ?_, ?_⟩
      · rw [← same]
        simp only [List.append_assoc]
      · simp only [List.append_assoc, List.cons_append, skipBlanks_append blank,
          skipBlanks_cons (show isBlank ':' = false by decide)]
      · rw [takeValue_skips blank']
        exact values spelled (by omega) ends

theorem takeMembers_append {fuel : Nat} (values : ReadsValues fuel) (members : ReadsMembers fuel) :
    ReadsMembers (fuel + 1) := by
  intro chars found rest spelled enough
  cases spelled with
  | @last chars after name value spelled blank =>
      simp only [List.length_append] at enough
      obtain ⟨quoted, afterName, inner, same, named, colon, taken⟩ := spelled.taken values (by omega)
        (starts_after blank '}' (by decide) rest)
      rw [takeMembers, List.append_assoc, same, skipBlanks_cons (by decide)]
      simp only [named, colon, taken, skipBlanks_append blank,
        skipBlanks_cons (show isBlank '}' = false by decide)]
  | @more chars after before others name value members' spelled blank blank' spelled' =>
      simp only [List.length_append, List.length_cons] at enough
      obtain ⟨quoted, afterName, inner, same, named, colon, taken⟩ := spelled.taken values (by omega)
        (starts_after blank ',' (by decide) (before ++ others ++ '}' :: rest))
      have taken' := members rest spelled' (by omega)
      rw [takeMembers, List.append_assoc, List.append_assoc, List.cons_append, same,
        skipBlanks_cons (by decide)]
      simp only [named, colon, taken, skipBlanks_append blank,
        skipBlanks_cons (show isBlank ',' = false by decide), List.append_assoc,
        takeMembers_skips blank', taken']

theorem take_append (fuel : Nat) : ReadsValues fuel ∧ ReadsItems fuel ∧ ReadsMembers fuel := by
  induction fuel with
  | zero =>
      refine ⟨fun chars _ _ spelled enough => ?_, fun _ _ _ _ enough => by omega,
        fun _ _ _ _ enough => by omega⟩
      obtain ⟨first, rest, rfl, -⟩ := spelled.starts
      simp only [List.length_cons] at enough
      omega
  | succ fuel ih =>
      obtain ⟨values, items, members⟩ := ih
      exact ⟨takeValue_append items members, takeItems_append values items,
        takeMembers_append values members⟩

/-!
## Whole texts
-/

/-- A text of a value, with nothing but blanks around it. -/
def Denotes (text : String) (value : Value) : Prop :=
  ∃ before chars after, Blank before ∧ Spells chars value ∧ Blank after ∧
    text.toList = before ++ (chars ++ after)

/-- A text of a record with these members in this order, with nothing but blanks around it. -/
def DenotesRecord (text : String) (members : Members) : Prop :=
  ∃ before chars after, Blank before ∧ SpellsRecord chars members ∧ Blank after ∧
    text.toList = before ++ (chars ++ after)

/-- The reader accepts exactly the texts of values, and reads the values that they denote. -/
theorem parse?_iff {text : String} {value : Value} :
    parse? text = some value ↔ Denotes text value := by
  constructor
  · intro read
    unfold parse? at read
    dsimp only at read
    split at read
    · next value rest taken =>
      obtain ⟨before, chars, blank, spelled, split⟩ := (take_spells _).1 taken
      split at read
      · next ended =>
        cases read
        refine ⟨before, chars, rest, blank, spelled, ?_, split⟩
        obtain ⟨blanks, blank', split'⟩ := exists_blank rest
        rw [List.isEmpty_iff.mp ended, List.append_nil] at split'
        exact split' ▸ blank'
      · cases read
    · cases read
  · rintro ⟨before, chars, after, blank, spelled, blank', split⟩
    have enough : 2 * chars.length ≤ 2 * text.toList.length + 2 := by
      rw [split]
      simp only [List.length_append]
      omega
    have ended : skipBlanks after = [] := by
      simpa [skipBlanks] using skipBlanks_append blank' []
    have taken := (take_append _).1 spelled enough blank'.starts
    rw [← takeValue_skips blank, ← split] at taken
    simp only [parse?, taken, ended, List.isEmpty_nil, ↓reduceIte]

theorem denotes_record_iff {text : String} {kept : Members} :
    Denotes text (.record kept) ↔ ∃ members, DenotesRecord text members ∧
      kept = Members.ofList members := by
  constructor
  · rintro ⟨before, chars, after, blank, spelled, blank', split⟩
    generalize same : Value.record kept = value at spelled
    cases spelled with
    | record spelled =>
        cases same
        exact ⟨_, ⟨before, chars, after, blank, spelled, blank', split⟩, rfl⟩
    | _ => cases same
  · rintro ⟨members, ⟨before, chars, after, blank, spelled, blank', split⟩, rfl⟩
    exact ⟨before, chars, after, blank, .record spelled, blank', split⟩

end RollCall.Json

namespace RollCall

/-!
## Members that are set more than once
-/

namespace Members

/-- The last member of a name. -/
def Last (members : Members) (name : String) (value : Value) : Prop :=
  ∃ before after, members = before ++ (name, value) :: after ∧ ∀ member ∈ after, member.1 ≠ name

theorem last_concat_iff {members : Members} {name other : String} {value newest : Value} :
    Last (members ++ [(other, newest)]) name value ↔
      if other = name then newest = value else Last members name value := by
  constructor
  · rintro ⟨before, after, same, others⟩
    rcases List.eq_nil_or_concat after with rfl | ⟨after, member, rfl⟩
    · obtain ⟨rfl, both⟩ := List.append_inj' same rfl
      cases both
      rw [if_pos rfl]
    · rw [List.concat_eq_append, ← List.cons_append, ← List.append_assoc] at same
      obtain ⟨rfl, both⟩ := List.append_inj' same rfl
      cases both
      rw [if_neg (others (other, newest) (by simp))]
      exact ⟨before, after, rfl, fun member found => others member (by simp [found])⟩
  · split
    · next same =>
      rintro rfl
      exact ⟨members, [], by rw [same], nofun⟩
    · next different =>
      rintro ⟨before, after, rfl, others⟩
      refine ⟨before, after ++ [(other, newest)], by simp, fun member found => ?_⟩
      rcases List.mem_append.mp found with found | found
      · exact others member found
      · rw [List.mem_singleton.mp found]
        exact different

theorem find?_cons (key name : String) (value : Value) (members : Members) :
    find? ((key, value) :: members) name = if key = name then some value else members.find? name := by
  unfold find?
  rw [List.lookup_cons]
  split
  · next same => rw [if_pos (beq_iff_eq.mp same).symm]
  · next different => rw [if_neg (Ne.symm (ne_of_beq_false different))]

theorem find?_append_of_absent {front : Members} {name : String}
    (absent : ∀ member ∈ front, member.1 ≠ name) (members : Members) :
    find? (front ++ members) name = members.find? name := by
  induction front with
  | nil => rfl
  | cons member front ih =>
      rw [List.cons_append, find?_cons, if_neg (absent member List.mem_cons_self)]
      exact ih fun other found => absent other (List.mem_cons_of_mem _ found)

theorem find?_append_cons {other name : String} (different : other ≠ name) (value : Value)
    (front members : Members) :
    find? (front ++ (other, value) :: members) name = find? (front ++ members) name := by
  induction front with
  | nil => rw [List.nil_append, find?_cons, if_neg different, List.nil_append]
  | cons member front ih => rw [List.cons_append, List.cons_append, find?_cons, find?_cons, ih]

theorem find?_replace {members : Members} (name other : String) (value : Value)
    (known : members.any (·.1 == other) = true) :
    find? (members.map fun member => if member.1 == other then (other, value) else member) name =
      if other = name then some value else members.find? name := by
  induction members with
  | nil => cases known
  | cons member members ih =>
      obtain ⟨key, old⟩ := member
      rw [List.map_cons]
      by_cases here : key = other
      · -- a second member of the name would be replaced as well, but the first one is found
        rw [if_pos (beq_iff_eq.mpr here), find?_cons, find?_cons, here]
        split
        · rfl
        · next different =>
          by_cases again : members.any (·.1 == other) = true
          · rw [ih again, if_neg different]
          · have untouched : ∀ member ∈ members,
                (if member.1 == other then (other, value) else member) = member := by
              intro member found
              refine if_neg fun same => again (List.any_eq_true.mpr ⟨member, found, same⟩)
            rw [List.map_congr_left untouched, List.map_id']
      · have later : members.any (·.1 == other) = true := by
          rw [List.any_cons, Bool.or_eq_true, beq_iff_eq] at known
          exact known.resolve_left here
        rw [if_neg (mt beq_iff_eq.mp here), find?_cons, find?_cons, ih later]
        split
        · next same => rw [if_neg fun same' => here (same.trans same'.symm)]
        · rfl

theorem find?_insert {members : Members} (name other : String) (value : Value)
    (unknown : ¬ members.any (·.1 == other) = true) (keep : String × Value → Bool) :
    find? (members.takeWhile keep ++ (other, value) :: members.dropWhile keep) name =
      if other = name then some value else members.find? name := by
  split
  · next same =>
    rw [find?_append_of_absent, find?_cons, if_pos same]
    intro member found same'
    have inside := (List.takeWhile_sublist keep).subset found
    exact unknown (List.any_eq_true.mpr ⟨member, inside, beq_iff_eq.mpr (same'.trans same.symm)⟩)
  · next different => rw [find?_append_cons different, List.takeWhile_append_dropWhile]

theorem find?_set (members : Members) (name other : String) (value : Value) :
    (members.set other value).find? name =
      if other = name then some value else members.find? name := by
  unfold set
  split
  · next known => exact find?_replace name other value known
  · next unknown => exact find?_insert name other value unknown _

theorem ofList_concat (members : Members) (member : String × Value) :
    ofList (members ++ [member]) = (ofList members).set member.1 member.2 := by
  simp only [ofList, override, List.foldl_append, List.foldl_cons, List.foldl_nil]

/-- Of the members of one name the last one is kept. -/
theorem find?_ofList_iff {members : Members} {name : String} {value : Value} :
    (ofList members).find? name = some value ↔ Last members name value := by
  induction members using List.reverseRecOn with
  | nil =>
      refine ⟨nofun, ?_⟩
      rintro ⟨before, after, same, -⟩
      cases before <;> cases same
  | append_singleton members member ih =>
      obtain ⟨other, newest⟩ := member
      rw [ofList_concat, find?_set, last_concat_iff]
      split
      · exact Option.some_inj
      · exact ih

end Members

end RollCall
