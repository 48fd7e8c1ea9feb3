import Mathlib.Data.List.TakeWhile
import RollCall.Json.Printer
import RollCall.Proofs.Encodings
import RollCall.Proofs.Numerals

/-!
# Printed documents read back

What a printed document reads back as is set down without the printer and the reader: the value
itself, with base64 in the place of bytes and the members of each record in the order in which they
are kept. Escapes, blanks and brackets are all undone, in any style of blanks.
-/

set_option autoImplicit false

namespace RollCall

/-!
## What can be printed
-/

/-- A number that a document can hold: a finite binary64 number. -/
def Number.IsFinite : Number → Prop
  | .finite value => Number.OnGrid value
  | _ => False

theorem Number.isFinite_ofInt {value : Int} (safe : value.natAbs ≤ safeBound) :
    (Number.ofInt value).IsFinite :=
  if_pos (isSafeInteger_iff.mpr ⟨value, rfl, safe⟩)

mutual

/-- All numbers in a value are finite, and no record in it has two members of one name. -/
def Value.Plain : Value → Prop
  | .number number => number.IsFinite
  | .list items => PlainItems items
  | .record members => (members.map Prod.fst).Nodup ∧ PlainMembers members
  | _ => True

def PlainItems : List Value → Prop
  | [] => True
  | item :: rest => item.Plain ∧ PlainItems rest

def PlainMembers : Members → Prop
  | [] => True
  | (_, value) :: rest => value.Plain ∧ PlainMembers rest

end

/-!
## What is read back
-/

/-- Members in the order in which they are kept. -/
def Members.InOrder (members : Members) : Prop :=
  members.Pairwise fun left right => Members.precedes left.1 right.1 = true

mutual

/-- A value and what its text is read as: bytes as their base64, the members of a record in the
order in which they are kept, and anything else as it is. -/
inductive ReadsAs : Value → Value → Prop where
  | null : ReadsAs .null .null
  | flag (value : Bool) : ReadsAs (.flag value) (.flag value)
  | number (value : Number) : ReadsAs (.number value) (.number value)
  | text (value : String) : ReadsAs (.text value) (.text value)
  | bytes (value : Bytes) : ReadsAs (.bytes value) (.text (Base64.encode value))
  | list {items found : List Value} (each : ItemsReadAs items found) :
      ReadsAs (.list items) (.list found)
  | record {members found kept : Members} (each : MembersReadAs members found)
      (order : kept.Perm found) (inOrder : members.InOrder → kept = found) :
      ReadsAs (.record members) (.record kept)

inductive ItemsReadAs : List Value → List Value → Prop where
  | nil : ItemsReadAs [] []
  | cons {item found : Value} {items others : List Value} (first : ReadsAs item found)
      (rest : ItemsReadAs items others) : ItemsReadAs (item :: items) (found :: others)

inductive MembersReadAs : Members → Members → Prop where
  | nil : MembersReadAs [] []
  | cons (name : String) {value found : Value} {members others : Members}
      (first : ReadsAs value found) (rest : MembersReadAs members others) :
      MembersReadAs ((name, value) :: members) ((name, found) :: others)

end

/-!
## Members in the order in which they are kept
-/

namespace Members

theorem inOrder_iff {members : Members} :
    members.InOrder ↔ (members.map Prod.fst).Pairwise (precedes · · = true) := by
  rw [List.pairwise_map]
  rfl

theorem set_of_absent {members : Members} {name : String} (absent : name ∉ members.map Prod.fst)
    (value : Value) : members.set name value =
      members.takeWhile (precedes ·.1 name) ++
        (name, value) :: members.dropWhile (precedes ·.1 name) := by
  unfold set
  refine if_neg fun known => absent ?_
  obtain ⟨member, found, same⟩ := List.any_eq_true.mp known
  exact List.mem_map.mpr ⟨member, found, beq_iff_eq.mp same⟩

/-- Members of different names are only put in their order. -/
theorem ofList_perm {members : Members} (distinct : (members.map Prod.fst).Nodup) :
    (ofList members).Perm members := by
  induction members using List.reverseRecOn with
  | nil => exact .refl []
  | append_singleton members member ih =>
      rw [List.map_append, List.nodup_append] at distinct
      obtain ⟨distinct, -, apart⟩ := distinct
      have kept := ih distinct
      have absent : member.1 ∉ (ofList members).map Prod.fst := fun found =>
        apart _ ((kept.map Prod.fst).subset found) _ (by simp) rfl
      rw [ofList_concat, set_of_absent absent]
      refine List.perm_middle.trans ?_
      rw [List.takeWhile_append_dropWhile]
      exact (kept.cons member).trans (List.perm_append_singleton member members).symm

theorem ofList_of_inOrder {members : Members} (distinct : (members.map Prod.fst).Nodup)
    (inOrder : members.InOrder) : ofList members = members := by
  induction members using List.reverseRecOn with
  | nil => rfl
  | append_singleton members member ih =>
      rw [List.map_append, List.nodup_append] at distinct
      obtain ⟨distinct, -, apart⟩ := distinct
      obtain ⟨inOrder, -, before⟩ := List.pairwise_append.mp inOrder
      have kept := ih distinct inOrder
      have absent : member.1 ∉ members.map Prod.fst := fun found =>
        apart _ found _ (by simp) rfl
      have last : ∀ other ∈ members, precedes other.1 member.1 = true := fun other found =>
        before other found member (by simp)
      rw [ofList_concat, kept, set_of_absent absent, List.takeWhile_eq_self_iff.mpr last,
        List.dropWhile_eq_nil_iff.mpr last]

end Members

namespace Json

/-!
## Strings
-/

theorem hexValue?_digit : ∀ value < 16, Hex.value? (Hex.digit value) = some value := by
  decide

/-- No character is half of a surrogate pair. -/
theorem toNat_outside (char : Char) : char.toNat < 0xD800 ∨ 0xE000 ≤ char.toNat :=
  char.valid.imp_right fun beyond => beyond.1

theorem codeChar_toNat (char : Char) : codeChar char.toNat = char := by
  have outside := toNat_outside char
  rw [codeChar, if_neg (by omega), Char.ofNat_toNat]

theorem joinCodes_toNat (chars : List Char) : joinCodes (chars.map Char.toNat) = chars := by
  induction chars with
  | nil => rfl
  | cons char rest ih =>
      cases rest with
      | nil => exact congrArg (· :: []) (codeChar_toNat char)
      | cons next others =>
          have outside := toNat_outside char
          rw [List.map_cons, List.map_cons, joinCodes, if_neg (by omega), codeChar_toNat,
            ← List.map_cons, ih]

theorem spells_escapeChar (char : Char) {chars : List Char} {codes : List Nat}
    (spelled : SpellsCodes chars codes) :
    SpellsCodes (escapeChar char ++ chars) (char.toNat :: codes) := by
  unfold escapeChar
  split_ifs with quote backslash newline carriage tab backspace feed control
  · rw [quote]
    exact .escape rfl spelled
  · rw [backslash]
    exact .escape rfl spelled
  · rw [newline]
    exact .escape rfl spelled
  · rw [carriage]
    exact .escape rfl spelled
  · rw [tab]
    exact .escape rfl spelled
  · rw [backspace]
    exact .escape rfl spelled
  · rw [feed]
    exact .escape rfl spelled
  · refine .unit ?_ spelled
    have high := hexValue?_digit (char.toNat / 16) (by omega)
    have low := hexValue?_digit (char.toNat % 16) (by omega)
    have zero : Hex.value? '0' = some 0 := by decide
    simp only [unitCode?, zero, high, low]
    congr 1
    omega
  · exact .plain quote backslash (by omega) spelled

theorem spells_escaped (chars : List Char) :
    SpellsCodes (chars.flatMap escapeChar) (chars.map Char.toNat) := by
  induction chars with
  | nil => exact .nil
  | cons char rest ih => exact spells_escapeChar char ih

theorem spells_quote (text : String) : SpellsText (quote text).toList text := by
  have spelled := SpellsText.mk (spells_escaped text.toList)
  rw [joinCodes_toNat, String.ofList_toList] at spelled
  rw [quote, String.toList_ofList]
  exact spelled

/-!
## Blanks and brackets
-/

theorem blank_nil : Blank [] := fun _ member => nomatch member

theorem blank_singleton {char : Char} (blank : isBlank char = true) : Blank [char] := by
  intro other member
  rwa [List.mem_singleton.mp member]

/-- Parts with a separator and blanks between each two, and blanks behind the last one. -/
def joined (blanks after : List Char) (parts : List (List Char)) : List Char :=
  List.intercalate (',' :: blanks) parts ++ after

theorem joined_single (blanks after part : List Char) :
    joined blanks after [part] = part ++ after := by
  simp [joined]

theorem joined_cons (blanks after part next : List Char) (others : List (List Char)) :
    joined blanks after (part :: next :: others) =
      part ++ ',' :: (blanks ++ joined blanks after (next :: others)) := by
  simp [joined, List.intercalate_cons_cons]

theorem Style.enclose_nil (style : Style) (margin opening closing : String) :
    style.enclose margin opening closing [] = opening ++ closing := rfl

theorem Style.exists_enclose {style : Style} {margin : String}
    (blank : Blank (style.indent.getD "").toList) (blank' : Blank margin.toList) :
    ∃ before after, Blank before ∧ Blank after ∧ ∀ opening closing parts, parts ≠ [] →
      (style.enclose margin opening closing parts).toList =
        opening.toList ++ (before ++ joined before after (parts.map String.toList)) ++
          closing.toList := by
  have newline : Blank ['\n'] := blank_singleton (by decide)
  cases style with
  | mk indent =>
    cases indent with
    | none =>
        refine ⟨[], [], blank_nil, blank_nil, fun opening closing parts some => ?_⟩
        simp [Style.enclose, some, joined, String.toList_append, String.toList_intercalate]
    | some indent =>
        refine ⟨'\n' :: (margin.toList ++ indent.toList), '\n' :: margin.toList,
          newline.append (blank'.append blank), newline.append blank',
          fun opening closing parts some => ?_⟩
        simp [Style.enclose, some, joined, String.toList_append, String.toList_intercalate]

/-!
## Values
-/

theorem names_of_readAs : ∀ {members found : Members}, MembersReadAs members found →
    found.map Prod.fst = members.map Prod.fst
  | _, _, .nil => rfl
  | _, _, .cons name _ rest => congrArg (name :: ·) (names_of_readAs rest)

theorem readsAs_record {members found : Members} (distinct : (members.map Prod.fst).Nodup)
    (each : MembersReadAs members found) : ReadsAs (.record members) (.ofMembers found) := by
  have names := names_of_readAs each
  have distinct' : (found.map Prod.fst).Nodup := names ▸ distinct
  refine .record each (Members.ofList_perm distinct') fun inOrder => ?_
  refine Members.ofList_of_inOrder distinct' ?_
  rw [Members.inOrder_iff] at inOrder ⊢
  rwa [names]

theorem spells_member (style : Style) (name : String) {value : String} {found : Value}
    (spelled : Spells value.toList found) :
    SpellsMember (style.writeMember name value).toList name found := by
  have gap : ∃ before, Blank before ∧
      (if style.indent.isSome then ": " else ":").toList = ':' :: before := by
    split
    · exact ⟨[' '], blank_singleton (by decide), by decide⟩
    · exact ⟨[], blank_nil, by decide⟩
  obtain ⟨before, blanks, same⟩ := gap
  have member := SpellsMember.mk (spells_quote name) blank_nil blanks spelled
  rw [Style.writeMember, String.toList_append, String.toList_append, same]
  simpa using member

theorem Style.blank_deeper {style : Style} {margin : String}
    (blank : Blank (style.indent.getD "").toList) (blank' : Blank margin.toList) :
    Blank (style.deeper margin).toList := by
  rw [deeper, String.toList_append]
  exact blank'.append blank

mutual

/-- A value that is written is spelled, and reads as it should. -/
theorem exists_written {style : Style} (blank : Blank (style.indent.getD "").toList) :
    ∀ (value : Value) (margin : String), Blank margin.toList → value.Plain →
      ∃ found, ReadsAs value found ∧ Spells (write style margin value).toList found
  | .null, _, _, _ => ⟨_, .null, .null⟩
  | .flag true, _, _, _ => ⟨_, .flag true, .yes⟩
  | .flag false, _, _, _ => ⟨_, .flag false, .no⟩
  | .number (.finite value), _, _, grid => ⟨_, .number _, .number (Number.spells_text grid)⟩
  | .text value, _, _, _ => ⟨_, .text value, .text (spells_quote value)⟩
  | .bytes value, _, _, _ => ⟨_, .bytes value, .text (spells_quote (Base64.encode value))⟩
  | .list items, margin, blank', plain => by
      obtain ⟨before, after, blanks, blanks', enclosed⟩ := Style.exists_enclose blank blank'
      rw [write]
      cases items with
      | nil =>
          rw [writeItems, Style.enclose_nil]
          have brackets : ("[" ++ "]").toList = '[' :: ([] ++ [']']) := by decide
          rw [brackets]
          exact ⟨_, .list .nil, .emptyList blank_nil⟩
      | cons item rest =>
          obtain ⟨found, reads, spelled⟩ := exists_items blank (item :: rest)
            (style.deeper margin) (Style.blank_deeper blank blank') (List.cons_ne_nil item rest)
            plain blanks blanks'
          have listed := Spells.list blanks spelled
          rw [enclosed _ _ _ (by rw [writeItems]; exact List.cons_ne_nil _ _)]
          exact ⟨_, .list reads, listed⟩
  | .record members, margin, blank', plain => by
      obtain ⟨before, after, blanks, blanks', enclosed⟩ := Style.exists_enclose blank blank'
      rw [write]
      cases members with
      | nil =>
          rw [writeMembers, Style.enclose_nil]
          have braces : ("\x7b" ++ "\x7d").toList = '{' :: ([] ++ ['}']) := by decide
          rw [braces]
          exact ⟨_, readsAs_record plain.1 .nil, .record (.empty blank_nil)⟩
      | cons member rest =>
          obtain ⟨found, reads, spelled⟩ := exists_members blank (member :: rest)
            (style.deeper margin) (Style.blank_deeper blank blank') (List.cons_ne_nil member rest)
            plain.2 blanks blanks'
          have recorded := SpellsRecord.members blanks spelled
          rw [enclosed _ _ _ (by rw [writeMembers]; exact List.cons_ne_nil _ _)]
          exact ⟨_, readsAs_record plain.1 reads, .record recorded⟩

theorem exists_items {style : Style} (blank : Blank (style.indent.getD "").toList) :
    ∀ (items : List Value) (margin : String), Blank margin.toList → items ≠ [] →
      PlainItems items → ∀ {before after : List Char}, Blank before → Blank after →
      ∃ found, ItemsReadAs items found ∧
        SpellsItems (joined before after ((writeItems style margin items).map String.toList)) found
  | [], _, _, nonempty, _, _, _, _, _ => absurd rfl nonempty
  | [item], margin, blank', _, plain, before, after, blanks, blanks' => by
      obtain ⟨found, reads, spelled⟩ := exists_written blank item margin blank' plain.1
      rw [writeItems, writeItems, List.map_cons, List.map_nil, joined_single]
      exact ⟨_, .cons reads .nil, .last spelled blanks'⟩
  | item :: next :: rest, margin, blank', _, plain, before, after, blanks, blanks' => by
      obtain ⟨found, reads, spelled⟩ := exists_written blank item margin blank' plain.1
      obtain ⟨others, reads', spelled'⟩ := exists_items blank (next :: rest) margin blank'
        (List.cons_ne_nil next rest) plain.2 blanks blanks'
      rw [writeItems, List.map_cons] at spelled' ⊢
      rw [writeItems, List.map_cons, joined_cons]
      have listed := SpellsItems.more spelled blank_nil blanks spelled'
      rw [List.append_nil] at listed
      exact ⟨_, .cons reads reads', listed⟩

theorem exists_members {style : Style} (blank : Blank (style.indent.getD "").toList) :
    ∀ (members : Members) (margin : String), Blank margin.toList → members ≠ [] →
      PlainMembers members → ∀ {before after : List Char}, Blank before → Blank after →
      ∃ found, MembersReadAs members found ∧
        SpellsMembers
          (joined before after ((writeMembers style margin members).map String.toList)) found
  | [], _, _, nonempty, _, _, _, _, _ => absurd rfl nonempty
  | [(name, value)], margin, blank', _, plain, before, after, blanks, blanks' => by
      obtain ⟨found, reads, spelled⟩ := exists_written blank value margin blank' plain.1
      rw [writeMembers, writeMembers, List.map_cons, List.map_nil, joined_single]
      exact ⟨_, .cons name reads .nil, .last (spells_member style name spelled) blanks'⟩
  | (name, value) :: next :: rest, margin, blank', _, plain, before, after, blanks, blanks' => by
      obtain ⟨found, reads, spelled⟩ := exists_written blank value margin blank' plain.1
      obtain ⟨others, reads', spelled'⟩ := exists_members blank (next :: rest) margin blank'
        (List.cons_ne_nil next rest) plain.2 blanks blanks'
      rw [writeMembers, List.map_cons] at spelled' ⊢
      rw [writeMembers, List.map_cons, joined_cons]
      have listed := SpellsMembers.more (spells_member style name spelled) blank_nil blanks spelled'
      rw [List.append_nil] at listed
      exact ⟨_, .cons name reads reads', listed⟩

end

/-- What is printed, in either style, is a document, and reads back. -/
theorem exists_parse?_write {style : Style} (blank : Blank (style.indent.getD "").toList)
    {value : Value} (plain : value.Plain) :
    ∃ found, ReadsAs value found ∧ Spells (write style "" value).toList found ∧
      parse? (write style "" value) = some found := by
  obtain ⟨found, reads, spelled⟩ := exists_written blank value "" blank_nil plain
  refine ⟨found, reads, spelled, parse?_iff.mpr ⟨[], _, [], blank_nil, spelled, blank_nil, ?_⟩⟩
  rw [List.nil_append, List.append_nil]

end Json

end RollCall
