import RollCall.Bytes
import RollCall.Number.Decimal
import RollCall.Number.Shortest

/-!
# Document values

What documents, database cells and reports hold. The members of a record are found by name; two
orders of the same members are told apart only where a record is written out.
-/

set_option autoImplicit false

namespace RollCall

/-- A document value: JSON's values, and byte strings. -/
inductive Value where
  | null
  | flag (value : Bool)
  | number (value : Number)
  | text (value : String)
  | bytes (value : Bytes)
  | list (items : List Value)
  | record (members : List (String × Value))
deriving Repr

/-- The members of a record. -/
abbrev Members := List (String × Value)

namespace Value

instance : Inhabited Value := ⟨.null⟩

mutual

/-- Whether two values are the same; members count in their order. -/
def same : Value → Value → Bool
  | .null, .null => true
  | .flag left, .flag right => left == right
  | .number left, .number right => left == right
  | .text left, .text right => left == right
  | .bytes left, .bytes right => left == right
  | .list left, .list right => sameItems left right
  | .record left, .record right => sameMembers left right
  | _, _ => false

def sameItems : List Value → List Value → Bool
  | [], [] => true
  | left :: lefts, right :: rights => left.same right && sameItems lefts rights
  | _, _ => false

def sameMembers : List (String × Value) → List (String × Value) → Bool
  | [], [] => true
  | (name, left) :: lefts, (other, right) :: rights =>
      name == other && left.same right && sameMembers lefts rights
  | _, _ => false

end

instance : BEq Value := ⟨same⟩

/-- An integer of the index as a value. -/
def ofInt (value : Int) : Value :=
  .number (.ofInt value)

/-- A text, or null where there is none. -/
def ofText? (value : Option String) : Value :=
  value.elim .null .text

end Value

/-!
## Members
-/

namespace Members

/-- The first member of a name. -/
def find? (members : Members) (name : String) : Option Value :=
  members.lookup name

/-- The index that a name spells, if it is a canonical decimal below `2 ^ 32 - 1`. -/
def index? (name : String) : Option Nat :=
  let index := Number.digitsValue name.toList
  if toString index = name ∧ index < 4294967295 then some index else none

/-- Whether a member called `left` is kept before one called `right`, added later: indices come
first and ascend, other names stay in the order of their arrival. -/
def precedes (left right : String) : Bool :=
  match index? left, index? right with
  | some left, some right => left < right
  | none, some _ => false
  | _, none => true

/-- The members with one set: in place if the name is there, else where it belongs. -/
def set (members : Members) (name : String) (value : Value) : Members :=
  if members.any (·.1 == name) then
    members.map fun member => if member.1 == name then (name, value) else member
  else
    members.takeWhile (precedes ·.1 name) ++
      (name, value) :: members.dropWhile (precedes ·.1 name)

/-- Members set one after the other on top of others. -/
def override (members additions : Members) : Members :=
  additions.foldl (fun members member => members.set member.1 member.2) members

/-- The members of a list of settings, later ones winning. -/
def ofList (settings : Members) : Members :=
  override [] settings

end Members

namespace Value

/-- A record of members, later ones winning. -/
def ofMembers (members : Members) : Value :=
  .record (Members.ofList members)

/-!
## Narrowing

Each of these answers for every value; what is not of the kind asked for counts as absent.
-/

def isRecord : Value → Bool
  | .record _ => true
  | _ => false

/-- The members of a record; none for any other value. -/
def members : Value → Members
  | .record members => members
  | _ => []

/-- The items of a list; none for any other value. -/
def items : Value → List Value
  | .list items => items
  | _ => []

/-- The member of a name; null where there is none. -/
def member (value : Value) (name : String) : Value :=
  (value.members.find? name).getD .null

/-- A text, or the text of a finite number. -/
def asText? : Value → Option String
  | .text value => some value
  | .number value => if value.isFinite then some value.text else none
  | _ => none

/-!
## Display

All records borrow some members. One of these tells how they are displayed; a member of their own by
the same name stands in its place, and is none that tells anything.
-/

/-- The names of the members that all records borrow. -/
def borrowedNames : List String :=
  ["constructor", "hasOwnProperty", "isPrototypeOf", "propertyIsEnumerable", "toLocaleString",
    "toString", "valueOf", "__defineGetter__", "__defineSetter__", "__lookupGetter__",
    "__lookupSetter__", "__proto__"]

/-- The name of the member that tells how a record is displayed. -/
def displayName : String := "toString"

mutual

/-- A value as it appears inside a message. Some have no such form: a record that hides the member
which tells it, one that borrows no members at all counting as such a record, and a list with such a
record in it. -/
def display? : Value → Option String
  | .null => some "null"
  | .flag value => some (if value then "true" else "false")
  | .number value => some value.text
  | .text value => some value
  | .bytes value => some (String.intercalate "," (value.map fun byte => toString byte.toNat))
  | .list items => (displayItems? items).map (String.intercalate ",")
  | .record members =>
      if members.any (·.1 == displayName) then none else some "[object Object]"

/-- The items of a list inside a message, where a null leaves its place empty. -/
def displayItems? : List Value → Option (List String)
  | [] => some []
  | .null :: rest => (displayItems? rest).map ("" :: ·)
  | item :: rest => do return (← item.display?) :: (← displayItems? rest)

end

end Value

end RollCall
