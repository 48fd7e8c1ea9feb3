import RollCall.Bytes.Base64
import RollCall.Bytes.Utf8
import RollCall.Event
import RollCall.Fault
import RollCall.Number.Numeral

/-!
# The attributes of an event

Older nodes wrap keys and values in base64. A plain key counts before a wrapped one of the same
name, and of two equal keys the first counts. The readers below say what is wrong with an attribute
as a `Defect`.
-/

set_option autoImplicit false

namespace RollCall.Event

/-- The values of attributes by name, in the order in which the names were found. -/
abbrev Attributes := List (String × String)

namespace Attributes

def has (attributes : Attributes) (name : String) : Bool :=
  attributes.any (·.1 == name)

/-- The attributes with one more, unless its name is there already. -/
def fill (attributes : Attributes) (name value : String) : Attributes :=
  if attributes.has name then attributes else attributes ++ [(name, value)]

/-- The text inside a base64 text. -/
def unwrapped (text : String) : String :=
  Utf8.decode (Base64.decode text)

/-- The name that a wrapped key holds. -/
def wrappedName? (key : String) : Option String :=
  if key ≠ "" ∧ Base64.isStrict key ∧ Text.isIdentifier (unwrapped key) then some (unwrapped key)
  else none

/-- A value of a wrapped attribute; one that is not base64 stands for itself. -/
def wrappedValue (value : String) : String :=
  if Base64.isStrict value then unwrapped value else value

def fillPlain (attributes : Attributes) (entry : Attribute) : Attributes :=
  attributes.fill entry.key entry.value

def fillWrapped (attributes : Attributes) (entry : Attribute) : Attributes :=
  match wrappedName? entry.key with
  | some name => attributes.fill name (wrappedValue entry.value)
  | none => attributes

end Attributes

/-- The attributes of an event: those under plain keys first, then those under wrapped keys whose
name is still free. -/
def attributeValues (event : Event) : Attributes :=
  event.attributes.foldl Attributes.fillWrapped (event.attributes.foldl Attributes.fillPlain [])

/-!
## Readers
-/

/-- Why the attributes of an event are not those of its kind. -/
inductive Defect where
  | wrongType (expected : Kind)
  | missing (name : String)
  | notNatural (name value : String)
  | empty (name : String)
  | notFlag (name value : String)
  | notBase64 (name : String)
deriving DecidableEq, Repr

namespace Defect

def reason : Defect → String
  | wrongType expected => s!"expected event type \"{expected.name}\""
  | missing name => s!"missing attribute \"{name}\""
  | notNatural name _ => s!"attribute \"{name}\" is not an unsigned integer"
  | empty name => s!"attribute \"{name}\" is empty"
  | notFlag name _ => s!"attribute \"{name}\" is not a boolean"
  | notBase64 name => s!"attribute \"{name}\" is not base64"

/-- What is logged beside the reason. -/
def details : Defect → Members
  | notNatural _ value => [("value", .text value)]
  | notFlag _ value => [("value", .text value)]
  | _ => []

def fault (defect : Defect) (eventType : String) : Fault :=
  .undecodable eventType defect.reason defect.details

end Defect

namespace Attributes

/-- The value of a name, without blanks around it. -/
def required (attributes : Attributes) (name : String) : Except Defect String :=
  match attributes.lookup name with
  | some value => .ok (Text.trim value)
  | none => .error (.missing name)

/-- A safe natural number in decimal digits. -/
def natural (attributes : Attributes) (name : String) : Except Defect Nat := do
  let value ← attributes.required name
  match Number.naturalOf? value.toList with
  | some number => pure number
  | none => throw (.notNatural name value)

/-- A text that is not blank. -/
def text (attributes : Attributes) (name : String) : Except Defect String := do
  let value ← attributes.required name
  if value = "" then throw (.empty name) else pure value

/-- A text that may be blank or missing. -/
def optionalText (attributes : Attributes) (name : String) : String :=
  Text.trim ((attributes.lookup name).getD "")

/-- One of the words `true` and `false`. -/
def flag (attributes : Attributes) (name : String) : Except Defect Bool := do
  let value ← attributes.required name
  if value = "true" then pure true
  else if value = "false" then pure false
  else throw (.notFlag name value)

/-- A payload in padded base64. -/
def payload (attributes : Attributes) (name : String) : Except Defect Bytes := do
  let value ← attributes.required name
  if Base64.isStrict value then pure (Base64.decode value) else throw (.notBase64 name)

end Attributes

end RollCall.Event
