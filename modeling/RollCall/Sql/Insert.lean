import RollCall.Fault
import RollCall.Sql
import RollCall.Text

/-!
# Inserting rows

One statement inserts any number of rows. What the rows hold goes into the values of the statement;
its text only has a placeholder for each, numbered as the values are bound.
-/

set_option autoImplicit false

namespace RollCall.Sql

def quoted (name : String) : String :=
  s!"\"{name}\""

/-- The placeholder of the value at a place, counted from 1. -/
def mark (place : Nat) : String :=
  s!"${place}"

/-- Values that are bound one after another. -/
abbrev Binding := StateM (List Parameter)

/-- Binds one more value and gives its placeholder. -/
def bindValue (value : Parameter) : Binding String := do
  modify (· ++ [value])
  return mark (← get).length

/-- What a row has in a column. What it lacks is null, unless it borrows a member of that name. -/
def parameter (row : Members) (column : String) : Parameter :=
  match row.find? column with
  | some value => .value value
  | none => if column ∈ Value.borrowedNames then .borrowed column else .value .null

/-- Binds the values of a row in the order of the columns. -/
def bindRow (columns : List String) (row : Members) : Binding String := do
  let marks ← columns.mapM fun column => bindValue (parameter row column)
  return "(" ++ Text.join ", " marks ++ ")"

/-- The statement that inserts rows into a table, with a clause at its end. -/
def insert (table : String) (columns : List String) (rows : List Members) (tail : String) :
    Except Fault Statement :=
  if rows.isEmpty then .error (.noRows table)
  else
    let (tuples, values) := ((rows.mapM (bindRow columns)).run []).run
    let names := Text.join ", " (columns.map quoted)
    let tuples := Text.join ", " tuples
    let clause := if tail = "" then "" else " " ++ tail
    .ok {
      text := s!"INSERT INTO {table} ({names}) VALUES {tuples}{clause}"
      values := values }

/-- The assignments that let a row which is already there take over all columns but its key. -/
def takeOver (columns : List String) (key : String) : String :=
  Text.join ", " ((columns.filter (· ≠ key)).map fun column =>
    s!"{quoted column} = EXCLUDED.{quoted column}")

end RollCall.Sql
