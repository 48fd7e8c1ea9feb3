import RollCall.Value

/-!
# Statements

What is sent to a database and what comes back.
-/

set_option autoImplicit false

namespace RollCall.Sql

/-- What a placeholder stands for. -/
inductive Parameter where
  | value (value : Value)
  /-- The member that all records borrow by a name, which is not for databases. -/
  | borrowed (name : String)
deriving Repr, BEq

/-- A statement; the placeholder `$n` stands for the `n`th of the values. -/
structure Statement where
  text : String
  values : List Parameter := []
deriving Repr, BEq

/-- What a database answers: its rows, each cell under the name of its column. -/
abbrev Rows := List Members

end RollCall.Sql
