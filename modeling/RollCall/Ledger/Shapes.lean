import RollCall.Event
import RollCall.Ledger.Table
import RollCall.Trace

/-!
# The order in which rows are shown

A row is shown with its members in the order in which it was written. The indexer writes all rows of
a table alike; only rows that were written by hand have an order of their own, and keep it until
they are written anew. A settlement changes a proposal in its place, so it keeps the order.
-/

set_option autoImplicit false

namespace RollCall.Ledger

/-- The order of the members of a row. -/
structure Shape where
  id : Value
  names : List String

/-- The orders of the rows that were written by hand. -/
abbrev Shapes := List Shape

namespace Shape

/-- Whether a row, given as cells, is the one whose order this is: it has the id and the names. -/
def fits (shape : Shape) (cells : Members) : Bool :=
  cells.find? "id" == some shape.id && cells.length == shape.names.length &&
    cells.all (shape.names.contains ·.1)

def arrange (shape : Shape) (cells : Members) : Members :=
  shape.names.filterMap fun name => (cells.find? name).map (name, ·)

end Shape

namespace Shapes

/-- The orders without that of a row, given as cells. -/
def forget (shapes : Shapes) (cells : Members) : Shapes :=
  shapes.filter (!·.fits cells)

/-- The orders after a row, given as cells, was written by hand. -/
def written (shapes : Shapes) (cells : Members) : Shapes :=
  { id := (cells.find? "id").getD .null, names := cells.map Prod.fst } :: shapes.forget cells

/-- The orders after the indexer has done something, handling an event of a tag. -/
def changed (shapes : Shapes) : Operation × Option String → Shapes
  | (.upsertValidator row, _) => shapes.forget (validators.write row)
  | (.upsertGrant row, _) => shapes.forget (grants.write row)
  | (.upsertProposal row, tag) =>
      if tag = some Event.Kind.settlement.name then shapes
      else shapes.forget (proposals.write row)
  | _ => shapes

/-- The orders after what a trace tells. -/
def after (shapes : Shapes) (trace : Trace) : Shapes :=
  trace.taggedOperations.foldl changed shapes

/-- The cells of a row in the order in which it is shown. -/
def arrangeRow (shapes : Shapes) (cells : Members) : Members :=
  (shapes.find? (·.fits cells)).elim cells (·.arrange cells)

/-- A document in the order in which it is shown, be it a row or a page of rows. -/
def arrange (shapes : Shapes) : Value → Value
  | .record members =>
      .record ((shapes.arrangeRow members).map fun
        | ("rows", .list rows) =>
            ("rows", .list (rows.map fun row => .record (shapes.arrangeRow row.members)))
        | member => member)
  | value => value

end Shapes

end RollCall.Ledger
