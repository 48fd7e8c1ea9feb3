import RollCall.Ledger

/-!
# Pages

Lists are read page by page, numbered from 0. Whatever page and size are asked for, the page that is
read is a whole number from 0 on, and its size one from 1 to `maxPageSize`.
-/

set_option autoImplicit false

namespace RollCall

def maxPageSize : Number := 100

structure PageRequest where
  page : Number
  size : Number
deriving DecidableEq, Repr

namespace PageRequest

/-- The page that is read when the given one is asked for. Fractions are cut off; what is not
finite asks for the first page, or for the greatest size. -/
def clamp (page size : Number) : PageRequest where
  page := if page.isFinite then Number.max 0 page.truncate else 0
  size :=
    if size.isFinite then Number.min maxPageSize (Number.max 1 size.truncate) else maxPageSize

/-- The part of the list that a page shows. -/
def window (request : PageRequest) : Ledger.Window where
  offset := request.page * request.size
  limit := request.size

end PageRequest

end RollCall
