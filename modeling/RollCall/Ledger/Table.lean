import RollCall.Bytes.Hex
import RollCall.Ledger
import RollCall.Number.Numeral
import RollCall.Fault

/-!
# Tables in a database

How the rows of each table are written as cells and read back. Databases may answer integers as
text and payloads as text in hexadecimal; reading takes both.
-/

set_option autoImplicit false

namespace RollCall.Ledger

/-!
## Cells
-/

namespace Cell

/-- The number in a column, whichever it is. -/
def anyNumber (cells : Members) (column : String) : Except Fault Number :=
  Fault.demand ((cells.find? column).elim (some .nan) Value.toNumber?)

/-- The integer in a column; a cell that holds none is a fault. -/
def integer (cells : Members) (column : String) : Except Fault Int := do
  match (← anyNumber cells column).safeInt? with
  | some value => return value
  | none =>
      let shown ← Fault.demand ((cells.find? column).elim (some "undefined") Value.display?)
      throw (.column column shown)

/-- The number in a column, which must be an integer. -/
def number (cells : Members) (column : String) : Except Fault Number :=
  (integer cells column).map Number.ofInt

/-- The text in a column; none is the empty text. -/
def text (cells : Members) (column : String) : Except Fault String :=
  match (cells.find? column).getD .null with
  | .null => .ok ""
  | value => Fault.demand value.display?

/-- The payload in a column; anything but bytes and marked hexadecimal text is the empty one. -/
def payload (cells : Members) (column : String) : Bytes :=
  match (cells.find? column).getD .null with
  | .bytes value => value
  | .text value =>
      match value.toList with
      | '\\' :: 'x' :: digits => Hex.decodeLeading (narrowed (String.ofList digits))
      | _ => []
  | _ => []

/-- Whether a column holds the flag that is set. -/
def flag (cells : Members) (column : String) : Bool :=
  (cells.find? column) == some (.flag true)

end Cell

/-!
## Tables
-/

/-- A table: its name, the columns that an insert binds, and its rows as cells. A row is put together
from cells by a reading of its numbers. -/
structure Table (ρ : Type) where
  name : String
  columns : List String
  write : ρ → Members
  assemble : (number : String → Except Fault Number) → Members → Except Fault ρ

/-- A row of a table as a database answers it: all of its numbers are integers. -/
def Table.read {ρ : Type} (table : Table ρ) (cells : Members) : Except Fault ρ :=
  table.assemble (Cell.number cells) cells

/-- A row of a table whose rows are numbered, with its number. -/
def Table.readNumbered {ρ : Type} (table : Table ρ) (cells : Members) :
    Except Fault (Numbered ρ) := do
  return { id := ← Cell.integer cells "id", row := ← table.read cells }

def Table.writeNumbered {ρ : Type} (table : Table ρ) (numbered : Numbered ρ) : Members :=
  ("id", .ofInt numbered.id) :: table.write numbered.row

def validators : Table Validator where
  name := "validators"
  columns := ["id", "address", "agent_url", "stake"]
  write row :=
    [("id", .number row.id), ("address", .text row.address), ("agent_url", .text row.agentUrl),
      ("stake", .number row.stake)]
  assemble number cells := do
    return {
      id := ← number "id"
      address := ← Cell.text cells "address"
      agentUrl := ← Cell.text cells "agent_url"
      stake := ← number "stake" }

def proposals : Table Proposal where
  name := "proposals"
  columns :=
    ["id", "proposer_index", "proposer_address", "data", "new_height", "settle_height", "status"]
  write row :=
    [("id", .number row.id), ("proposer_index", .number row.proposerIndex),
      ("proposer_address", .text row.proposerAddress), ("data", .bytes row.data),
      ("new_height", .number row.createdAt), ("settle_height", .number row.settledAt),
      ("status", .number row.status)]
  assemble number cells := do
    return {
      id := ← number "id"
      proposerIndex := ← number "proposer_index"
      proposerAddress := ← Cell.text cells "proposer_address"
      data := Cell.payload cells "data"
      createdAt := ← number "new_height"
      settledAt := ← number "settle_height"
      status := ← number "status" }

def grants : Table Grant where
  name := "grants"
  columns := ["id", "address", "height", "stake", "proposer", "proposer_address", "grant"]
  write row :=
    [("id", .number row.id), ("address", .text row.address), ("height", .number row.height),
      ("stake", .number row.stake), ("proposer", .number row.proposer),
      ("proposer_address", .text row.proposerAddress), ("grant", .flag row.granted)]
  assemble number cells := do
    return {
      id := ← number "id"
      address := ← Cell.text cells "address"
      height := ← number "height"
      stake := ← number "stake"
      proposer := ← number "proposer"
      proposerAddress := ← Cell.text cells "proposer_address"
      granted := Cell.flag cells "grant" }

def discussions : Table Discussion where
  name := "discussions"
  columns := ["proposal", "speaker_index", "speaker_address", "data", "height", "event_index"]
  write row :=
    [("proposal", .number row.proposal), ("speaker_index", .number row.speakerIndex),
      ("speaker_address", .text row.speakerAddress), ("data", .bytes row.data),
      ("height", .number row.height), ("event_index", .number row.ordinal)]
  assemble number cells := do
    return {
      proposal := ← number "proposal"
      speakerIndex := ← number "speaker_index"
      speakerAddress := ← Cell.text cells "speaker_address"
      data := Cell.payload cells "data"
      height := ← number "height"
      ordinal := ← number "event_index" }

def proposalVotes : Table ProposalVote where
  name := "proposal_votes"
  columns := ["proposal", "voter_index", "voter_address", "height", "vote"]
  write row :=
    [("proposal", .number row.proposal), ("voter_index", .number row.voterIndex),
      ("voter_address", .text row.voterAddress), ("height", .number row.height),
      ("vote", .number row.vote)]
  assemble number cells := do
    return {
      proposal := ← number "proposal"
      voterIndex := ← number "voter_index"
      voterAddress := ← Cell.text cells "voter_address"
      height := ← number "height"
      vote := ← number "vote" }

def grantVotes : Table GrantVote where
  name := "grant_votes"
  columns :=
    ["proposer_index", "proposer_address", "account_index", "account_addr", "voter_index",
      "voter_address", "height", "vote"]
  write row :=
    [("proposer_index", .number row.proposerIndex), ("proposer_address", .text row.proposerAddress),
      ("account_index", .number row.accountIndex), ("account_addr", .text row.accountAddress),
      ("voter_index", .number row.voterIndex), ("voter_address", .text row.voterAddress),
      ("height", .number row.height), ("vote", .number row.vote)]
  assemble number cells := do
    return {
      proposerIndex := ← number "proposer_index"
      proposerAddress := ← Cell.text cells "proposer_address"
      accountIndex := ← number "account_index"
      accountAddress := ← Cell.text cells "account_addr"
      voterIndex := ← number "voter_index"
      voterAddress := ← Cell.text cells "voter_address"
      height := ← number "height"
      vote := ← number "vote" }

end RollCall.Ledger
