import RollCall.Ledger.Schema
import RollCall.Ledger.Table
import RollCall.Ledger.Tables

/-!
# A ledger in a database

Each operation is one statement, lists are two. A fault in a statement that stores is reported as
one of storing; in one that reads it is passed on as it is.
-/

set_option autoImplicit false

namespace RollCall.Ledger

/-- A database: the schema of the index in it, what runs statements, and what closing does. -/
structure Database (δ : Type) where
  schema : String
  run : Sql.Statement → Call δ Sql.Rows
  close : Call δ Unit

namespace Database

variable {δ : Type}

/-- Runs a statement; it is noted whether or not it succeeds. -/
def send (database : Database δ) (statement : Sql.Statement) : Call δ Sql.Rows := do
  Call.note (.executed statement)
  database.run statement

/-- Runs the statement of a text on values. -/
def execute (database : Database δ) (text : String) (values : List Value := []) :
    Call δ Sql.Rows :=
  database.send { text := text, values := values.map .value }

def qualified (database : Database δ) (table : String) : String :=
  Sql.quoted database.schema ++ "." ++ table

/-- A call that stores; its faults name the operation. -/
def storing {α : Type} (operation : String) (details : Members) (call : Call δ α) :
    Call δ α := do
  match ← call.attempt with
  | .ok value => return value
  | .error fault =>
      let cause ← Call.ofExcept fault.message
      Call.fail (.storeWrite operation cause details)

/-- Stores a row, given as cells, in place of the row of the same id. -/
def upsert {ρ : Type} (database : Database δ) (table : Table ρ) (cells : Members) :
    Call δ Unit := do
  let clause := "ON CONFLICT (id) DO UPDATE SET " ++ Sql.takeOver table.columns "id"
  let statement ← Call.ofExcept
    (Sql.insert (database.qualified table.name) table.columns [cells] clause)
  let key := ("id", ·) <$> cells.find? "id"
  let _ ← storing ("upsert " ++ table.name) key.toList (database.send statement)

/-- Stores a row, given as cells, under the next number, and answers that number. -/
def insert {ρ : Type} (database : Database δ) (table : Table ρ) (cells : Members) :
    Call δ Int := do
  let statement ← Call.ofExcept
    (Sql.insert (database.qualified table.name) table.columns [cells] "RETURNING id")
  let operation := "insert " ++ table.name
  match ← storing operation [] (database.send statement) with
  | [] => Call.fail (.storeWrite operation "no id returned" [])
  | row :: _ => Call.ofExcept (Cell.integer row "id")

/-- The first row that a statement answers, read. -/
def first? {α : Type} (database : Database δ) (text : String) (values : List Value)
    (read : Members → Except Fault α) : Call δ (Option α) := do
  match ← database.execute text values with
  | [] => return none
  | row :: _ => return some (← Call.ofExcept (read row))

def byIdText (source : String) : String :=
  s!"SELECT * FROM {source} WHERE id = $1"

/-- The row of an id. -/
def byId? {ρ : Type} (database : Database δ) (table : Table ρ) (id : Number) :
    Call δ (Option ρ) :=
  database.first? (byIdText (database.qualified table.name)) [.number id] table.read

def lowestText (source column : String) : String :=
  s!"SELECT * FROM {source} WHERE {column} = $1 ORDER BY id ASC LIMIT 1"

/-- Of the rows with a height in a column, the one with the lowest id. -/
def lowestAt? {ρ : Type} (database : Database δ) (table : Table ρ) (column : String)
    (height : Height) : Call δ (Option ρ) :=
  database.first? (lowestText (database.qualified table.name) column) [.number height] table.read

def voteText (source : String) : String :=
  s!"SELECT 1 FROM {source} WHERE height = $1 AND voter_index = $2 LIMIT 1"

def hasVote (database : Database δ) (table : String) (height : Height) (voter : Number) :
    Call δ Bool := do
  let rows ← database.execute (voteText (database.qualified table))
    [.number height, .number voter]
  return !rows.isEmpty

def pickText (column : Option String) : String :=
  column.elim "" fun column => s!" WHERE {column} = $1"

def pageText (source clause : String) (count : Nat) : String :=
  s!"SELECT * FROM {source}{clause} ORDER BY id DESC OFFSET ${count + 1} LIMIT ${count + 2}"

def countText (source clause : String) : String :=
  s!"SELECT count(*) AS total FROM {source}{clause}"

/-- A part of the rows of a table, of all of them or of those with a value in a column. -/
def page {ρ : Type} (database : Database δ) (table : String) (read : Members → Except Fault ρ)
    (filter : Option (String × Value)) (window : Window) : Call δ (Page ρ) := do
  let source := database.qualified table
  let clause := pickText (filter.map Prod.fst)
  let values := (filter.map Prod.snd).toList
  let rows ← database.execute (pageText source clause values.length)
    (values ++ [.number window.offset, .number window.limit])
  let counted ← database.execute (countText source clause) values
  let total ← match counted with
    | [] => pure 0
    | row :: _ => Call.ofExcept (Cell.integer row "total")
  return { rows := ← Call.ofExcept (rows.mapM read), total }

def progressText (source : String) : String :=
  s!"SELECT height FROM {source} WHERE id = $1"

/-- The last height done under a name; what is stored there but is none counts as absent. -/
def progress (database : Database δ) (id : String) : Call δ (Option Height) := do
  match ← database.execute (progressText (database.qualified "index_progress")) [.text id] with
  | [] => return none
  | row :: _ =>
      let number ← Call.ofExcept (Cell.anyNumber row "height")
      return number.safeNat?.map Number.ofNat

/-- The statement that stores a height as done, and never lowers what is stored. -/
def saveProgressText (source : String) : String :=
  s!"INSERT INTO {source} (id, height, updated_at)
     VALUES ($1, $2, now())
     ON CONFLICT (id) DO UPDATE SET
       height = GREATEST({source}.height, EXCLUDED.height),
       updated_at = now()"

/-- The statement that finds a discussion by the place of its event. -/
def discussionText (source : String) : String :=
  s!"SELECT id FROM {source} WHERE height = $1 AND event_index = $2"

def books (database : Database δ) : Books δ
  | .init => do
      let _ ← database.execute (schemaScript database.schema)
      Call.log .info .schema s!"[schema] ensured schema \"{database.schema}\""
  | .close => database.close
  | .progress id => database.progress id
  | .saveProgress id height => do
      let text := saveProgressText (database.qualified "index_progress")
      let _ ← storing "saveProgress" [("height", .number height)]
        (database.execute text [.text id, .number height])
  | .upsertValidator row => database.upsert validators (validators.write row)
  | .validator id => database.byId? validators id
  | .upsertProposal row => database.upsert proposals (proposals.write row)
  | .proposal id => database.byId? proposals id
  | .proposalCreatedAt height => database.lowestAt? proposals "new_height" height
  | .proposalSettledAt height => database.lowestAt? proposals "settle_height" height
  | .proposals window proposer =>
      database.page proposals.name proposals.read
        (proposer.map fun address => ("proposer_address", .text address)) window
  | .upsertGrant row => database.upsert grants (grants.write row)
  | .grant id => database.byId? grants id
  | .grantAt height => database.lowestAt? grants "height" height
  | .grants window => database.page grants.name grants.read none window
  | .discussionAt height ordinal =>
      database.first? (discussionText (database.qualified discussions.name))
        [.number height, .number ordinal] (Cell.integer · "id")
  | .insertDiscussion row => database.insert discussions (discussions.write row)
  | .discussions proposal window =>
      database.page discussions.name discussions.readNumbered
        (some ("proposal", .number proposal)) window
  | .hasProposalVote height voter => database.hasVote proposalVotes.name height voter
  | .insertProposalVote row => database.insert proposalVotes (proposalVotes.write row)
  | .proposalVotes filter window =>
      let condition := match filter with
        | .proposal id => ("proposal", Value.number id)
        | .voter address => ("voter_address", Value.text address)
      database.page proposalVotes.name proposalVotes.readNumbered (some condition) window
  | .hasGrantVote height voter => database.hasVote grantVotes.name height voter
  | .insertGrantVote row => database.insert grantVotes (grantVotes.write row)
  | .grantVotes filter window =>
      let condition := match filter with
        | .grant id => ("account_index", Value.number id)
        | .voter address => ("voter_address", Value.text address)
      database.page grantVotes.name grantVotes.readNumbered (some condition) window

end Database

end RollCall.Ledger
