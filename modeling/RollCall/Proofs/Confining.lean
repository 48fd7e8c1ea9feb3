import RollCall.Proofs.Cells
import RollCall.Proofs.Configuring
import RollCall.Proofs.Keeping
import RollCall.Proofs.Upserts

/-!
# The name of the schema in statements

The name of the schema stands in nearly all statements, each time in double quotes. Whatever name is
set, a statement has the same tokens but for that name: where it stands it is one token, and nothing of
it is anywhere else.
-/

set_option autoImplicit false

namespace RollCall

namespace Sql

/-!
## Texts around a name
-/

/-- The tokens of a text, with places for a name. -/
abbrev Template := List (Option Token)

def Template.fill (template : Template) (name : String) : List Token :=
  template.map (·.getD (.name name))

@[simp] theorem Template.fill_fixed (tokens : List Token) (name : String) :
    Template.fill (tokens.map some) name = tokens := by
  simp [fill, Function.comp_def]

@[simp] theorem Template.fill_cons (first : Option Token) (rest : Template) (name : String) :
    Template.fill (first :: rest) name = first.getD (.name name) :: rest.fill name := rfl

@[simp] theorem Template.fill_append (front back : Template) (name : String) :
    Template.fill (front ++ back) name = front.fill name ++ back.fill name :=
  List.map_append

theorem Template.fill_intercalate (separator : List Token) (templates : List Template)
    (name : String) :
    Template.fill ((separator.map some).intercalate templates) name =
      separator.intercalate (templates.map (·.fill name)) := by
  induction templates with
  | nil => rfl
  | cons first rest ih =>
      cases rest with
      | nil => simp
      | cons second rest =>
          rw [List.intercalate_cons_cons, fill_append, fill_append, fill_fixed, ih]
          simp [List.intercalate_cons_cons]

/-- Texts that differ in a name, and in nothing else that a database reads. -/
def Confined (text : String → String) : Prop :=
  ∃ template : Template, ∀ name, '"' ∉ name.toList →
    tokens? (text name).toList = some (template.fill name)

/-- Whether a text can stand behind one that is read by itself. -/
def isBehind (text : List Char) : Bool :=
  text.head?.all separates && (tokens? text).isSome

/-- Whether a text can stand between two that are read by themselves. -/
def isBetween : List Char → Bool
  | [] => false
  | first :: rest =>
      match rest.reverse with
      | [] => false
      | last :: inner =>
          separates first && separates last && (tokens? inner.reverse).isSome

theorem isBehind_append {front back : List Char} (begins : front.head?.any separates)
    (bare : isBare front) (reads : (tokens? back).isSome) : isBehind (front ++ back) := by
  obtain ⟨first, rest, rfl⟩ : ∃ first rest, front = first :: rest := by
    cases front with
    | nil => cases begins
    | cons first rest => exact ⟨first, rest, rfl⟩
  obtain ⟨tokens, read⟩ := Option.isSome_iff_exists.mp reads
  have apart : separates first := by simpa using begins
  rw [isBehind, tokens?_bare_append bare, read]
  simp [apart]

section Confined

variable {source : String → String} {front middle back : List Char}

theorem confined_quoted : Confined quoted :=
  ⟨[none], fun _ plain => tokens?_quoted plain⟩

theorem Confined.followed (confined : Confined source) (behind : isBehind back) :
    Confined fun name => source name ++ String.ofList back := by
  obtain ⟨template, fits⟩ := confined
  obtain ⟨apart, reads⟩ := Bool.and_eq_true_iff.mp behind
  obtain ⟨tokens, read⟩ := Option.isSome_iff_exists.mp reads
  refine ⟨template ++ tokens.map some, fun name plain => ?_⟩
  rw [String.toList_append, String.toList_ofList, Template.fill_append, Template.fill_fixed]
  cases back with
  | nil =>
      cases read
      simpa using fits name plain
  | cons first rest =>
      rw [tokens?_cons apart] at read
      obtain ⟨others, readRest, rfl⟩ := Option.map_eq_some_iff.mp read
      rw [tokens?_append_cons (fits name plain) apart, readRest]
      rfl

theorem Confined.preceded (confined : Confined source) (bare : isBare front) :
    Confined fun name => String.ofList front ++ source name := by
  obtain ⟨template, fits⟩ := confined
  refine ⟨(front.map .char).map some ++ template, fun name plain => ?_⟩
  rw [String.toList_append, String.toList_ofList, tokens?_bare_append bare, fits name plain,
    Template.fill_append, Template.fill_fixed]
  rfl

theorem Confined.joined (confined : Confined source) {other : String → String}
    (another : Confined other) (between : isBetween middle) :
    Confined fun name => source name ++ String.ofList middle ++ other name := by
  obtain ⟨template, fits⟩ := confined
  obtain ⟨following, fitting⟩ := another
  unfold isBetween at between
  split at between
  case h_1 => cases between
  case h_2 first rest =>
    split at between
    case h_1 => cases between
    case h_2 last inner backwards =>
      simp only [Bool.and_eq_true, Option.isSome_iff_exists] at between
      obtain ⟨⟨apart, alsoApart⟩, tokens, read⟩ := between
      have ends : rest = inner.reverse ++ [last] := by rw [← List.reverse_inj]; simp [backwards]
      refine ⟨template ++ ((.char first :: (tokens ++ [.char last])).map some ++ following),
        fun name plain => ?_⟩
      rw [String.toList_append, String.toList_append, String.toList_ofList, ends]
      simp only [List.cons_append, List.append_assoc, List.nil_append]
      rw [tokens?_append_cons (fits name plain) apart, tokens?_append_cons read alsoApart,
        fitting name plain]
      simp

theorem Confined.around (confined : Confined source) (bare : isBare front)
    (behind : isBehind back) :
    Confined fun name => String.ofList front ++ source name ++ String.ofList back :=
  (confined.preceded bare).followed behind

theorem Confined.followed_text (confined : Confined source) {text : String}
    (behind : isBehind text.toList) : Confined fun name => source name ++ text := by
  simpa using confined.followed behind

theorem Confined.preceded_text (confined : Confined source) {text : String}
    (bare : isBare text.toList) : Confined fun name => text ++ source name := by
  simpa using confined.preceded bare

theorem confined_table {table : String} (bare : isBare table.toList) :
    Confined fun name => quoted name ++ "." ++ table := by
  have behind : isBehind ("." ++ table).toList := by
    rw [String.toList_append]
    exact isBehind_append rfl (by decide) (by rw [tokens?_bare bare]; rfl)
  simpa only [String.append_assoc] using confined_quoted.followed_text behind

theorem Confined.insertText (confined : Confined source) {columns : List String} {tail : String}
    {clause : List Token} (plain : ∀ column ∈ columns, '"' ∉ column.toList)
    (readTail : tokens? tail.toList = some clause) (count : Nat) :
    Confined fun name => insertText (source name) columns count tail := by
  obtain ⟨template, fits⟩ := confined
  let said : List Token := .char ' ' ::
    (Insertion.parenthesized (columns.map ([.name ·])) ++ chars " VALUES " ++
      listed ((numbering columns.length 0 count).map fun places =>
        Insertion.parenthesized (places.map ([.place ·]))) ++
      if tail = "" then [] else .char ' ' :: clause)
  refine ⟨(chars "INSERT INTO ").map some ++ (template ++ said.map some), fun name unquoted => ?_⟩
  rw [tokens?_insertText plain (fits name unquoted) readTail count]
  simp [Insertion.tokens, said]

end Confined

/-!
## Lists of statements
-/

/-- Lists of texts, each of which differs in a name and in nothing else. -/
def ConfinedEach (texts : String → List String) : Prop :=
  ∃ templates : List Template, ∀ name, '"' ∉ name.toList →
    List.Forall₂ (fun text template => tokens? text.toList = some (Template.fill template name))
      (texts name) templates

theorem confinedEach_nil : ConfinedEach fun _ => [] :=
  ⟨[], fun _ _ => .nil⟩

theorem confinedEach_cons {text : String → String} {texts : String → List String}
    (first : Confined text) (rest : ConfinedEach texts) :
    ConfinedEach fun name => text name :: texts name := by
  obtain ⟨template, fits⟩ := first
  obtain ⟨templates, fitEach⟩ := rest
  exact ⟨template :: templates, fun name plain => .cons (fits name plain) (fitEach name plain)⟩

set_option maxRecDepth 4000 in
theorem confinedEach_schemaStatements : ConfinedEach Ledger.schemaStatements := by
  have each : ConfinedEach fun name => Ledger.tableStatements (quoted name) := by
    simp only [Ledger.tableStatements]
    refine confinedEach_cons (Confined.preceded confined_quoted (by decide)) ?_
    iterate 19
      refine confinedEach_cons
        (Confined.around confined_quoted (by decide) (by decide)) ?_
    exact confinedEach_nil
  exact each

theorem confined_schemaScript : Confined Ledger.schemaScript := by
  obtain ⟨templates, fits⟩ := confinedEach_schemaStatements
  obtain ⟨lock, read⟩ : ∃ lock,
      tokens? s!"SELECT pg_advisory_xact_lock({Ledger.schemaLock})".toList = some lock :=
    Option.isSome_iff_exists.mp (by decide)
  refine ⟨([Token.char ';', .char '\n'].map some).intercalate (lock.map some :: templates),
    fun name plain => ?_⟩
  have all := @tokens?_intercalate ';' (by decide) ['\n'] (by decide) _ _
    (.cons read (List.forall₂_map_left_iff.mpr (List.forall₂_map_right_iff.mpr (fits name plain))))
  rw [Template.fill_intercalate, List.map_cons, Template.fill_fixed, Ledger.schemaScript, Text.join,
    String.toList_intercalate, List.map_cons]
  exact all

end Sql

namespace Ledger

open Sql (Template Confined)

namespace Database

/-!
## The statements of the ledger
-/

variable {α ρ δ : Type}

/-- All statements that were run are allowed. -/
def Runs (allowed : String → Prop) (_ : δ) (trace : Trace) (_ : δ) : Prop :=
  ∀ statement ∈ trace.statements, allowed statement.text

theorem chaining_runs (allowed : String → Prop) : Call.Chaining (@Runs δ allowed) where
  refl state := by simp [Runs, Trace.statements]
  trans first second := by
    intro statement member
    simp only [Trace.statements, List.filterMap_append, List.mem_append] at member
    exact member.elim (first statement) (second statement)

theorem closed_runs (δ : Type) (allowed : String → Prop) :
    Call.Closed (Call.Keeping (@Runs δ allowed)) :=
  Call.closed_keeping (chaining_runs allowed)

/-- A database that runs no statement but what it is given. -/
structure Quiet (database : Database δ) : Prop where
  run : ∀ statement, Call.Keeps (Runs fun _ => False) (database.run statement)
  close : Call.Keeps (Runs fun _ => False) database.close

/-- A call on a database whose statements differ in the name of the schema, and in nothing else. -/
def Confines (call : (δ : Type) → Database δ → Call δ α) : Prop :=
  ∃ templates : List Template, ∀ (δ : Type) (database : Database δ), database.Quiet →
    '"' ∉ database.schema.toList →
    Call.Keeps (Runs fun text => ∃ template ∈ templates,
      Sql.tokens? text.toList = some (template.fill database.schema)) (call δ database)

section Statements

variable {database : Database δ} (quiet : database.Quiet) {allowed : String → Prop}
include quiet

theorem keeps_send {statement : Sql.Statement} (fits : allowed statement.text) :
    Call.Keeps (Runs allowed) (database.send statement) := by
  refine Call.Keeps.bind (chaining_runs allowed) (Call.Keeps.note fun state => ?_) fun _ => ?_
  · simp [Runs, Trace.statements, fits]
  · exact (quiet.run _).mono fun runs statement member => (runs statement member).elim

theorem keeps_execute {text : String} (fits : allowed text) (values : List Value) :
    Call.Keeps (Runs allowed) (database.execute text values) :=
  keeps_send quiet fits

theorem keeps_storing {statement : Sql.Statement} (fits : allowed statement.text)
    (operation : String) (details : Members) :
    Call.Keeps (Runs allowed) (storing operation details (database.send statement)) := by
  have closed := closed_runs δ allowed
  unfold storing
  refine closed.bind (closed.attempt (keeps_send quiet fits)) fun answer => ?_
  cases answer with
  | error fault => exact closed.bind (closed.ofExcept _) fun _ => closed.fail _
  | ok rows => exact closed.pure rows

theorem keeps_first? {text : String} (fits : allowed text) (values : List Value)
    (read : Members → Except Fault α) :
    Call.Keeps (Runs allowed) (database.first? text values read) := by
  have closed := closed_runs δ allowed
  unfold first?
  refine closed.bind (keeps_execute quiet fits values) fun rows => ?_
  cases rows with
  | nil => exact closed.pure none
  | cons row rows => exact closed.bind (closed.ofExcept _) fun _ => closed.pure _

theorem keeps_page {table : String} {filter : Option (String × Value)}
    (fits : allowed (pageText (database.qualified table) (pickText (filter.map Prod.fst))
      (filter.map Prod.snd).toList.length))
    (alsoFits : allowed (countText (database.qualified table) (pickText (filter.map Prod.fst))))
    (read : Members → Except Fault ρ) (window : Window) :
    Call.Keeps (Runs allowed) (database.page table read filter window) := by
  have closed := closed_runs δ allowed
  unfold page
  refine closed.bind (keeps_execute quiet fits _) fun rows => ?_
  refine closed.bind (keeps_execute quiet alsoFits _) fun counted => ?_
  have pages (total : Int) : Call.Keeps (Runs allowed) (do
      let rows ← Call.ofExcept (rows.mapM read)
      return { rows, total } : Call δ (Page ρ)) :=
    closed.bind (closed.ofExcept _) fun _ => closed.pure _
  cases counted with
  | nil => exact closed.bind (closed.pure 0) pages
  | cons row counted => exact closed.bind (closed.ofExcept _) pages

omit quiet in
theorem keeps_insert {target tail : String} {columns : List String} (cells : Members)
    {next : Sql.Statement → Call δ α}
    (kept : ∀ values, Call.Keeps (Runs allowed)
      (next { text := Sql.insertText target columns 1 tail, values })) :
    Call.Keeps (Runs allowed)
      (Call.ofExcept (Sql.insert target columns [cells] tail) >>= next) := by
  rw [Sql.insert_of_ne_nil (List.cons_ne_nil _ _)]
  exact kept _

end Statements

/-!
## Each operation
-/

section Operations

theorem confines_of_confined {call : (δ : Type) → Database δ → Call δ α} {text : String → String}
    (confined : Sql.Confined text)
    (keeps : ∀ (δ : Type) (database : Database δ), database.Quiet → ∀ allowed : String → Prop,
      allowed (text database.schema) → Call.Keeps (Runs allowed) (call δ database)) :
    Confines call := by
  obtain ⟨template, fits⟩ := confined
  refine ⟨[template], fun δ database quiet plain => keeps δ database quiet _ ?_⟩
  exact ⟨template, List.mem_singleton_self _, fits _ plain⟩

theorem confines_init : Confines fun _ database => database.books .init := by
  refine confines_of_confined Sql.confined_schemaScript fun δ database quiet allowed fits => ?_
  have closed := closed_runs δ allowed
  refine closed.bind (keeps_execute quiet fits []) fun _ => Call.Keeps.note fun _ => ?_
  simp [Runs, Trace.statements]

theorem confines_byId? {table : Table ρ} (bare : Sql.isBare table.name.toList) (id : Number) :
    Confines fun _ database => database.byId? table id := by
  have confined : Sql.Confined fun name => byIdText (Sql.quoted name ++ "." ++ table.name) :=
    Sql.Confined.around (Sql.confined_table bare) (by decide) (by decide)
  exact confines_of_confined confined fun δ database quiet allowed fits => keeps_first? quiet fits _ _

theorem isBehind_where {column : String} (bare : Sql.isBare column.toList) {rest : String}
    (reads : (Sql.tokens? rest.toList).isSome) :
    Sql.isBehind (" WHERE " ++ column ++ rest).toList := by
  rw [String.toList_append]
  refine Sql.isBehind_append (by simp; decide) ?_ reads
  rw [String.toList_append, Sql.isBare, List.all_append, Bool.and_eq_true]
  exact ⟨by decide, bare⟩

theorem confines_lowestAt? {table : Table ρ} (bare : Sql.isBare table.name.toList) {column : String}
    (alsoBare : Sql.isBare column.toList) (height : Height) :
    Confines fun _ database => database.lowestAt? table column height := by
  have behind : Sql.isBehind (" WHERE " ++ column ++ " = $1 ORDER BY id ASC LIMIT 1").toList :=
    isBehind_where alsoBare (by decide)
  have confined := ((Sql.confined_table bare).followed_text behind).preceded_text
    (by decide : Sql.isBare "SELECT * FROM ".toList)
  simp only [← String.append_assoc] at confined
  exact confines_of_confined confined fun δ database quiet allowed fits => keeps_first? quiet fits _ _

theorem confines_hasVote {table : String} (bare : Sql.isBare table.toList) (height : Height)
    (voter : Number) : Confines fun _ database => database.hasVote table height voter := by
  have confined : Sql.Confined fun name => voteText (Sql.quoted name ++ "." ++ table) :=
    Sql.Confined.around (Sql.confined_table bare) (by decide) (by decide)
  refine confines_of_confined confined fun δ database quiet allowed fits => ?_
  have closed := closed_runs δ allowed
  exact closed.bind (keeps_execute quiet fits _) fun _ => closed.pure _

theorem isBehind_pickText {column : Option String} (bare : ∀ name ∈ column, Sql.isBare name.toList) :
    Sql.isBehind (pickText column).toList := by
  cases column with
  | none => rfl
  | some name => exact isBehind_where (bare name rfl) (by decide)

theorem isBehind_window (count : Nat) :
    Sql.isBehind (" ORDER BY id DESC OFFSET $" ++ toString (count + 1) ++ " LIMIT $" ++
      toString (count + 2)).toList := by
  have spelled : (" ORDER BY id DESC OFFSET $" ++ toString (count + 1) ++ " LIMIT $" ++
      toString (count + 2)).toList =
      " ORDER BY id DESC OFFSET ".toList ++ ((Sql.mark (count + 1)).toList ++
        ' ' :: ("LIMIT ".toList ++ (Sql.mark (count + 2)).toList)) := by
    simp [Sql.mark, toString, String.toList_append]
  rw [spelled]
  refine Sql.isBehind_append (by decide) (by decide) ?_
  rw [Sql.tokens?_append_cons (Sql.tokens?_mark _) (by decide),
    Sql.tokens?_bare_append (by decide), Sql.tokens?_mark]
  rfl

theorem confines_page {table : String} (bare : Sql.isBare table.toList)
    {filter : Option (String × Value)}
    (alsoBare : ∀ column ∈ filter.map Prod.fst, Sql.isBare column.toList)
    (read : Members → Except Fault ρ) (window : Window) :
    Confines fun _ database => database.page table read filter window := by
  have picked := (Sql.confined_table bare).followed_text (isBehind_pickText alsoBare)
  obtain ⟨template, fits⟩ := (picked.followed_text (isBehind_window (filter.map Prod.snd).toList.length)).preceded_text
    (by decide : Sql.isBare "SELECT * FROM ".toList)
  obtain ⟨another, alsoFits⟩ := picked.preceded_text
    (by decide : Sql.isBare "SELECT count(*) AS total FROM ".toList)
  simp only [← String.append_assoc] at fits alsoFits
  refine ⟨[template, another], fun δ database quiet plain => keeps_page quiet ?_ ?_ read window⟩
  · exact ⟨template, by simp, fits _ plain⟩
  · exact ⟨another, by simp, alsoFits _ plain⟩

theorem confines_progress (id : String) : Confines fun _ database => database.progress id := by
  have confined : Sql.Confined fun name => progressText (Sql.quoted name ++ "." ++ "index_progress") :=
    Sql.Confined.around (Sql.confined_table (by decide)) (by decide) (by decide)
  refine confines_of_confined confined fun δ database quiet allowed fits => ?_
  have closed := closed_runs δ allowed
  refine closed.bind (keeps_execute quiet fits _) fun rows => ?_
  cases rows with
  | nil => exact closed.pure none
  | cons row rows => exact closed.bind (closed.ofExcept _) fun _ => closed.pure _

theorem confines_saveProgress (id : String) (height : Height) :
    Confines fun _ database => database.books (.saveProgress id height) := by
  have confined : Sql.Confined fun name =>
      saveProgressText (Sql.quoted name ++ "." ++ "index_progress") := by
    have source := Sql.confined_table (by decide : Sql.isBare "index_progress".toList)
    exact Sql.Confined.followed (Sql.Confined.joined (Sql.Confined.preceded source
      (by decide +kernel)) source (by decide +kernel)) (by decide +kernel)
  refine confines_of_confined confined fun δ database quiet allowed fits => ?_
  have closed := closed_runs δ allowed
  exact closed.bind (keeps_storing quiet fits _ _) fun _ => closed.pure _

theorem confines_upsert {table : Table ρ} (bare : Sql.isBare table.name.toList)
    (plain : ∀ column ∈ table.columns, '"' ∉ column.toList) (cells : Members) :
    Confines fun _ database => database.upsert table cells := by
  obtain ⟨clause, read⟩ : ∃ clause, Sql.tokens?
      ("ON CONFLICT (id) DO UPDATE SET " ++ Sql.takeOver table.columns "id").toList = some clause := by
    rw [String.toList_append, Sql.tokens?_bare_append (by decide),
      Sql.tokens?_replacing "id" plain]
    exact ⟨_, rfl⟩
  have confined := (Sql.confined_table bare).insertText plain read 1
  refine confines_of_confined confined fun δ database quiet allowed fits => ?_
  have closed := closed_runs δ allowed
  refine keeps_insert cells fun values => ?_
  exact closed.bind (keeps_storing quiet fits _ _) fun _ => closed.pure _

theorem confines_insert {table : Table ρ} (bare : Sql.isBare table.name.toList)
    (plain : ∀ column ∈ table.columns, '"' ∉ column.toList) (cells : Members) :
    Confines fun _ database => database.insert table cells := by
  have confined := (Sql.confined_table bare).insertText plain
    (Sql.tokens?_bare (by decide : Sql.isBare "RETURNING id".toList)) 1
  refine confines_of_confined confined fun δ database quiet allowed fits => ?_
  have closed := closed_runs δ allowed
  refine keeps_insert cells fun values => ?_
  refine closed.bind (keeps_storing quiet fits _ _) fun rows => ?_
  cases rows with
  | nil => exact closed.fail _
  | cons row rows => exact closed.ofExcept _

theorem bare_some {column : String} (bare : Sql.isBare column.toList) (value : Value) :
    ∀ name ∈ (some (column, value)).map Prod.fst, Sql.isBare name.toList := by
  rintro _ ⟨⟩
  exact bare

theorem plain_of_lawful {table : Table ρ} (lawful : table.Lawful) :
    ∀ column ∈ table.columns, '"' ∉ column.toList := fun column member =>
  Sql.not_mem_of_isPlain (lawful.plain column member) rfl

/-- Whatever the ledger is asked to do, its statements differ in the name of the schema alone. -/
theorem confines_books (operation : Operation) :
    Confines fun _ database => database.books operation := by
  cases operation with
  | init => exact confines_init
  | close =>
      refine ⟨[], fun δ database quiet plain => ?_⟩
      exact quiet.close.mono fun runs statement member => (runs statement member).elim
  | progress id => exact confines_progress id
  | saveProgress id height => exact confines_saveProgress id height
  | upsertValidator row =>
      exact confines_upsert (by decide) (plain_of_lawful lawful_validators) _
  | validator id => exact confines_byId? (by decide) id
  | upsertProposal row =>
      exact confines_upsert (by decide) (plain_of_lawful lawful_proposals) _
  | proposal id => exact confines_byId? (by decide) id
  | proposalCreatedAt height =>
      exact confines_lowestAt? (by decide) (by decide) height
  | proposalSettledAt height =>
      exact confines_lowestAt? (by decide) (by decide) height
  | proposals window proposer =>
      refine confines_page (by decide) ?_ _ window
      cases proposer with
      | none => simp
      | some address => exact bare_some (by decide) _
  | upsertGrant row => exact confines_upsert (by decide) (plain_of_lawful lawful_grants) _
  | grant id => exact confines_byId? (by decide) id
  | grantAt height => exact confines_lowestAt? (by decide) (by decide) height
  | grants window => exact confines_page (by decide) (by simp) _ window
  | discussionAt height ordinal =>
      have confined : Sql.Confined fun name =>
          discussionText (Sql.quoted name ++ "." ++ discussions.name) :=
        Sql.Confined.around (Sql.confined_table (by decide)) (by decide)
          (by decide)
      exact confines_of_confined confined fun δ database quiet allowed fits =>
        keeps_first? quiet fits _ _
  | insertDiscussion row =>
      exact confines_insert (by decide) (plain_of_lawful lawful_discussions) _
  | discussions proposal window =>
      exact confines_page (by decide) (bare_some (by decide) _) _ window
  | hasProposalVote height voter => exact confines_hasVote (by decide) height voter
  | insertProposalVote row =>
      exact confines_insert (by decide) (plain_of_lawful lawful_proposalVotes) _
  | proposalVotes filter window =>
      cases filter with
      | proposal id => exact confines_page (by decide) (bare_some (by decide) _) _ window
      | voter address => exact confines_page (by decide) (bare_some (by decide) _) _ window
  | hasGrantVote height voter => exact confines_hasVote (by decide) height voter
  | insertGrantVote row =>
      exact confines_insert (by decide) (plain_of_lawful lawful_grantVotes) _
  | grantVotes filter window =>
      cases filter with
      | grant id => exact confines_page (by decide) (bare_some (by decide) _) _ window
      | voter address => exact confines_page (by decide) (bare_some (by decide) _) _ window

end Operations

end Database

end Ledger

namespace Settings

open Variables

theorem plain_of_isName {text : String} (name : IsName text) : '"' ∉ text.toList := by
  obtain ⟨first, rest, spelled, _, begins, each⟩ := name
  rw [spelled]
  rintro (_ | ⟨_, member⟩)
  · exact absurd begins (by decide)
  · exact absurd (each _ member) (by decide)

/-- Variables make settings just if all of them that are not blank are of their forms, and the fault is
about the first that is not. Statements differ in the name of the schema that is set, and in nothing
else. -/
theorem resolve_validates :
    (∀ environment : Variables,
      (∀ settings, resolve environment = .ok settings ↔ Written environment settings) ∧
      ((∃ settings, resolve environment = .ok settings) ↔
        ∀ check ∈ checks, check.Passes environment) ∧
      (∀ fault, resolve environment = .error fault ↔ Blames environment checks fault) ∧
      ∀ settings, resolve environment = .ok settings → Sensible settings) ∧
    (∃ templates : List Sql.Template, ∀ environment settings,
      resolve environment = .ok settings →
        List.Forall₂ (fun text template =>
            Sql.tokens? text.toList = some (template.fill settings.database.schema))
          (Ledger.schemaStatements settings.database.schema) templates) ∧
    ∀ operation : Ledger.Operation, ∃ templates : List Sql.Template, ∀ environment settings,
      resolve environment = .ok settings →
        ∀ (δ : Type) (database : Ledger.Database δ), database.Quiet →
          database.schema = settings.database.schema → ∀ state : δ,
          ∀ statement ∈ (database.books operation state).trace.statements,
            ∃ template ∈ templates, Sql.tokens? statement.text.toList =
              some (template.fill settings.database.schema) := by
  have sensible {environment : Variables} {settings : Settings}
      (resolved : resolve environment = .ok settings) : Sensible settings :=
    (resolve_ok_iff.mp resolved).sensible
  refine ⟨fun environment => ⟨fun _ => resolve_ok_iff, resolves_iff, follows_resolve environment,
    fun _ => sensible⟩, ?_, fun operation => ?_⟩
  · obtain ⟨templates, fits⟩ := Sql.confinedEach_schemaStatements
    exact ⟨templates, fun environment settings resolved =>
      fits _ (plain_of_isName (sensible resolved).schema)⟩
  · obtain ⟨templates, runs⟩ := Ledger.Database.confines_books operation
    refine ⟨templates, fun environment settings resolved δ database quiet same state => ?_⟩
    rw [← same]
    exact runs δ database quiet (same ▸ plain_of_isName (sensible resolved).schema)
      ((database.books operation).ends state)

/-- A database without rows. -/
def emptyDatabase (schema : String) : Ledger.Database Unit where
  schema := schema
  run _ := pure []
  close := pure ()

theorem quiet_emptyDatabase (schema : String) : (emptyDatabase schema).Quiet :=
  have closed := Ledger.Database.closed_runs Unit fun _ => False
  ⟨fun _ => closed.pure [], closed.pure ()⟩

def padded : Variables :=
  [("START_HEIGHT", " 007 "), ("PG_SSL", "Yes"), ("PG_SCHEMA", "hac_2"), ("AGENT_URL", " ")]

theorem resolve_validates_padded : ∃ settings, resolve padded = .ok settings ∧
    Written padded settings ∧ Sensible settings ∧
    (settings.startHeight, settings.database.ssl, settings.database.schema) =
      (7, true, "hac_2") ∧
    ∃ template : Sql.Template, Sql.tokens?
      "SELECT * FROM \"hac_2\".validators WHERE id = $1".toList = some (template.fill "hac_2") := by
  have read : (resolve padded).toOption.map (fun settings => (settings.startHeight,
      settings.database.ssl, settings.database.schema)) = some (7, true, "hac_2") := by
    decide
  obtain ⟨settings, kept, reads⟩ := Option.map_eq_some_iff.mp read
  have resolved : resolve padded = .ok settings := by
    cases answer : resolve padded with
    | error fault => rw [answer] at kept; cases kept
    | ok other => rw [answer] at kept; cases kept; rfl
  obtain ⟨each, -, operations⟩ := resolve_validates
  obtain ⟨written, -, -, sensible⟩ := each padded
  refine ⟨settings, resolved, (written settings).mp resolved, sensible settings resolved, reads, ?_⟩
  obtain ⟨templates, fits⟩ := operations (.validator 1)
  have schema : settings.database.schema = "hac_2" := congrArg (·.2.2) reads
  obtain ⟨template, -, tokens⟩ := fits padded settings resolved Unit
    (emptyDatabase settings.database.schema) (quiet_emptyDatabase _) rfl ()
    { text := "SELECT * FROM \"hac_2\".validators WHERE id = $1", values := [.value (.number 1)] }
    (by rw [schema]; exact List.mem_singleton_self _)
  exact ⟨template, schema ▸ tokens⟩

end Settings

end RollCall
