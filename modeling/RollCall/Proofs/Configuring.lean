import Mathlib.Data.List.TakeWhile
import RollCall.Proofs.Grammar
import RollCall.Settings

/-!
# Which variables make settings

What each variable may hold is set down here without the readers, together with what it then stands
for. Variables make settings if and only if all of them that are not blank are of their forms, and then
every setting is what its variable stands for or the default. Otherwise the fault is about the first
variable that is not of its form, whatever the ones behind it hold.
-/

set_option autoImplicit false

namespace RollCall

namespace Variables

/-!
## Forms
-/

/-- The address of a service, of which all but slashes at its end is kept. -/
structure IsAddress (text value : String) : Prop where
  parsed : ∃ url, Url.parse? text = some url ∧ (url.scheme = "http" ∨ url.scheme = "https")
  kept : ∃ slashes, text.toList = value.toList ++ List.replicate slashes '/'
  bare : value.toList.getLast? ≠ some '/'

structure IsNatural (least : Nat) (text : String) (value : Nat) : Prop where
  spelled : Number.InDigits text value
  least : least ≤ value
  safe : value < 2 ^ 53

/-- A numeral, as the language reads it, of a number from 0 to 1. -/
def IsRatio (text : String) (value : Number) : Prop :=
  ∃ rational : Rat, 0 ≤ rational ∧ rational ≤ 1 ∧ Number.ofNumeral text = .finite rational ∧
    value = .finite rational

/-- A text that is one of some words, in capital letters or small ones. -/
def IsOneOf (words : List String) (text : String) : Prop :=
  ∃ word ∈ words, text.toList.map Char.toLower = word.toList

def IsFlag (text : String) : Bool → Prop
  | true => IsOneOf ["1", "true", "yes", "on"] text
  | false => IsOneOf ["0", "false", "no", "off"] text

def IsLevel (text : String) (level : Log.Level) : Prop :=
  level ∈ [.trace, .debug, .info, .warn, .error, .silent] ∧ IsOneOf [level.name] text

/-- A name of at most 63 small letters, underscores and digits, of which the first is no digit. -/
def IsName (text : String) : Prop :=
  ∃ first rest, text.toList = first :: rest ∧ rest.length ≤ 62 ∧
    (('a' ≤ first ∧ first ≤ 'z') ∨ first = '_') ∧
    ∀ char ∈ rest, ('a' ≤ char ∧ char ≤ 'z') ∨ char = '_' ∨ ('0' ≤ char ∧ char ≤ '9')

variable {α : Type} {environment : Variables}

/-- What a variable stands for: a default where it is missing or blank, and else what a form says. -/
def Gives (environment : Variables) (key : String) (form : String → α → Prop) (default value : α) :
    Prop :=
  match environment.value? key with
  | none => value = default
  | some text => form text value

/-- A variable is read as a form says, and what is not of the form is reported. -/
structure Reads (environment : Variables) (key expected : String) (form : String → α → Prop)
    (default : α) (answer : Except Fault α) : Prop where
  ok : ∀ {value}, answer = .ok value ↔ environment.Gives key form default value
  error : ∀ {fault}, answer = .error fault ↔
    ∃ text, environment.value? key = some text ∧ (¬ ∃ value, form text value) ∧
      fault = .setting key text expected

theorem reads_ofForm {form : String → α → Prop} {read : String → Option α}
    (reads : ∀ {text value}, read text = some value ↔ form text value) (key expected : String)
    (default : α) :
    environment.Reads key expected form default
      (environment.ofForm key expected default read) := by
  unfold ofForm
  constructor
  case ok =>
    intro value
    unfold Gives
    cases environment.value? key with
    | none => simp [eq_comm]
    | some text =>
        cases found : read text with
        | none => simp [← reads, found]
        | some result => simp [← reads, found]
  case error =>
    intro fault
    cases environment.value? key with
    | none => simp
    | some text =>
        cases found : read text with
        | none => simp [← reads, found, eq_comm]
        | some result => simp [← reads, found]

/-!
## The readers
-/

theorem reads_natural (key : String) (default least : Nat) :
    environment.Reads key s!"an integer >= {least}" (IsNatural least) default
      (environment.natural key default least) := by
  refine reads_ofForm (fun {text value} => ?_) _ _ _
  rw [Option.filter_eq_some_iff, Number.naturalOf?_iff, decide_eq_true_iff]
  constructor
  · rintro ⟨⟨spelled, safe⟩, least⟩
    exact ⟨spelled, least, safe⟩
  · rintro ⟨spelled, least, safe⟩
    exact ⟨⟨spelled, safe⟩, least⟩

theorem reads_ratio (key : String) (default : Number) :
    environment.Reads key "a number in [0, 1]" IsRatio default (environment.ratio key default) := by
  refine reads_ofForm (fun {text value} => ?_) _ _ _
  dsimp only
  cases read : Number.ofNumeral text with
  | nan => simp [IsRatio, read, Number.isFinite]
  | infinite negative => simp [IsRatio, read, Number.isFinite]
  | finite rational =>
      have zero : (0 : Number) = .finite 0 := rfl
      have one : (1 : Number) = .finite 1 := rfl
      simp only [IsRatio, read, Number.isFinite, Number.below, zero, one]
      constructor
      · intro same
        obtain ⟨inside, same⟩ := Option.ite_none_right_eq_some.mp same
        simp only [Bool.true_and, Bool.and_eq_true, Bool.not_eq_true', decide_eq_false_iff_not,
          not_lt] at inside
        exact ⟨rational, inside.1, inside.2, rfl, (Option.some.inj same).symm⟩
      · rintro ⟨_, least, most, same, rfl⟩
        cases same
        simp [least, most]

theorem lowerAscii_eq (char : Char) : Text.lowerAscii char = char.toLower := by
  by_cases small : char.toNat < 128
  case pos =>
    have each : ∀ code < 128, Text.lowerAscii (.ofNat code) = (Char.ofNat code).toLower := by
      decide +kernel
    simpa [Char.ofNat_toNat] using each char.toNat small
  case neg =>
    have plain : ¬ char ≤ 'Z' := fun below => small (ascii_of_le below (by decide))
    have kept : char.toLower = char := dif_neg fun upper => plain upper.2
    rw [Text.lowerAscii, if_neg fun upper => plain upper.2, kept]

theorem isWord_iff {word text : String} :
    Text.isWord word text = true ↔ text.toList.map Char.toLower = word.toList := by
  simp [Text.isWord, funext lowerAscii_eq]

theorem any_isWord_iff {words : List String} {text : String} :
    words.any (Text.isWord · text) = true ↔ IsOneOf words text := by
  simp [IsOneOf, isWord_iff]

theorem not_isOneOf_both {text : String} {words others : List String} (apart : words.Disjoint others)
    (one : IsOneOf words text) : ¬ IsOneOf others text := by
  rintro ⟨other, isOther, alsoSame⟩
  obtain ⟨word, isWord, same⟩ := one
  have alike := String.toList_inj.mp (same.symm.trans alsoSame)
  exact apart isWord (alike ▸ isOther)

theorem reads_flag (key : String) (default : Bool) :
    environment.Reads key "a boolean" IsFlag default (environment.flag key default) := by
  refine reads_ofForm (fun {text value} => ?_) _ _ _
  have never : IsFlag text true → ¬ IsFlag text false := not_isOneOf_both (by simp)
  split
  case isTrue yes =>
    have isTrue : IsFlag text true := any_isWord_iff.mp yes
    cases value <;> simp [isTrue, never isTrue]
  case isFalse other =>
    have notTrue : ¬ IsFlag text true := fun yes => other (any_isWord_iff.mpr yes)
    split
    case isTrue no =>
      have isFalse : IsFlag text false := any_isWord_iff.mp no
      cases value <;> simp [isFalse, notTrue]
    case isFalse another =>
      have notFalse : ¬ IsFlag text false := fun no => another (any_isWord_iff.mpr no)
      cases value <;> simp [notTrue, notFalse]

theorem find?_eq_some_of_unique {α : Type} {p : α → Bool} {items : List α} {item : α}
    (member : item ∈ items) (holds : p item)
    (unique : ∀ other ∈ items, p other → other = item) : items.find? p = some item := by
  cases found : items.find? p with
  | none => exact absurd holds (List.find?_eq_none.mp found item member)
  | some other =>
      rw [unique other (List.mem_of_find?_eq_some found) (List.find?_some found)]

theorem reads_logLevel :
    environment.Reads "LOG_LEVEL" "trace|debug|info|warn|error|silent" IsLevel .info
      environment.logLevel := by
  refine reads_ofForm (fun {text level} => ?_) _ _ _
  constructor
  · intro found
    have here := List.find?_some found
    rw [isWord_iff] at here
    exact ⟨List.mem_of_find?_eq_some found, _, List.mem_singleton_self _, here⟩
  · rintro ⟨member, _, named, same⟩
    rw [List.mem_singleton] at named
    subst named
    have alike : ∀ other ∈ logLevels, ∀ level ∈ logLevels,
        other.name = level.name → other = level := by decide
    refine find?_eq_some_of_unique member (isWord_iff.mpr same) fun other isLevel alsoSame => ?_
    rw [isWord_iff] at alsoSame
    exact alike other isLevel level member (String.toList_inj.mp (alsoSame.symm.trans same))

/-- What is left of a text is the only text without slashes at its end that slashes complete. -/
theorem withoutSlashes_eq_iff {text value : String} :
    Text.withoutSlashes text = value ↔
      (∃ slashes, text.toList = value.toList ++ List.replicate slashes '/') ∧
        value.toList.getLast? ≠ some '/' := by
  rw [Text.withoutSlashes, ← String.toList_inj, String.toList_ofList]
  constructor
  · intro same
    have back := List.takeWhile_append_dropWhile (p := (· == '/')) (l := text.toList.reverse)
    have slashes : text.toList.reverse.takeWhile (· == '/') =
        List.replicate (text.toList.reverse.takeWhile (· == '/')).length '/' :=
      List.eq_replicate_of_mem fun char member => by
        simpa using List.mem_takeWhile_imp member
    rw [← same]
    refine ⟨⟨(text.toList.reverse.takeWhile (· == '/')).length, ?_⟩, ?_⟩
    · rw [← List.reverse_inj, List.reverse_append, List.reverse_replicate, ← slashes,
        List.reverse_reverse, back]
    · rw [List.getLast?_reverse]
      intro begins
      have := List.head?_dropWhile_not (· == '/') text.toList.reverse
      rw [begins] at this
      simp at this
  · rintro ⟨⟨slashes, kept⟩, bare⟩
    have first : ∀ inside : 0 < value.toList.reverse.length,
        ¬ (value.toList.reverse[0] == '/') = true := by
      intro inside isSlash
      rw [← List.head?_reverse, List.head?_eq_getElem?, List.getElem?_eq_getElem inside] at bare
      exact bare (by simpa using isSlash)
    rw [kept, List.reverse_append, List.reverse_replicate, List.dropWhile_append_of_pos (by simp),
      List.dropWhile_eq_self_iff.mpr first, List.reverse_reverse]

theorem reads_address (key : String) :
    environment.Reads key "an http(s) URL"
      (fun text found => ∃ value, IsAddress text value ∧ found = some value) none
      (environment.address key) := by
  refine reads_ofForm (fun {text found} => ?_) _ _ _
  cases parsed : Url.parse? text with
  | none =>
      refine ⟨nofun, ?_⟩
      rintro ⟨_, ⟨⟨url, same, _⟩, _, _⟩, _⟩
      cases parsed.symm.trans same
  | some url =>
      dsimp only
      split
      case isTrue served =>
        constructor
        · intro same
          obtain ⟨kept, bare⟩ := withoutSlashes_eq_iff.mp (Eq.refl (Text.withoutSlashes text))
          exact ⟨_, ⟨⟨url, parsed, served⟩, kept, bare⟩, (Option.some.inj same).symm⟩
        · rintro ⟨value, ⟨_, kept, bare⟩, rfl⟩
          rw [withoutSlashes_eq_iff.mpr ⟨kept, bare⟩]
      case isFalse other =>
        refine ⟨nofun, ?_⟩
        rintro ⟨_, ⟨⟨_, same, served⟩, _, _⟩, _⟩
        cases parsed.symm.trans same
        exact absurd served other

theorem isName_iff {text : String} :
    IsName text ↔ Text.isIdentifier text = true ∧ text.length ≤ 63 := by
  have begins (char : Char) : Text.beginsIdentifier char = true ↔
      ('a' ≤ char ∧ char ≤ 'z') ∨ char = '_' := by
    simp [Text.beginsIdentifier]
  rw [IsName, Text.isIdentifier, ← String.length_toList]
  cases text.toList with
  | nil => simp
  | cons first rest => 
      simp only [begins, Number.isDigit_iff, Bool.and_eq_true, List.all_eq_true, Bool.or_eq_true,
         List.length_cons, or_assoc]
      constructor
      · rintro ⟨_, _, same, short, starts, each⟩
        cases same
        exact ⟨⟨starts, each⟩, by omega⟩
      · rintro ⟨⟨starts, each⟩, short⟩
        exact ⟨first, rest, rfl, by omega, starts, each⟩

theorem reads_identifier (key default : String) :
    environment.Reads key "a lowercase SQL identifier" (fun text value => IsName text ∧ value = text)
      default (environment.identifier key default) := by
  refine reads_ofForm (fun {text value} => ?_) _ _ _
  rw [isName_iff]
  split
  case isTrue name => simp [name, eq_comm]
  case isFalse other => simp [other]

end Variables

/-!
## The settings that variables make
-/

namespace Settings

open Variables

/-- What is asked of a variable. -/
structure Check where
  key : String
  expected : String
  allows : String → Prop

namespace Check

def ofForm {α : Type} (key expected : String) (form : String → α → Prop) : Check where
  key := key
  expected := expected
  allows text := ∃ value, form text value

def address (key : String) : Check :=
  ofForm key "an http(s) URL" IsAddress

def natural (key : String) (least : Nat) : Check :=
  ofForm key s!"an integer >= {least}" (IsNatural least)

def flag (key : String) : Check :=
  ofForm key "a boolean" IsFlag

/-- Whether a variable is blank or of its form. -/
def Passes (environment : Variables) (check : Check) : Prop :=
  ∀ text, environment.value? check.key = some text → check.allows text

end Check

/-- What is asked of the variables, in the order in which it is found out. -/
def checks : List Check :=
  [.address "RPC_URL", .natural "RPC_TIMEOUT_MS" 1, .natural "RPC_RETRIES" 0,
    .natural "RPC_BACKOFF_MS" 0, .ofForm "RPC_BACKOFF_JITTER" "a number in [0, 1]" IsRatio,
    .natural "START_HEIGHT" 1, .natural "TICK_INTERVAL_MS" 1, .natural "CATCH_UP_DELAY_MS" 0,
    .flag "INCLUDE_FINALIZE_EVENTS",
    .ofForm "LOG_LEVEL" "trace|debug|info|warn|error|silent" IsLevel, .natural "PG_PORT" 1,
    .flag "PG_SSL", .natural "PG_POOL_SIZE" 1,
    ⟨"PG_SCHEMA", "a lowercase SQL identifier", IsName⟩, .address "AGENT_URL",
    .natural "AGENT_TIMEOUT_MS" 1]

/-- A fault is about the first of the variables that is not of its form. -/
def Blames (environment : Variables) (checks : List Check) (fault : Fault) : Prop :=
  ∃ before check after text, checks = before ++ check :: after ∧
    (∀ earlier ∈ before, earlier.Passes environment) ∧
    environment.value? check.key = some text ∧ ¬ check.allows text ∧
    fault = .setting check.key text check.expected

/-- Settings as variables write them. -/
structure Written (environment : Variables) (settings : Settings) : Prop where
  rpcUrl : environment.Gives "RPC_URL" IsAddress "http://127.0.0.1:26657" settings.rpcUrl
  timeout : environment.Gives "RPC_TIMEOUT_MS" (IsNatural 1) 15000 settings.timeout
  retries : environment.Gives "RPC_RETRIES" (IsNatural 0) 2 settings.retries
  backoff : environment.Gives "RPC_BACKOFF_MS" (IsNatural 0) 250 settings.backoff
  jitter : environment.Gives "RPC_BACKOFF_JITTER" IsRatio (Number.ofDecimal false 2 (-1))
    settings.jitter
  startHeight : environment.Gives "START_HEIGHT" (IsNatural 1) 1 settings.startHeight
  tickInterval : environment.Gives "TICK_INTERVAL_MS" (IsNatural 1) 1000 settings.tickInterval
  catchUpDelay : environment.Gives "CATCH_UP_DELAY_MS" (IsNatural 0) 100 settings.catchUpDelay
  withBlockEvents : environment.Gives "INCLUDE_FINALIZE_EVENTS" IsFlag false
    settings.withBlockEvents
  logLevel : environment.Gives "LOG_LEVEL" IsLevel .info settings.logLevel
  connection : settings.database.connection = environment.value? "PG_CONNECTION_STRING"
  host : settings.database.host = environment.value? "PG_HOST"
  port : environment.Gives "PG_PORT" (IsNatural 1) 5432 settings.database.port
  user : settings.database.user = environment.value? "PG_USER"
  password : settings.database.password = environment.value? "PG_PASSWORD"
  database : settings.database.database = environment.value? "PG_DB"
  ssl : environment.Gives "PG_SSL" IsFlag false settings.database.ssl
  poolSize : environment.Gives "PG_POOL_SIZE" (IsNatural 1) 5 settings.database.poolSize
  schema : environment.Gives "PG_SCHEMA" (fun text name => IsName text ∧ name = text) "hac"
    settings.database.schema
  progressId : environment.Gives "PROGRESS_ID" (fun text id => id = text) "default"
    settings.database.progressId
  agentUrl : environment.Gives "AGENT_URL"
    (fun text found => ∃ value, IsAddress text value ∧ found = some value) none settings.agentUrl
  agentTimeout : environment.Gives "AGENT_TIMEOUT_MS" (IsNatural 1) 30000 settings.agentTimeout

variable {environment : Variables}

theorem blames_cons {check : Check} {checks : List Check} {fault : Fault} :
    Blames environment (check :: checks) fault ↔
      (∃ text, environment.value? check.key = some text ∧ ¬ check.allows text ∧
        fault = .setting check.key text check.expected) ∨
      (check.Passes environment ∧ Blames environment checks fault) := by
  constructor
  · rintro ⟨before, found, after, text, same, passes, holds, refused, rfl⟩
    cases before with
    | nil =>
        cases same
        exact .inl ⟨text, holds, refused, rfl⟩
    | cons first before =>
        cases same
        exact .inr ⟨passes _ List.mem_cons_self, before, found, after, text, rfl,
          fun earlier member => passes earlier (List.mem_cons_of_mem _ member), holds, refused, rfl⟩
  · rintro (⟨text, holds, refused, rfl⟩ | ⟨first, before, found, after, text, rfl, passes, rest⟩)
    · exact ⟨[], check, checks, text, rfl, by simp, holds, refused, rfl⟩
    · exact ⟨check :: before, found, after, text, rfl, by simpa using ⟨first, passes⟩, rest⟩

/-- Settings fail to be made just where a variable is to blame. -/
def Follows {α : Type} (environment : Variables) (checks : List Check) (answer : Except Fault α) :
    Prop :=
  ∀ fault, answer = .error fault ↔ Blames environment checks fault

theorem follows_pure {α : Type} (value : α) : Follows environment [] (pure value) := by
  intro fault
  simp [Blames, pure, Except.pure]

theorem follows_bind {α β : Type} {check : Check} {checks : List Check} {form : String → α → Prop}
    {default : α} {answer : Except Fault α} {next : α → Except Fault β}
    (reads : environment.Reads check.key check.expected form default answer)
    (alike : ∀ text, check.allows text ↔ ∃ value, form text value)
    (rest : ∀ value, Follows environment checks (next value)) :
    Follows environment (check :: checks) (answer >>= next) := by
  intro fault
  have here : ∀ other, answer = .error other ↔ ∃ text, environment.value? check.key = some text ∧
      ¬ check.allows text ∧ other = .setting check.key text check.expected := by
    intro other
    simp only [reads.error, alike]
  rw [blames_cons, ← here]
  cases answer with
  | error other =>
      have blocked : ¬ check.Passes environment := by
        obtain ⟨text, holds, refused, _⟩ := (here other).mp rfl
        exact fun passes => refused (passes text holds)
      simp [bind, Except.bind, blocked]
  | ok value =>
      have passes : check.Passes environment := by
        intro text holds
        by_contra refused
        cases (here _).mpr ⟨text, holds, refused, rfl⟩
      simpa [bind, Except.bind, passes] using rest value fault

theorem follows_resolve (environment : Variables) :
    Follows environment checks (resolve environment) := by
  have addressed : ∀ text, (∃ value, IsAddress text value) ↔
      ∃ found, ∃ value, IsAddress text value ∧ found = some value := by simp
  have named : ∀ text, IsName text ↔ ∃ value, IsName text ∧ value = text := by simp
  refine follows_bind (reads_address _) addressed fun _ => ?_
  refine follows_bind (reads_natural _ _ _) (fun _ => Iff.rfl) fun _ => ?_
  refine follows_bind (reads_natural _ _ _) (fun _ => Iff.rfl) fun _ => ?_
  refine follows_bind (reads_natural _ _ _) (fun _ => Iff.rfl) fun _ => ?_
  refine follows_bind (reads_ratio _ _) (fun _ => Iff.rfl) fun _ => ?_
  refine follows_bind (reads_natural _ _ _) (fun _ => Iff.rfl) fun _ => ?_
  refine follows_bind (reads_natural _ _ _) (fun _ => Iff.rfl) fun _ => ?_
  refine follows_bind (reads_natural _ _ _) (fun _ => Iff.rfl) fun _ => ?_
  refine follows_bind (reads_flag _ _) (fun _ => Iff.rfl) fun _ => ?_
  refine follows_bind reads_logLevel (fun _ => Iff.rfl) fun _ => ?_
  refine follows_bind (reads_natural _ _ _) (fun _ => Iff.rfl) fun _ => ?_
  refine follows_bind (reads_flag _ _) (fun _ => Iff.rfl) fun _ => ?_
  refine follows_bind (reads_natural _ _ _) (fun _ => Iff.rfl) fun _ => ?_
  refine follows_bind (reads_identifier _ _) named fun _ => ?_
  refine follows_bind (reads_address _) addressed fun _ => ?_
  refine follows_bind (reads_natural _ _ _) (fun _ => Iff.rfl) fun _ => ?_
  exact follows_pure _

/-- A default may as well be put in where a form has none. -/
theorem gives_getD_iff {α : Type} {key : String} {form : String → α → Prop} {default value : α} :
    environment.Gives key form default value ↔ ∃ found : Option α,
      environment.Gives key (fun text found => ∃ value, form text value ∧ found = some value) none
        found ∧ found.getD default = value := by
  unfold Gives
  cases environment.value? key with
  | none => simp [eq_comm]
  | some text => simp

theorem gives_text_iff {key default value : String} :
    environment.Gives key (fun text value => value = text) default value ↔
      value = (environment.value? key).getD default := by
  unfold Gives
  cases environment.value? key <;> rfl

/-- Variables make the settings that they write. -/
theorem resolve_ok_iff {settings : Settings} :
    resolve environment = .ok settings ↔ Written environment settings := by
  simp only [resolve, bind_ok_iff, pure_ok_iff, (reads_address _).ok, (reads_natural _ _ _).ok,
    (reads_ratio _ _).ok, (reads_flag _ _).ok, reads_logLevel.ok, (reads_identifier _ _).ok]
  constructor
  · rintro ⟨_, rpcUrl, _, timeout, _, retries, _, backoff, _, jitter, _, startHeight, _,
      tickInterval, _, catchUpDelay, _, withBlockEvents, _, logLevel, _, port, _, ssl, _, poolSize,
      _, schema, _, agentUrl, _, agentTimeout, rfl⟩
    exact ⟨gives_getD_iff.mpr ⟨_, rpcUrl, rfl⟩, timeout, retries, backoff, jitter, startHeight,
      tickInterval, catchUpDelay, withBlockEvents, logLevel, rfl, rfl, port, rfl, rfl, rfl, ssl,
      poolSize, schema, gives_text_iff.mpr rfl, agentUrl, agentTimeout⟩
  · intro written
    obtain ⟨found, rpcUrl, here⟩ := gives_getD_iff.mp written.rpcUrl
    refine ⟨found, rpcUrl, _, written.timeout, _, written.retries, _, written.backoff, _,
      written.jitter, _, written.startHeight, _, written.tickInterval, _, written.catchUpDelay, _,
      written.withBlockEvents, _, written.logLevel, _, written.port, _, written.ssl, _,
      written.poolSize, _, written.schema, _, written.agentUrl, _, written.agentTimeout, ?_⟩
    rw [here, ← written.connection, ← written.host, ← written.user, ← written.password,
      ← written.database, ← gives_text_iff.mp written.progressId]

theorem exists_blames_iff {checks : List Check} :
    (∃ fault, Blames environment checks fault) ↔ ¬ ∀ check ∈ checks, check.Passes environment := by
  induction checks with
  | nil => simp [Blames]
  | cons check checks ih =>
      simp only [blames_cons, exists_or, exists_and_left, ih, List.forall_mem_cons]
      have here : (∃ (fault : Fault) (text : String), environment.value? check.key = some text ∧ ¬ check.allows text ∧
          fault = .setting check.key text check.expected) ↔ ¬ check.Passes environment := by
        simp only [Check.Passes, not_forall]
        constructor
        · rintro ⟨_, text, holds, refused, _⟩
          exact ⟨text, holds, refused⟩
        · rintro ⟨text, holds, refused⟩
          exact ⟨_, text, holds, refused, rfl⟩
      rw [here]
      tauto

/-- Variables make settings if all that are not blank are of their forms. -/
theorem resolves_iff :
    (∃ settings, resolve environment = .ok settings) ↔
      ∀ check ∈ checks, check.Passes environment := by
  have fails : (∃ fault, resolve environment = .error fault) ↔
      ¬ ∀ check ∈ checks, check.Passes environment :=
    (exists_congr (follows_resolve environment)).trans exists_blames_iff
  rw [← not_iff_not, ← fails]
  cases resolve environment <;> simp

/-!
## What all settings have in common
-/

/-- Settings with which the indexer can be run. -/
structure Sensible (settings : Settings) : Prop where
  positive : ∀ number ∈ [settings.timeout, settings.startHeight, settings.tickInterval,
    settings.database.port, settings.database.poolSize, settings.agentTimeout], 1 ≤ number
  safe : ∀ number ∈ [settings.timeout, settings.retries, settings.backoff, settings.startHeight,
    settings.tickInterval, settings.catchUpDelay, settings.database.port,
    settings.database.poolSize, settings.agentTimeout], number < 2 ^ 53
  jitter : ∃ rational : Rat, settings.jitter = .finite rational ∧ 0 ≤ rational ∧ rational ≤ 1
  schema : IsName settings.database.schema

theorem gives_forall {α : Type} {key : String} {form : String → α → Prop} {default value : α}
    (holds : α → Prop) (gives : environment.Gives key form default value) (first : holds default)
    (each : ∀ text value, form text value → holds value) : holds value := by
  unfold Gives at gives
  cases found : environment.value? key with
  | none =>
      rw [found] at gives
      exact gives ▸ first
  | some text =>
      rw [found] at gives
      exact each text value gives

theorem natural_bounds {key : String} {default least value : Nat}
    (gives : environment.Gives key (IsNatural least) default value)
    (first : least ≤ default ∧ default < 2 ^ 53) : least ≤ value ∧ value < 2 ^ 53 :=
  gives_forall (fun value => least ≤ value ∧ value < 2 ^ 53) gives first
    fun _ _ form => ⟨form.least, form.safe⟩

theorem Written.sensible {settings : Settings} (written : Written environment settings) :
    Sensible settings := by
  have timeout := natural_bounds written.timeout (by decide)
  have retries := natural_bounds written.retries (by decide)
  have backoff := natural_bounds written.backoff (by decide)
  have startHeight := natural_bounds written.startHeight (by decide)
  have tickInterval := natural_bounds written.tickInterval (by decide)
  have catchUpDelay := natural_bounds written.catchUpDelay (by decide)
  have port := natural_bounds written.port (by decide)
  have poolSize := natural_bounds written.poolSize (by decide)
  have agentTimeout := natural_bounds written.agentTimeout (by decide)
  constructor
  case positive =>
    simp only [List.forall_mem_cons]
    exact ⟨timeout.1, startHeight.1, tickInterval.1, port.1, poolSize.1, agentTimeout.1, nofun⟩
  case safe =>
    simp only [List.forall_mem_cons]
    exact ⟨timeout.2, retries.2, backoff.2, startHeight.2, tickInterval.2, catchUpDelay.2, port.2,
      poolSize.2, agentTimeout.2, nofun⟩
  case jitter =>
    refine gives_forall (fun jitter => ∃ rational : Rat, jitter = .finite rational ∧ 0 ≤ rational ∧
      rational ≤ 1) written.jitter ⟨mkRat 3602879701896397 18014398509481984, ?_, ?_, ?_⟩ ?_
    · decide +kernel
    · decide +kernel
    · decide +kernel
    · rintro _ _ ⟨rational, least, most, _, rfl⟩
      exact ⟨rational, rfl, least, most⟩
  case schema =>
    refine gives_forall IsName written.schema (isName_iff.mpr (by decide)) ?_
    rintro _ _ ⟨name, rfl⟩
    exact name

end Settings

end RollCall
