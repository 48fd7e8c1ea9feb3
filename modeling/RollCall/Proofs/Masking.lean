import RollCall.Settings

/-!
# What is shown of a password

The line on the settings in force masks the password of the database. It is taken from a variable
of its own or stands in an address, where the mask reaches from the colon behind the user to the
next `@`. So nothing is seen of a password without an `@` behind a plain user; of any other the line
tells what `Located.told` says, and no more.
-/

set_option autoImplicit false

namespace RollCall

namespace Variables

/-- The variables that hold the password. -/
def secrets : List String := ["PG_PASSWORD", "PG_CONNECTION_STRING"]

/-- Variables that read the same but for the password. -/
def AgreeOpenly (left right : Variables) : Prop :=
  ∀ key ∉ secrets, left.value? key = right.value? key

theorem ofForm_congr {α : Type} {left right : Variables} {key : String}
    (agree : left.value? key = right.value? key) (expected : String) (default : α)
    (read : String → Option α) :
    left.ofForm key expected default read = right.ofForm key expected default read := by
  simp only [ofForm, agree]

end Variables

namespace Settings

open Variables (AgreeOpenly secrets)

def withSecrets (settings : Settings) (connection password : Option String) : Settings :=
  { settings with
    database := { settings.database with connection := connection, password := password } }

theorem resolve_of_agreeOpenly {left right : Variables} (agree : AgreeOpenly left right) :
    resolve right =
      (fun settings => settings.withSecrets (right.value? "PG_CONNECTION_STRING")
        (right.value? "PG_PASSWORD")) <$> resolve left := by
  have same (key : String) (plain : key ∉ secrets) := agree key plain
  have natural (key : String) (plain : key ∉ secrets) (default least : Nat) :
      left.natural key default least = right.natural key default least :=
    Variables.ofForm_congr (same key plain) _ _ _
  have flag (key : String) (plain : key ∉ secrets) (default : Bool) :
      left.flag key default = right.flag key default :=
    Variables.ofForm_congr (same key plain) _ _ _
  have address (key : String) (plain : key ∉ secrets) :
      left.address key = right.address key :=
    Variables.ofForm_congr (same key plain) _ _ _
  have ratio : left.ratio "RPC_BACKOFF_JITTER" = right.ratio "RPC_BACKOFF_JITTER" :=
    funext fun _ => Variables.ofForm_congr (same _ (by decide)) _ _ _
  have logLevel : left.logLevel = right.logLevel :=
    Variables.ofForm_congr (same _ (by decide)) _ _ _
  have identifier : left.identifier "PG_SCHEMA" = right.identifier "PG_SCHEMA" :=
    funext fun _ => Variables.ofForm_congr (same _ (by decide)) _ _ _
  simp only [resolve, map_bind, map_pure, ratio, logLevel, identifier,
    address "RPC_URL" (by decide), address "AGENT_URL" (by decide),
    natural "RPC_TIMEOUT_MS" (by decide), natural "RPC_RETRIES" (by decide),
    natural "RPC_BACKOFF_MS" (by decide), natural "START_HEIGHT" (by decide),
    natural "TICK_INTERVAL_MS" (by decide), natural "CATCH_UP_DELAY_MS" (by decide),
    natural "PG_PORT" (by decide), natural "PG_POOL_SIZE" (by decide),
    natural "AGENT_TIMEOUT_MS" (by decide), flag "INCLUDE_FINALIZE_EVENTS" (by decide),
    flag "PG_SSL" (by decide), same "PG_HOST" (by decide), same "PG_USER" (by decide),
    same "PG_DB" (by decide), same "PROGRESS_ID" (by decide), withSecrets]

/-- What a line shows of an address. -/
def shown (connection : String) : String :=
  String.ofList (maskPassword connection.toList)

theorem line_withSecrets_eq_iff (settings : Settings) {left right other another : Option String}
    (addressed : left.isSome = right.isSome) (alike : other.isSome = another.isSome) :
    (settings.withSecrets left other).line = (settings.withSecrets right another).line ↔
      left.map shown = right.map shown := by
  have masks : (other.map fun _ => mask) = another.map fun _ => mask := by
    cases other <;> cases another <;> simp_all
  simp only [line, masked, withSecrets, members, databaseMembers, masks]
  cases left <;> cases right <;> simp_all [optionalMember, shown]

/-!
## What is shown of an address
-/

/-- What has no slash is no place for the mask to begin. -/
theorem maskPassword_append {front : List Char} (plain : '/' ∉ front) (back : List Char) :
    maskPassword (front ++ back) = front ++ maskPassword back := by
  induction front with
  | nil => rfl
  | cons char rest ih =>
      have notSlash : char ≠ '/' := fun same => plain (by simp [same])
      rw [List.cons_append, maskPassword, ih fun slash => plain (List.mem_cons_of_mem _ slash)]
      · rfl
      · intro others same
        exact absurd same notSlash

theorem maskPassword_append_cons {front : List Char} (plain : '/' ∉ front) (next : Char)
    (other : next ≠ '/') (back : List Char) :
    maskPassword (front ++ next :: back) = front ++ next :: maskPassword back := by
  have noSlash : '/' ∉ front ++ [next] := by simp [plain, other.symm]
  simpa using maskPassword_append noSlash back

/-- Whether a character may stand in a user that the mask knows. -/
def isPlain (char : Char) : Bool :=
  !":/@".toList.contains char

/-- The mask looks behind the plain characters that follow two slashes. -/
theorem maskPassword_slashes {user : List Char} (plain : user.all isPlain) (next : Char)
    (marks : isPlain next = false) (rest : List Char) :
    maskPassword ('/' :: '/' :: (user ++ next :: rest)) =
      match next :: rest with
      | ':' :: secret =>
          match secret.dropWhile (· ≠ '@') with
          | '@' :: location =>
              if user.isEmpty then '/' :: maskPassword ('/' :: (user ++ next :: rest))
              else '/' :: '/' :: user ++ ':' :: mask.toList ++ '@' :: location
          | _ => '/' :: maskPassword ('/' :: (user ++ next :: rest))
      | _ => '/' :: maskPassword ('/' :: (user ++ next :: rest)) := by
  have taken : (user ++ next :: rest).takeWhile isPlain = user := by
    rw [List.takeWhile_append_of_pos (List.all_eq_true.1 plain), List.takeWhile_cons_of_neg,
      List.append_nil]
    simp [marks]
  have unfolded := maskPassword.eq_1 (user ++ next :: rest)
  rw [show (fun char => !":/@".toList.contains char) = isPlain from rfl, taken,
    List.drop_left] at unfolded
  exact unfolded

theorem maskPassword_slash {text : List Char} (other : text.head? ≠ some '/') :
    maskPassword ('/' :: text) = '/' :: maskPassword text := by
  rw [maskPassword]
  intro rest _ slash
  simp [slash] at other

theorem maskPassword_nameless (rest : List Char) :
    maskPassword ('/' :: '/' :: ':' :: rest) = '/' :: '/' :: ':' :: maskPassword rest := by
  have passed : maskPassword ('/' :: ':' :: rest) = '/' :: ':' :: maskPassword rest := by
    rw [maskPassword_slash (by simp)]
    exact congrArg _ (maskPassword_append_cons List.not_mem_nil ':' (by decide) rest)
  have found := maskPassword_slashes (List.all_nil : [].all isPlain) ':' rfl rest
  simp only [List.nil_append, List.isEmpty_nil, if_true, passed] at found
  split at found <;> exact found

theorem maskPassword_at {front : List Char} (plain : front.all isPlain) (rest : List Char) :
    maskPassword ('/' :: '/' :: (front ++ '@' :: rest)) =
      '/' :: '/' :: (front ++ '@' :: maskPassword rest) := by
  have noSlash : '/' ∉ front := by
    have := List.all_eq_true.1 plain '/'
    simp_all [isPlain]
  have other : (front ++ '@' :: rest).head? ≠ some '/' := by
    cases front with
    | nil => simp
    | cons char others =>
        intro slash
        exact noSlash (by simp_all)
  have found := maskPassword_slashes plain '@' rfl rest
  rwa [maskPassword_slash other, maskPassword_append_cons noSlash '@' (by decide)] at found

theorem dropWhile_before {secret : List Char} (plain : '@' ∉ secret) (rest : List Char) :
    (secret ++ rest).dropWhile (· ≠ '@') = rest.dropWhile (· ≠ '@') := by
  apply List.dropWhile_append_of_pos
  intro char mem
  have : char ≠ '@' := fun same => plain (same ▸ mem)
  simpa using this

theorem maskPassword_user {user secret : List Char} (plain : user.all isPlain) (named : user ≠ [])
    (ends : '@' ∉ secret) (location : List Char) :
    maskPassword ('/' :: '/' :: (user ++ ':' :: (secret ++ '@' :: location))) =
      '/' :: '/' :: (user ++ ':' :: (mask.toList ++ '@' :: location)) := by
  have left : (secret ++ '@' :: location).dropWhile (· ≠ '@') = '@' :: location := by
    rw [dropWhile_before ends]
    simp
  rw [maskPassword_slashes plain ':' rfl]
  simp only [left]
  simp [named]

/-- Where a database is and for whom, as an address says it, but for the password. -/
structure Located where
  scheme : List Char
  user : List Char
  place : List Char
  scheme_plain : '/' ∉ scheme
  user_plain : '/' ∉ user ∧ ':' ∉ user

namespace Located

/-- The address with a password. -/
def address (located : Located) (password : List Char) : List Char :=
  located.scheme ++ ':' :: '/' :: '/' :: (located.user ++ ':' :: (password ++ '@' :: located.place))

/-- What the masked address tells of a password: all of it where no user stands in front or one
with an `@`, and else what follows from the first `@` of it. -/
def told (located : Located) (password : List Char) : List Char :=
  if located.user = [] ∨ '@' ∈ located.user then password else password.dropWhile (· ≠ '@')

/-- No more of a password is in the masked address than what is told of it. -/
theorem maskPassword_address (located : Located) :
    ∃ front back : List Char, ∀ password, '/' ∉ password →
      maskPassword (located.address password) = front ++ (located.told password ++ back) := by
  have scheme (rest : List Char) := maskPassword_append_cons located.scheme_plain
    ':' (by decide) ('/' :: '/' :: rest)
  have userPlain := located.user_plain
  simp only [address, told, scheme]
  generalize located.user = user at userPlain
  by_cases nameless : user = []
  · subst nameless
    refine ⟨located.scheme ++ "://:".toList, '@' :: maskPassword located.place,
      fun password plain => ?_⟩
    rw [List.nil_append, maskPassword_nameless, maskPassword_append_cons plain '@' (by decide)]
    simp
  by_cases within : '@' ∈ user
  · obtain ⟨front, rest, rfl, first⟩ := List.eq_append_cons_of_mem within
    have frontPlain : front.all isPlain := by
      simp_all [isPlain]
      grind
    refine ⟨located.scheme ++ "://".toList ++ front ++ '@' :: rest ++ [':'],
      '@' :: maskPassword located.place, fun password plain => ?_⟩
    have behind : '/' ∉ rest ++ ':' :: password := by simp_all
    have kept := maskPassword_append_cons behind '@' (by decide) located.place
    rw [List.append_assoc, List.cons_append, maskPassword_at frontPlain]
    simp_all
  · have plainUser : user.all isPlain := by
      simp_all [isPlain]
      grind
    refine ⟨located.scheme ++ "://".toList ++ user ++ ":***".toList, '@' :: located.place,
      fun password plain => ?_⟩
    -- The masked password ends at the first `@`, be it in the password or behind it.
    by_cases cut : '@' ∈ password
    · obtain ⟨secret, more, rfl, ends⟩ := List.eq_append_cons_of_mem cut
      have masked := maskPassword_user plainUser nameless ends (more ++ '@' :: located.place)
      rw [List.append_assoc, List.cons_append, masked, dropWhile_before ends]
      simp [nameless, within, mask]
    · have none := dropWhile_before cut []
      rw [maskPassword_user plainUser nameless cut]
      simp_all [mask]

theorem shown_address_eq_iff (located : Located) {password another : List Char}
    (plain : '/' ∉ password) (alsoPlain : '/' ∉ another) :
    shown (String.ofList (located.address password)) =
        shown (String.ofList (located.address another)) ↔
      located.told password = located.told another := by
  obtain ⟨front, back, masks⟩ := located.maskPassword_address
  rw [shown, shown, String.toList_ofList, String.toList_ofList, masks password plain,
    masks another alsoPlain, String.ofList_inj, List.append_cancel_left_eq,
    List.append_cancel_right_eq]

end Located

/-!
## What the line tells
-/

theorem eq_withSecrets {environment : Variables} {settings : Settings}
    (resolved : resolve environment = .ok settings) :
    settings = settings.withSecrets (environment.value? "PG_CONNECTION_STRING")
      (environment.value? "PG_PASSWORD") := by
  have same := resolve_of_agreeOpenly (fun _ _ => rfl : AgreeOpenly environment environment)
  rw [resolved] at same
  exact Except.ok.inj same

theorem eq_withSecrets_of_agreeOpenly {left right : Variables} {settings others : Settings}
    (agree : AgreeOpenly left right) (resolved : resolve left = .ok settings)
    (alsoResolved : resolve right = .ok others) :
    others = settings.withSecrets (right.value? "PG_CONNECTION_STRING")
      (right.value? "PG_PASSWORD") := by
  have same := resolve_of_agreeOpenly agree
  rw [resolved, alsoResolved] at same
  exact Except.ok.inj same

theorem line_eq_iff_shown_eq {left right : Variables} {settings others : Settings}
    (agree : AgreeOpenly left right) (resolved : resolve left = .ok settings)
    (alsoResolved : resolve right = .ok others)
    (alike : (left.value? "PG_PASSWORD").isSome = (right.value? "PG_PASSWORD").isSome)
    (addressed : (left.value? "PG_CONNECTION_STRING").isSome =
      (right.value? "PG_CONNECTION_STRING").isSome) :
    settings.line = others.line ↔
      (left.value? "PG_CONNECTION_STRING").map shown =
        (right.value? "PG_CONNECTION_STRING").map shown := by
  have lines := line_withSecrets_eq_iff settings addressed alike
  rwa [← eq_withSecrets resolved, ← eq_withSecrets_of_agreeOpenly agree resolved alsoResolved]
    at lines

/-- Of variables that differ in the password alone, the lines on the settings are the same, unless
the passwords stand in the address; and then they are the same just if they tell the same. -/
theorem line_eq_iff_told_eq {left right : Variables} {settings others : Settings}
    (agree : AgreeOpenly left right) (resolved : resolve left = .ok settings)
    (alsoResolved : resolve right = .ok others)
    (alike : (left.value? "PG_PASSWORD").isSome = (right.value? "PG_PASSWORD").isSome) :
    (left.value? "PG_CONNECTION_STRING" = right.value? "PG_CONNECTION_STRING" →
      settings.line = others.line) ∧
    ∀ (located : Located) (password another : List Char), '/' ∉ password → '/' ∉ another →
      left.value? "PG_CONNECTION_STRING" = some (String.ofList (located.address password)) →
      right.value? "PG_CONNECTION_STRING" = some (String.ofList (located.address another)) →
      (settings.line = others.line ↔ located.told password = located.told another) := by
  have lines := line_eq_iff_shown_eq agree resolved alsoResolved alike
  constructor
  · intro same
    rw [lines (by rw [same]), same]
  · intro located password another plain alsoPlain addressed alsoAddressed
    rw [lines (by rw [addressed, alsoAddressed]; rfl), addressed, alsoAddressed, Option.map_some,
      Option.map_some, Option.some_inj]
    exact located.shown_address_eq_iff plain alsoPlain

def secretly (password connection : String) : Variables :=
  [("PG_PASSWORD", password), ("PG_CONNECTION_STRING", connection)]

theorem agreeOpenly_secretly (password connection another other : String) :
    AgreeOpenly (secretly password connection) (secretly another other) := by
  intro key openly
  simp only [secrets, List.mem_cons, List.not_mem_nil, or_false, not_or] at openly
  simp [Variables.value?, secretly, List.lookup_cons, beq_eq_false_iff_ne.2 openly.1,
    beq_eq_false_iff_ne.2 openly.2]

def hac : Located where
  scheme := "postgres".toList
  user := "hac".toList
  place := "db/hac".toList
  scheme_plain := by decide
  user_plain := by decide

/-- Of `p@ss` the line tells that it ends in `@ss`. -/
theorem line_eq_iff_told_eq_hac :
    ∃ settings similar others,
      resolve (secretly "one" "postgres://hac:p@ss@db/hac") = .ok settings ∧
      resolve (secretly "two" "postgres://hac:pa:@ss@db/hac") = .ok similar ∧
      resolve (secretly "two" "postgres://hac:pass@db/hac") = .ok others ∧
      settings.line = similar.line ∧ settings.line ≠ others.line := by
  refine ⟨_, _, _, rfl, rfl, rfl, ?_, ?_⟩
  · rw [(line_eq_iff_told_eq (agreeOpenly_secretly _ _ _ _) rfl rfl (by decide)).2 hac
      "p@ss".toList "pa:@ss".toList (by decide) (by decide) (by decide) (by decide)]
    decide
  · rw [Ne, (line_eq_iff_told_eq (agreeOpenly_secretly _ _ _ _) rfl rfl (by decide)).2 hac
      "p@ss".toList "pass".toList (by decide) (by decide) (by decide) (by decide)]
    decide

def nameless : Located where
  scheme := "postgres".toList
  user := []
  place := "db/hac".toList
  scheme_plain := by decide
  user_plain := by decide

/-- The mask misses a password that no user stands before. -/
theorem not_line_eq_of_agreeOpenly :
    AgreeOpenly (secretly "one" "postgres://:secret@db/hac")
      (secretly "one" "postgres://:hidden@db/hac") ∧
    ∃ settings others,
      resolve (secretly "one" "postgres://:secret@db/hac") = .ok settings ∧
      resolve (secretly "one" "postgres://:hidden@db/hac") = .ok others ∧
      settings.line ≠ others.line := by
  have agree := agreeOpenly_secretly "one" "postgres://:secret@db/hac" "one"
    "postgres://:hidden@db/hac"
  obtain ⟨settings, resolved⟩ :
      ∃ settings, resolve (secretly "one" "postgres://:secret@db/hac") = .ok settings := ⟨_, rfl⟩
  obtain ⟨others, alsoResolved⟩ :
      ∃ others, resolve (secretly "one" "postgres://:hidden@db/hac") = .ok others := ⟨_, rfl⟩
  refine ⟨agree, settings, others, resolved, alsoResolved, fun same => ?_⟩
  have shownAlike := (line_eq_iff_shown_eq agree resolved alsoResolved rfl (by decide)).1 same
  have toldAlike := (nameless.shown_address_eq_iff (by decide : '/' ∉ "secret".toList)
    (by decide : '/' ∉ "hidden".toList)).1 (Option.some.inj shownAlike)
  exact absurd toldAlike (by decide)

end Settings

end RollCall
