import Mathlib.Logic.Relation
import RollCall.Chain.Simulated
import RollCall.Proofs.Interactions

/-!
# One client at a time

The connection makes clients and closes them. Whatever order its calls come in, overlapping or one
inside another, and however clients turn healthy or unhealthy meanwhile, there is one client that is
not closed at most, every other one was closed once, and no call begins with a client that was
closed. To say so, clients are counted when they are made and each time that they are closed; that
the counts make no difference is proved at the end.
-/

set_option autoImplicit false

namespace RollCall.Chain

open Call

/-!
## What the calls of a connection come to
-/

namespace Connection

variable {ν χ : Type} {provider : Provider ν χ} {connection final : Connection ν χ} {trace : Trace}

/-- Whether the client in use does not let itself be closed and there are no words for why. -/
def IsMute (provider : Provider ν χ) (connection : Connection ν χ) : Prop :=
  ∃ client, connection.client? = some client ∧ ¬ IsTold (provider.close client).result

/-- Whether there are no words for why the client in use does not let itself be closed, or for why
there is no new one. -/
def IsSilenced (provider : Provider ν χ) (connection : Connection ν χ) : Prop :=
  connection.IsMute provider ∨ ¬ IsTold (provider.connect connection.node).result

/-- The connection after its client was to be given up: a mute one stays in use. -/
def tornDown (provider : Provider ν χ) (connection : Connection ν χ) : Connection ν χ :=
  match connection.current with
  | none => connection
  | some place =>
      match connection.clients[place]? with
      | none => { connection with current := none }
      | some client =>
          let closed := provider.close client
          { connection.withClient place closed.state with
            current := if IsTold closed.result then none else some place }

theorem isMute_iff {place : Nat} {client : χ} (current : connection.current = some place)
    (found : connection.clients[place]? = some client) :
    connection.IsMute provider ↔ ¬ IsTold (provider.close client).result := by
  simp [IsMute, client?, current, found]

theorem not_isMute_of_none (idle : connection.current = none) : ¬ connection.IsMute provider := by
  rintro ⟨_, present, -⟩
  rw [client?, idle] at present
  cases present

theorem not_isMute_of_missing {place : Nat} (current : connection.current = some place)
    (missing : connection.clients[place]? = none) : ¬ connection.IsMute provider := by
  rintro ⟨_, present, -⟩
  rw [client?, current] at present
  exact nomatch missing.symm.trans present

theorem tornDown_of_none (idle : connection.current = none) :
    connection.tornDown provider = connection := by
  unfold tornDown
  rw [idle]

theorem tornDown_of_missing {place : Nat} (current : connection.current = some place)
    (missing : connection.clients[place]? = none) :
    connection.tornDown provider = { connection with current := none } := by
  unfold tornDown
  rw [current]
  simp only [missing]

theorem tornDown_of_found {place : Nat} {client : χ} (current : connection.current = some place)
    (found : connection.clients[place]? = some client) :
    connection.tornDown provider =
      { connection.withClient place (provider.close client).state with
        current := if IsTold (provider.close client).result then none else some place } := by
  unfold tornDown
  rw [current]
  simp only [found]

/-- Giving up ends without a word only if the client is mute. -/
theorem teardown_ends {result : Except Fault Unit}
    (ending : (teardown provider).Ends connection result trace final) :
    final = connection.tornDown provider ∧
      ((¬ connection.IsMute provider ∧ result = .ok ()) ∨
        connection.IsMute provider ∧ result = .error .wordless) := by
  have started := ends_read_bind.mp ending
  cases current : connection.current with
  | none =>
      rw [current] at started
      obtain ⟨rfl, -, rfl⟩ := ends_pure.mp started
      exact ⟨(tornDown_of_none current).symm, .inl ⟨not_isMute_of_none current, rfl⟩⟩
  | some place =>
      rw [current] at started
      obtain ⟨inner, middle, _, _, closing, rest, -⟩ := ends_attempt_bind.mp started
      have given : (IsTold inner ∧ result = .ok () ∧ final = { middle with current := none }) ∨
          ¬ IsTold inner ∧ result = .error .wordless ∧ final = middle := by
        cases inner with
        | ok _ =>
            obtain ⟨rfl, -, rfl⟩ := ends_modify.mp rest
            exact .inl ⟨trivial, rfl, rfl⟩
        | error fault =>
            obtain ⟨silent, rfl, -, rfl⟩ | ⟨words, worded, more⟩ := ends_message_bind.mp rest
            · exact .inr ⟨fun told => told silent, rfl, rfl⟩
            · obtain ⟨_, changed, -⟩ := ends_log_bind.mp more
              obtain ⟨rfl, -, rfl⟩ := ends_modify.mp changed
              exact .inl ⟨isTold_error_iff.mpr ⟨words, worded⟩, rfl, rfl⟩
      obtain ⟨missing, refused, -, rfl⟩ | ⟨client, done, found, closed, rfl⟩ :=
        byClient_ends closing
      · have speaks : IsTold inner := by
          rw [refused]
          exact nofun
        obtain ⟨-, rfl, rfl⟩ | ⟨silent, -⟩ := given
        · rw [tornDown_of_missing current missing]
          exact ⟨rfl, .inl ⟨not_isMute_of_missing current missing, rfl⟩⟩
        · exact absurd speaks silent
      · obtain ⟨state, ended, rfl⟩ := ends_inside.mp closed
        have mute : connection.IsMute provider ↔ _ := isMute_iff current found
        rw [ended.result_eq] at mute
        rw [tornDown_of_found current found, ended.state_eq, ended.result_eq]
        obtain ⟨told, rfl, rfl⟩ | ⟨silent, rfl, rfl⟩ := given
        · rw [if_pos told]
          exact ⟨rfl, .inl ⟨fun stuck => mute.mp stuck told, rfl⟩⟩
        · rw [if_neg silent, ← current]
          exact ⟨rfl, .inr ⟨mute.mpr silent, rfl⟩⟩

@[simp] theorem tornDown_node : (connection.tornDown provider).node = connection.node := by
  unfold tornDown
  split
  · rfl
  · split <;> rfl

theorem tornDown_current (speaks : ¬ connection.IsMute provider) :
    (connection.tornDown provider).current = none := by
  cases current : connection.current with
  | none => rw [tornDown_of_none current, current]
  | some place =>
      cases found : connection.clients[place]? with
      | none => rw [tornDown_of_missing current found]
      | some client =>
          have told := not_not.mp ((isMute_iff current found).not.mp speaks)
          rw [tornDown_of_found current found, if_pos told]

@[simp] theorem tornDown_clients_length :
    (connection.tornDown provider).clients.length = connection.clients.length := by
  unfold tornDown
  split
  · rfl
  · split
    · rfl
    · simp [withClient]

/-- The connection with one client more, which is in use. -/
def joined (connection : Connection ν χ) (node : ν) (client : χ) : Connection ν χ where
  node := node
  clients := connection.clients ++ [client]
  current := some connection.clients.length

/-- How making sure of a client ends. A healthy client stays in use, and any other is given up before
a new one is made; of what there are no words for, it does not come to a result. -/
inductive Ensured (provider : Provider ν χ) (connection : Connection ν χ) :
    Except Fault Bool → Connection ν χ → Prop
  | kept (healthy : connection.isHealthy provider) :
      Ensured provider connection (.ok true) connection
  | stuck (unhealthy : ¬ connection.isHealthy provider) (mute : connection.IsMute provider) :
      Ensured provider connection (.error .wordless) (connection.tornDown provider)
  | made {client : χ} {node : ν} {trace : Trace} (unhealthy : ¬ connection.isHealthy provider)
      (speaks : ¬ connection.IsMute provider)
      (connected : provider.connect.Ends connection.node (.ok client) trace node) :
      Ensured provider connection (.ok true) ((connection.tornDown provider).joined node client)
  | unmade {fault : Fault} {result : Except Fault Bool} {node : ν} {trace : Trace}
      (unhealthy : ¬ connection.isHealthy provider) (speaks : ¬ connection.IsMute provider)
      (failed : provider.connect.Ends connection.node (.error fault) trace node)
      (said : result = if fault.words? = none then .error .wordless else .ok false) :
      Ensured provider connection result { connection.tornDown provider with node }

theorem ensure_ends {result : Except Fault Bool}
    (ending : (ensure provider).Ends connection result trace final) :
    Ensured provider connection result final := by
  have started := ends_read_bind.mp ending
  split at started
  · next healthy =>
    obtain ⟨rfl, -, rfl⟩ := ends_pure.mp started
    exact .kept healthy
  · next unhealthy =>
    obtain ⟨_, rfl, failed⟩ | ⟨_, down, _, _, givenUp, afterwards, -⟩ := ends_bind.mp started
    · obtain ⟨rfl, ⟨-, impossible⟩ | ⟨mute, same⟩⟩ := teardown_ends failed
      · cases impossible
      · cases same
        exact .stuck unhealthy mute
    obtain ⟨rfl, ⟨speaks, -⟩ | ⟨-, impossible⟩⟩ := teardown_ends givenUp
    swap
    · cases impossible
    obtain ⟨made, middle, _, _, connecting, rest, -⟩ := ends_attempt_bind.mp afterwards
    obtain ⟨node, connected, rfl⟩ := ends_inside.mp connecting
    rw [tornDown_node] at connected
    cases made with
    | ok client =>
        have counted := ends_read_bind.mp (ends_modify_bind.mp rest)
        have given : result = .ok true ∧
            final = (connection.tornDown provider).joined node client := by
          dsimp only at counted
          split at counted
          · obtain ⟨_, returned, -⟩ := ends_log_bind.mp counted
            obtain ⟨rfl, -, rfl⟩ := ends_pure.mp returned
            exact ⟨rfl, rfl⟩
          · obtain ⟨rfl, -, rfl⟩ := ends_pure.mp counted
            exact ⟨rfl, rfl⟩
        obtain ⟨rfl, rfl⟩ := given
        exact .made unhealthy speaks connected
    | error fault =>
        obtain ⟨silent, rfl, -, rfl⟩ | ⟨words, worded, more⟩ := ends_message_bind.mp rest
        · exact .unmade unhealthy speaks connected (by rw [if_pos silent])
        · obtain ⟨_, returned, -⟩ := ends_log_bind.mp more
          obtain ⟨rfl, -, rfl⟩ := ends_pure.mp returned
          exact .unmade unhealthy speaks connected (by simp [worded])

theorem Ensured.silenced {fault : Fault}
    (ensured : Ensured provider connection (.error fault) final) :
    fault = .wordless ∧ connection.IsSilenced provider := by
  generalize failed : Except.error _ = result at ensured
  cases ensured with
  | kept => cases failed
  | stuck _ mute =>
      cases failed
      exact ⟨rfl, .inl mute⟩
  | made => cases failed
  | unmade _ _ refused said =>
      rw [← failed] at said
      split at said
      · next silent =>
        cases said
        refine ⟨rfl, .inr ?_⟩
        rw [refused.result_eq]
        exact fun told => told silent
      · cases said

/-- How a call begins: with the client that is in use after it was made sure of one. -/
inductive Begun (provider : Provider ν χ) (connection final : Connection ν χ) :
    Except Fault Nat → Prop
  | bound {place : Nat} {present : Bool} (ensured : Ensured provider connection (.ok present) final)
      (current : final.current = some place) : Begun provider connection final (.ok place)
  | unavailable {present : Bool} (ensured : Ensured provider connection (.ok present) final)
      (idle : final.current = none) :
      Begun provider connection final (.error Connection.unavailable)
  | broken {fault : Fault} (ensured : Ensured provider connection (.error fault) final) :
      Begun provider connection final (.error fault)

theorem begin_ends {result : Except Fault Nat}
    (ending : (begin provider).Ends connection result trace final) :
    Begun provider connection final result := by
  obtain ⟨_, rfl, failed⟩ | ⟨present, middle, _, _, ensured, rest, -⟩ := ends_bind.mp ending
  · exact .broken (ensure_ends failed)
  have looked := ends_read_bind.mp rest
  cases current : middle.current with
  | none =>
      rw [current] at looked
      obtain ⟨rfl, -, rfl⟩ := ends_fail.mp looked
      exact .unavailable (ensure_ends ensured) current
  | some place =>
      rw [current] at looked
      obtain ⟨rfl, -, rfl⟩ := ends_pure.mp looked
      exact .bound (ensure_ends ensured) current

/-- The fault of a call of the client at a place is a reason to give the client up. -/
def GivesUp {α : Type} (provider : Provider ν χ) (connection : Connection ν χ) (place : Nat)
    (result : Except Fault α) : Prop :=
  ∃ fault, result = .error fault ∧
    (fault.isTransport ∨ ¬ connection.isHealthyAt provider place)

/-- How a call of the client at a place ends. The client is given up if there is a reason to and it
is still in use, provided that there are words for the reason. -/
inductive Finished {α : Type} (provider : Provider ν χ) (connection : Connection ν χ) (place : Nat)
    (outcome : Except Fault α) : Except Fault α → Connection ν χ → Prop
  | stayed (stays : ¬ GivesUp provider connection place outcome) :
      Finished provider connection place outcome outcome connection
  | unsaid (reason : GivesUp provider connection place outcome) (silent : ¬ IsTold outcome) :
      Finished provider connection place outcome (.error .wordless) connection
  | elsewhere (reason : GivesUp provider connection place outcome) (told : IsTold outcome)
      (other : connection.current ≠ some place) :
      Finished provider connection place outcome outcome connection
  | down (reason : GivesUp provider connection place outcome) (told : IsTold outcome)
      (current : connection.current = some place) (speaks : ¬ connection.IsMute provider) :
      Finished provider connection place outcome outcome (connection.tornDown provider)
  | stuck (reason : GivesUp provider connection place outcome) (told : IsTold outcome)
      (current : connection.current = some place) (mute : connection.IsMute provider) :
      Finished provider connection place outcome (.error .wordless) (connection.tornDown provider)

theorem finish_ends {α : Type} {place : Nat} {outcome result : Except Fault α}
    (ending : (finish provider place outcome).Ends connection result trace final) :
    Finished provider connection place outcome result final := by
  cases outcome with
  | ok value =>
      obtain ⟨rfl, -, rfl⟩ := ends_pure.mp ending
      refine .stayed ?_
      rintro ⟨_, impossible, -⟩
      cases impossible
  | error fault =>
      have started := ends_read_bind.mp ending
      dsimp only at started
      split at started
      · next failing =>
        have reason : GivesUp provider connection place (.error fault : Except Fault α) :=
          ⟨fault, rfl, by simpa using failing⟩
        obtain ⟨silent, rfl, -, rfl⟩ | ⟨words, worded, more⟩ := ends_message_bind.mp started
        · exact .unsaid reason fun told => told silent
        have told : IsTold (.error fault : Except Fault α) := isTold_error_iff.mpr ⟨words, worded⟩
        obtain ⟨_, logged, -⟩ := ends_log_bind.mp more
        split at logged
        · next bound =>
          have current := beq_iff_eq.mp bound
          obtain ⟨_, rfl, failed⟩ | ⟨_, _, _, _, givenUp, rest, -⟩ := ends_bind.mp logged
          · obtain ⟨rfl, ⟨-, impossible⟩ | ⟨mute, same⟩⟩ := teardown_ends failed
            · cases impossible
            · cases same
              exact .stuck reason told current mute
          obtain ⟨rfl, ⟨speaks, -⟩ | ⟨-, impossible⟩⟩ := teardown_ends givenUp
          · obtain ⟨rfl, -, rfl⟩ := ends_fail.mp rest
            exact .down reason told current speaks
          · cases impossible
        · next other =>
          obtain ⟨rfl, -, rfl⟩ := ends_fail.mp logged
          exact .elsewhere reason told fun current => other (beq_iff_eq.mpr current)
      · next other =>
        obtain ⟨rfl, -, rfl⟩ := ends_fail.mp started
        refine .stayed ?_
        rintro ⟨_, same, reason⟩
        cases same
        exact other (by simpa using reason)

theorem Finished.result_eq {α : Type} {place : Nat} {outcome result : Except Fault α}
    (finished : Finished provider connection place outcome result final) :
    result = outcome ∨ result = .error .wordless := by
  cases finished with
  | stayed => exact .inl rfl
  | unsaid => exact .inr rfl
  | elsewhere => exact .inl rfl
  | down => exact .inl rfl
  | stuck => exact .inr rfl

end Connection

/-!
## Counting
-/

/-- A node, and how many clients were made of it. -/
structure Tally (ν : Type) where
  node : ν
  built : Nat := 0

/-- A client, how often it was closed, and how often there were no words for why it did not let
itself be closed. -/
structure Tallied (χ : Type) where
  client : χ
  closings : Nat := 0
  muted : Nat := 0

def Tallied.counting {χ : Type} (tallied : Tallied χ) (silent : Bool) : Tallied χ :=
  { tallied with
    closings := tallied.closings + 1
    muted := tallied.muted + silent.toNat }

/-- The provider that counts. A client that does not let itself be closed counts as closed, too:
what is counted are the attempts. -/
def Provider.tallied {ν χ : Type} (provider : Provider ν χ) : Provider (Tally ν) (Tallied χ) where
  connect := do
    let client ← provider.connect.inside Tally.node fun node state => { state with node }
    Call.modify fun state => { state with built := state.built + 1 }
    return { client }
  isHealthy tallied := provider.isHealthy tallied.client
  close := do
    let close := provider.close.inside Tallied.client fun client state => { state with client }
    let closed ← close.attempt
    Call.modify (·.counting !decide (IsTold closed))
    Call.ofExcept closed
  ask question :=
    (provider.ask question).inside (fun state => (state.1.node, state.2.client))
      fun part state => ({ state.1 with node := part.1 }, { state.2 with client := part.2 })

section Counting

variable {ν χ : Type} {provider : Provider ν χ} {tally final : Tally ν} {trace : Trace}

theorem tallied_connect_ok {made : Tallied χ}
    (ending : provider.tallied.connect.Ends tally (.ok made) trace final) :
    (made.closings = 0 ∧ made.muted = 0) ∧ final.built = tally.built + 1 := by
  obtain ⟨_, impossible, -⟩ | ⟨_, _, _, _, connected, rest, -⟩ := ends_bind.mp ending
  · cases impossible
  obtain ⟨_, -, rfl⟩ := ends_inside.mp connected
  have counted := ends_modify_bind.mp rest
  obtain ⟨same, -, rfl⟩ := ends_pure.mp counted
  cases same
  exact ⟨⟨rfl, rfl⟩, rfl⟩

theorem tallied_connect_error {fault : Fault}
    (ending : provider.tallied.connect.Ends tally (.error fault) trace final) :
    final.built = tally.built := by
  obtain ⟨_, same, failed⟩ | ⟨_, _, _, _, -, rest, -⟩ := ends_bind.mp ending
  · cases same
    obtain ⟨_, -, rfl⟩ := ends_inside.mp failed
    rfl
  · have counted := ends_modify_bind.mp rest
    cases (ends_pure.mp counted).1

theorem isTold_tallied_connect (provider : Provider ν χ) (tally : Tally ν) :
    IsTold (provider.tallied.connect tally).result ↔ IsTold (provider.connect tally.node).result := by
  rcases ended : provider.connect tally.node with ⟨_ | _, node, trace, interrupted⟩ <;>
    simp [Provider.tallied, Bind.bind, andThen, Call.inside, Call.modify, Pure.pure, done, ended,
      IsTold]

theorem tallied_close (provider : Provider ν χ) (tallied : Tallied χ) :
    (provider.tallied.close tallied).result = (provider.close tallied.client).result ∧
      (provider.tallied.close tallied).state =
        Tallied.counting { tallied with client := (provider.close tallied.client).state }
          !decide (IsTold (provider.close tallied.client).result) :=
  ⟨rfl, rfl⟩

end Counting

/-!
## What every step keeps
-/

namespace Connection

/-- Everything was closed once but the client in use, and all that was ever made is counted. Closing
a client goes for nothing where there are no words for why it did not let itself be closed. -/
structure Sound {ν χ : Type} (provider : Provider ν χ)
    (connection : Connection (Tally ν) (Tallied χ)) : Prop where
  present : ∀ place, connection.current = some place → place < connection.clients.length
  closings : ∀ (place : Nat) (client : Tallied χ), connection.clients[place]? = some client →
    client.closings = client.muted + if connection.current = some place then 0 else 1
  muted : ∀ client ∈ connection.clients, 0 < client.muted →
    ∃ closed, ¬ IsTold (provider.close closed).result
  built : connection.node.built = connection.clients.length

namespace Sound

variable {ν χ : Type} {provider : Provider ν χ} {connection final : Connection (Tally ν) (Tallied χ)}
  {trace : Trace}

theorem fresh (node : ν) :
    Sound provider ({ node := { node } } : Connection (Tally ν) (Tallied χ)) where
  present := nofun
  closings := nofun
  muted := nofun
  built := rfl

theorem unclosed (sound : connection.Sound provider) {place : Nat}
    (current : connection.current = some place) :
    ∃ client : Tallied χ, connection.clients[place]? = some client ∧
      client.closings = client.muted := by
  have found := List.getElem?_eq_getElem (sound.present place current)
  refine ⟨_, found, ?_⟩
  rw [sound.closings place _ found, if_pos current]
  rfl

/-- Giving up closes the client in use, and nothing else happens. -/
theorem tornDown_eq (sound : connection.Sound provider) {place : Nat}
    (current : connection.current = some place) :
    ∃ client : Tallied χ,
      (0 < client.muted → ∃ closed, ¬ IsTold (provider.close closed).result) ∧
      ((¬ connection.IsMute provider.tallied ∧ client.closings = client.muted + 1 ∧
          connection.tornDown provider.tallied =
            { connection.withClient place client with current := none }) ∨
        connection.IsMute provider.tallied ∧ client.closings = client.muted ∧ 0 < client.muted ∧
          connection.tornDown provider.tallied = connection.withClient place client) := by
  obtain ⟨client, found, unclosed⟩ := sound.unclosed current
  have mute : connection.IsMute provider.tallied ↔ _ := isMute_iff current found
  obtain ⟨closed, counted⟩ := tallied_close provider client
  refine ⟨(provider.tallied.close client).state, ?_, ?_⟩ <;> rw [counted]
  · by_cases told : IsTold (provider.close client.client).result
    · intro some
      have before : 0 < client.muted := by simpa [Tallied.counting, told] using some
      exact sound.muted client (List.mem_of_getElem? found) before
    · exact fun _ => ⟨_, told⟩
  · rw [tornDown_of_found current found, mute, counted, closed]
    by_cases told : IsTold (provider.close client.client).result
    · exact .inl ⟨not_not.mpr told, by simp [Tallied.counting, told, unclosed], by rw [if_pos told]⟩
    · refine .inr ⟨told, by simp [Tallied.counting, told, unclosed], ?_, ?_⟩
      · simp [Tallied.counting, told]
      · rw [if_neg told, ← current]
        rfl

/-- A client may be changed and given up or not, if it was closed as often as it should be. -/
theorem changed (sound : connection.Sound provider) {place : Nat} {client : Tallied χ}
    {current : Option Nat} (stays : ∀ other, current = some other → connection.current = some other)
    (apart : ∀ other, place ≠ other → connection.current = some other → current = some other)
    (closings : client.closings = client.muted + if current = some place then 0 else 1)
    (muted : 0 < client.muted → ∃ closed, ¬ IsTold (provider.close closed).result) :
    Sound provider { connection.withClient place client with current } where
  present other same := by
    simpa [Connection.withClient] using sound.present other (stays other same)
  closings other tallied found := by
    simp only [Connection.withClient, List.getElem?_set] at found
    split at found
    · next same =>
      subst same
      split at found
      · cases found
        exact closings
      · cases found
    · next other =>
      rw [sound.closings _ tallied found]
      simp only [Iff.intro (apart _ other) (stays _)]
  muted tallied member := by
    obtain kept | rfl := List.mem_or_eq_of_mem_set member
    · exact sound.muted tallied kept
    · exact muted
  built := by simpa [Connection.withClient] using sound.built

theorem tornDown (sound : connection.Sound provider) :
    (connection.tornDown provider.tallied).Sound provider := by
  cases current : connection.current with
  | none => rwa [tornDown_of_none current]
  | some place =>
      obtain ⟨client, muted, ⟨-, closings, down⟩ | ⟨-, closings, -, down⟩⟩ :=
        sound.tornDown_eq current
      · rw [down]
        refine sound.changed nofun (fun other apart same => ?_) (by simpa using closings) muted
        rw [current] at same
        cases same
        exact absurd rfl apart
      · rw [down]
        exact sound.changed (fun _ => id) (fun _ _ => id) (by simpa [current] using closings) muted

theorem joined (sound : connection.Sound provider) (idle : connection.current = none)
    {tally : Tally ν} {client : Tallied χ} (fresh : client.closings = 0 ∧ client.muted = 0)
    (counted : tally.built = connection.node.built + 1) :
    (connection.joined tally client).Sound provider where
  present place current := by
    cases current
    simp [Connection.joined]
  closings place tallied found := by
    simp only [Connection.joined, Option.some.injEq]
    rcases Nat.lt_trichotomy place connection.clients.length with before | same | after
    · rw [Connection.joined, List.getElem?_append_left before] at found
      have earlier := sound.closings place tallied found
      rw [idle] at earlier
      rw [if_neg (by omega), earlier]
      rfl
    · subst same
      rw [Connection.joined, List.getElem?_concat_length] at found
      cases found
      simp [fresh]
    · rw [Connection.joined, List.getElem?_eq_none (by simp; omega)] at found
      cases found
  muted tallied member some := by
    obtain before | same := List.mem_append.mp member
    · exact sound.muted tallied before some
    · cases List.mem_singleton.mp same
      omega
  built := by
    simp [Connection.joined, counted, sound.built]

theorem ensured (sound : connection.Sound provider) {result : Except Fault Bool}
    (ensured : Ensured provider.tallied connection result final) : final.Sound provider := by
  cases ensured with
  | kept => exact sound
  | stuck => exact sound.tornDown
  | made _ speaks connected =>
      obtain ⟨fresh, counted⟩ := tallied_connect_ok connected
      exact sound.tornDown.joined (tornDown_current speaks) fresh (by rw [counted, tornDown_node])
  | unmade _ _ failed =>
      have down := sound.tornDown
      refine ⟨down.present, down.closings, down.muted, ?_⟩
      rw [tallied_connect_error failed, ← down.built, tornDown_node]

theorem begun (sound : connection.Sound provider) {result : Except Fault Nat}
    (begun : Begun provider.tallied connection final result) : final.Sound provider := by
  cases begun with
  | bound ensured => exact sound.ensured ensured
  | unavailable ensured => exact sound.ensured ensured
  | broken ensured => exact sound.ensured ensured

/-- A call begins with a client in use that was not closed. If the client was there before, it was in
use and healthy then. -/
theorem bound (sound : connection.Sound provider) {place : Nat}
    (begun : Begun provider.tallied connection final (.ok place)) :
    final.current = some place ∧
      (∃ client, final.clients[place]? = some client ∧ client.closings = client.muted) ∧
      ∀ client, connection.clients[place]? = some client →
        connection.current = some place ∧ client.closings = client.muted ∧
          provider.isHealthy client.client := by
  have later := sound.begun begun
  cases begun with
  | bound ensured current =>
      obtain ⟨client, found, unclosed⟩ := later.unclosed current
      refine ⟨current, ⟨client, found, unclosed⟩, fun known before => ?_⟩
      generalize result : Except.ok _ = answer at ensured
      cases ensured with
      | kept healthy =>
          rw [before] at found
          cases found
          have usable : provider.tallied.isHealthy client := by
            simpa [isHealthy, client?, current, before] using healthy
          exact ⟨current, unclosed, usable⟩
      | stuck => cases result
      | made =>
          -- The client just made is at a place where there was none.
          cases current
          rw [tornDown_clients_length, List.getElem?_eq_none (Nat.le_refl _)] at before
          cases before
      | unmade _ speaks =>
          have idle : (Connection.tornDown provider.tallied connection).current = none :=
            tornDown_current speaks
          exact nomatch idle.symm.trans current

theorem finished (sound : connection.Sound provider) {α : Type} {place : Nat}
    {outcome result : Except Fault α}
    (finished : Finished provider.tallied connection place outcome result final) :
    final.Sound provider := by
  cases finished with
  | stayed => exact sound
  | unsaid => exact sound
  | elsewhere => exact sound
  | down => exact sound.tornDown
  | stuck => exact sound.tornDown

theorem withClient (sound : connection.Sound provider) {place : Nat} {client : Tallied χ}
    (found : connection.clients[place]? = some client) (inner : χ) :
    (connection.withClient place { client with client := inner }).Sound provider :=
  sound.changed (fun _ => id) (fun _ _ => id)
    (sound.closings place client found) (sound.muted client (List.mem_of_getElem? found))

end Sound

end Connection

/-!
## Any order of steps
-/

/-- A connection, and the places of the clients that the calls under way are bound to. -/
structure Traffic (ν χ : Type) where
  connection : Connection (Tally ν) (Tallied χ)
  underWay : List Nat := []

namespace Traffic

open Connection

variable {ν χ : Type}

/-- The steps that can follow each other. Between two of them, whatever their calls do or others do
with the node, clients and node may be any others. -/
inductive Step (provider : Provider ν χ) : Traffic ν χ → Traffic ν χ → Prop
  | ensured {traffic : Traffic ν χ} {result : Except Fault Bool} {trace : Trace}
      {final : Connection (Tally ν) (Tallied χ)}
      (ending : (ensure provider.tallied).Ends traffic.connection result trace final) :
      Step provider traffic { traffic with connection := final }
  | closed {traffic : Traffic ν χ} {result : Except Fault Unit} {trace : Trace}
      {final : Connection (Tally ν) (Tallied χ)}
      (ending : (teardown provider.tallied).Ends traffic.connection result trace final) :
      Step provider traffic { traffic with connection := final }
  | began {traffic : Traffic ν χ} {place : Nat} {trace : Trace}
      {final : Connection (Tally ν) (Tallied χ)}
      (ending : (begin provider.tallied).Ends traffic.connection (.ok place) trace final) :
      Step provider traffic ⟨final, place :: traffic.underWay⟩
  | refused {traffic : Traffic ν χ} {fault : Fault} {trace : Trace}
      {final : Connection (Tally ν) (Tallied χ)}
      (ending : (begin provider.tallied).Ends traffic.connection (.error fault) trace final) :
      Step provider traffic { traffic with connection := final }
  | ended {traffic : Traffic ν χ} {α : Type} {place : Nat} {outcome result : Except Fault α}
      {trace : Trace} {final : Connection (Tally ν) (Tallied χ)}
      (bound : place ∈ traffic.underWay)
      (ending : (finish provider.tallied place outcome).Ends traffic.connection result trace final) :
      Step provider traffic ⟨final, traffic.underWay.erase place⟩
  | turned {traffic : Traffic ν χ} {place : Nat} {tallied : Tallied χ}
      (found : traffic.connection.clients[place]? = some tallied) (client : χ) :
      Step provider traffic
        { traffic with connection := traffic.connection.withClient place { tallied with client } }
  | moved {traffic : Traffic ν χ} (node : ν) :
      Step provider traffic
        { traffic with connection :=
            { traffic.connection with node := { traffic.connection.node with node } } }

/-- What there can be after steps from a connection that has no clients yet. -/
def Reached (provider : Provider ν χ) (node : ν) : Traffic ν χ → Prop :=
  Relation.ReflTransGen (Step provider) { connection := { node := { node } } }

variable {provider : Provider ν χ} {node : ν} {traffic after : Traffic ν χ}

theorem Step.sound (step : Step provider traffic after)
    (sound : traffic.connection.Sound provider) : after.connection.Sound provider := by
  cases step with
  | ensured ending => exact sound.ensured (ensure_ends ending)
  | closed ending =>
      rw [(teardown_ends ending).1]
      exact sound.tornDown
  | began ending => exact sound.begun (begin_ends ending)
  | refused ending => exact sound.begun (begin_ends ending)
  | ended _ ending => exact sound.finished (finish_ends ending)
  | turned found client => exact sound.withClient found client
  | moved node => exact ⟨sound.present, sound.closings, sound.muted, sound.built⟩

theorem Reached.sound (reached : Reached provider node traffic) :
    traffic.connection.Sound provider := by
  induction reached with
  | refl => exact .fresh node
  | tail _ step ih => exact step.sound ih

/-- What holds of a connection whose calls overlap in any way. Closing a client goes for nothing where
there are no words for why it did not let itself be closed: such a client stays in use. -/
structure OneAtATime (provider : Provider ν χ) (traffic : Traffic ν χ) : Prop where
  /-- All clients were closed once, but for the one in use, which was not. -/
  closings : ∀ (place : Nat) (client : Tallied χ), traffic.connection.clients[place]? = some client →
    client.closings =
      client.muted + if traffic.connection.current = some place then 0 else 1
  muted : ∀ client ∈ traffic.connection.clients, 0 < client.muted →
    ∃ closed, ¬ IsTold (provider.close closed).result
  present : ∀ place, traffic.connection.current = some place →
    place < traffic.connection.clients.length
  built : traffic.connection.node.built = traffic.connection.clients.length
  reconnects : (traffic.connection.reconnects : Int) =
    max 0 ((traffic.connection.node.built : Int) - 1)
  /-- A call begins with a client in use that was not closed, and one that was there before was in use
  and healthy then. -/
  begins : ∀ place trace final,
    (begin provider.tallied).Ends traffic.connection (.ok place) trace final →
      final.current = some place ∧
      (∃ client, final.clients[place]? = some client ∧ client.closings = client.muted) ∧
      ∀ client, traffic.connection.clients[place]? = some client →
        traffic.connection.current = some place ∧ client.closings = client.muted ∧
          provider.isHealthy client.client
  refuses : ∀ fault trace final,
    (begin provider.tallied).Ends traffic.connection (.error fault) trace final →
      fault = unavailable ∧ final.current = none ∨
        fault = .wordless ∧
          (traffic.connection.IsMute provider.tallied ∨
            ¬ IsTold (provider.connect traffic.connection.node.node).result)
  /-- The end of a call gives its client up if there is a reason to and the client is still in use. -/
  givesUp : ∀ (α : Type) (place : Nat) (outcome result : Except Fault α) trace final,
    (finish provider.tallied place outcome).Ends traffic.connection result trace final →
      GivesUp provider.tallied traffic.connection place outcome → IsTold outcome →
      traffic.connection.current = some place →
        ∃ client : Tallied χ,
          (¬ traffic.connection.IsMute provider.tallied ∧ result = outcome ∧
              client.closings = client.muted + 1 ∧
              final = { traffic.connection.withClient place client with current := none }) ∨
            traffic.connection.IsMute provider.tallied ∧ result = .error .wordless ∧
              client.closings = client.muted ∧ 0 < client.muted ∧
              final = traffic.connection.withClient place client
  /-- Any other end of a call changes nothing. -/
  leaves : ∀ (α : Type) (place : Nat) (outcome result : Except Fault α) trace final,
    (finish provider.tallied place outcome).Ends traffic.connection result trace final →
      ¬ (GivesUp provider.tallied traffic.connection place outcome ∧ IsTold outcome ∧
        traffic.connection.current = some place) →
        final = traffic.connection ∧
          (result = outcome ∨
            result = .error .wordless ∧ ¬ IsTold outcome ∧
              GivesUp provider.tallied traffic.connection place outcome)
  closes : ∀ result trace final,
    (teardown provider.tallied).Ends traffic.connection result trace final →
      ¬ traffic.connection.IsMute provider.tallied ∧ result = .ok () ∧ final.current = none ∨
        traffic.connection.IsMute provider.tallied ∧ result = .error .wordless ∧
          final.current = traffic.connection.current

theorem Reached.finishes (reached : Reached provider node traffic) {α : Type} {place : Nat}
    {outcome result : Except Fault α} {trace : Trace} {final : Connection (Tally ν) (Tallied χ)}
    (ending : (finish provider.tallied place outcome).Ends traffic.connection result trace final)
    (reason : GivesUp provider.tallied traffic.connection place outcome) (told : IsTold outcome)
    (current : traffic.connection.current = some place) :
    ∃ client : Tallied χ,
      (¬ traffic.connection.IsMute provider.tallied ∧ result = outcome ∧
          client.closings = client.muted + 1 ∧
          final = { traffic.connection.withClient place client with current := none }) ∨
        traffic.connection.IsMute provider.tallied ∧ result = .error .wordless ∧
          client.closings = client.muted ∧ 0 < client.muted ∧
          final = traffic.connection.withClient place client := by
  obtain ⟨client, -, down⟩ := reached.sound.tornDown_eq current
  refine ⟨client, ?_⟩
  cases finish_ends ending with
  | stayed stays => exact absurd reason stays
  | unsaid _ silent => exact absurd told silent
  | elsewhere _ _ other => exact absurd current other
  | down _ _ _ speaks =>
      obtain ⟨-, closed, same⟩ | ⟨mute, -⟩ := down
      · exact .inl ⟨speaks, rfl, closed, same⟩
      · exact absurd mute speaks
  | stuck _ _ _ mute =>
      obtain ⟨speaks, -⟩ | ⟨-, closed⟩ := down
      · exact absurd mute speaks
      · exact .inr ⟨mute, rfl, closed⟩

theorem Reached.closes (reached : Reached provider node traffic) {result : Except Fault Unit}
    {trace : Trace} {final : Connection (Tally ν) (Tallied χ)}
    (ending : (teardown provider.tallied).Ends traffic.connection result trace final) :
    ¬ traffic.connection.IsMute provider.tallied ∧ result = .ok () ∧ final.current = none ∨
      traffic.connection.IsMute provider.tallied ∧ result = .error .wordless ∧
        final.current = traffic.connection.current := by
  obtain ⟨rfl, ⟨speaks, rfl⟩ | ⟨mute, rfl⟩⟩ := teardown_ends ending
  · exact .inl ⟨speaks, rfl, tornDown_current speaks⟩
  · refine .inr ⟨mute, rfl, ?_⟩
    cases current : traffic.connection.current with
    | none => exact absurd mute (not_isMute_of_none current)
    | some place =>
        obtain ⟨client, -, ⟨speaks, -⟩ | ⟨-, -, -, same⟩⟩ := reached.sound.tornDown_eq current
        · exact absurd mute speaks
        · rw [same]
          exact current

/-- Whatever the order of the steps, there is one client at most that was not closed. -/
theorem one_client_at_a_time (reached : Reached provider node traffic) :
    traffic.OneAtATime provider where
  -- Every step keeps the connection sound, so each part is read off the last connection.
  closings := reached.sound.closings
  muted := reached.sound.muted
  present := reached.sound.present
  built := reached.sound.built
  reconnects := by
    rw [Connection.reconnects, reached.sound.built]
    omega
  begins place trace final ending := reached.sound.bound (begin_ends ending)
  refuses fault trace final ending := by
    cases begin_ends ending with
    | unavailable _ idle => exact .inl ⟨rfl, idle⟩
    | broken ensured =>
        obtain ⟨rfl, silenced⟩ := ensured.silenced
        exact .inr ⟨rfl, silenced.imp_right (isTold_tallied_connect provider _).not.mp⟩
  givesUp α place outcome result trace final ending := reached.finishes ending
  leaves α place outcome result trace final ending kept := by
    cases finish_ends ending with
    | stayed => exact ⟨rfl, .inl rfl⟩
    | unsaid reason silent => exact ⟨rfl, .inr ⟨rfl, silent, reason⟩⟩
    | elsewhere => exact ⟨rfl, .inl rfl⟩
    | down reason told current => exact absurd ⟨reason, told, current⟩ kept
    | stuck reason told current => exact absurd ⟨reason, told, current⟩ kept
  closes result trace final := reached.closes

/-- Of two calls that overlap, the first ends in a fault of the transport and takes the client down;
the second ends so as well, after another client was made. -/
theorem one_client_after_rebuild :
    let rebuilt : Traffic Simulated Bool :=
      { connection :=
          { node := { node := { built := 2 }, built := 2 }
            clients := [{ client := false, closings := 1 }, { client := true }]
            current := some 1 } }
    Reached Simulated.provider {} rebuilt ∧
      (rebuilt.connection.reconnects : Int) = max 0 ((rebuilt.connection.node.built : Int) - 1) ∧
      ∀ (place : Nat) (client : Tallied Bool), rebuilt.connection.clients[place]? = some client →
        client.closings =
          client.muted + if rebuilt.connection.current = some place then 0 else 1 := by
  intro rebuilt
  let lost : Except Fault Unit := .error (.transport "fetchStatus" "connection reset" [])
  let used : Connection (Tally Simulated) (Tallied Bool) :=
    { node := { node := { built := 1 }, built := 1 }, clients := [{ client := true }],
      current := some 0 }
  let down : Connection (Tally Simulated) (Tallied Bool) :=
    { node := { node := { built := 1 }, built := 1 },
      clients := [{ client := false, closings := 1 }] }
  have first : Step Simulated.provider { connection := { node := { node := {} } } } ⟨used, [0]⟩ :=
    .began (ends_iff.mpr ⟨rfl, rfl, rfl⟩)
  have second : Step Simulated.provider ⟨used, [0]⟩ ⟨used, [0, 0]⟩ :=
    .began (ends_iff.mpr ⟨rfl, rfl, rfl⟩)
  have failing : (finish Simulated.provider.tallied 0 lost).Ends used lost _ down :=
    ends_iff.mpr ⟨rfl, rfl, rfl⟩
  have failed : Step Simulated.provider ⟨used, [0, 0]⟩ ⟨down, [0, 0].erase 0⟩ :=
    .ended List.mem_cons_self failing
  have again : Step Simulated.provider ⟨down, [0]⟩ ⟨rebuilt.connection, [0]⟩ :=
    .ensured (ends_iff.mpr ⟨rfl, rfl, rfl⟩)
  have passing : (finish Simulated.provider.tallied 0 lost).Ends rebuilt.connection lost _
      rebuilt.connection := ends_iff.mpr ⟨rfl, rfl, rfl⟩
  have late : Step Simulated.provider ⟨rebuilt.connection, [0]⟩
      ⟨rebuilt.connection, [0].erase 0⟩ :=
    .ended List.mem_cons_self passing
  have reached : Reached Simulated.provider {} rebuilt :=
    .tail (.tail (.tail (.tail (.single first) second) failed) again) late
  have orderly := one_client_at_a_time reached
  exact ⟨reached, orderly.reconnects, orderly.closings⟩

/-- Clients that end in a fault without words when they are closed. -/
def mute : Provider Simulated Bool :=
  { Simulated.provider with
    close := do
      Call.modify fun _ => false
      Call.fail .unspeakable }

/-- The client in use was closed, and is still in use. -/
theorem not_one_client_of_mute :
    let closed : Traffic Simulated Bool :=
      { connection :=
          { node := { node := { built := 1 }, built := 1 }
            clients := [{ client := false, closings := 1, muted := 1 }]
            current := some 0 } }
    Reached mute {} closed ∧
      ¬ ∀ (place : Nat) (client : Tallied Bool), closed.connection.clients[place]? = some client →
        client.closings = if closed.connection.current = some place then 0 else 1 := by
  intro closed
  let used : Connection (Tally Simulated) (Tallied Bool) :=
    { node := { node := { built := 1 }, built := 1 }, clients := [{ client := true }],
      current := some 0 }
  have ensured : Step mute { connection := { node := { node := {} } } } ⟨used, []⟩ :=
    .ensured (ends_iff.mpr ⟨rfl, rfl, rfl⟩)
  have silent : ¬ IsTold (mute.close true).result := fun told => told Fault.words?_unspeakable
  have down : used.tornDown mute.tallied = closed.connection := by
    obtain ⟨result, state⟩ := tallied_close mute { client := true }
    have counted : (mute.tallied.close { client := true }).state =
        { client := false, closings := 1, muted := 1 } := by
      simp only [state, silent, decide_false]
      rfl
    rw [tornDown_of_found (show used.current = some 0 from rfl) rfl, result, if_neg silent, counted]
    rfl
  have ending := (teardown mute.tallied).ends used
  rw [(teardown_ends ending).1, down] at ending
  have stuck : Step mute ⟨used, []⟩ closed := .closed ending
  refine ⟨.tail (.single ensured) stuck, fun once => ?_⟩
  exact absurd (once 0 _ rfl) (by decide)

/-!
### Whole calls
-/

/-- A call that is told its client goes through the steps, whatever steps its body goes through. -/
theorem reaches_use {α : Type} {body : Nat → Call (Connection (Tally ν) (Tallied χ)) α}
    {underWay : List Nat} {connection final : Connection (Tally ν) (Tallied χ)}
    {result : Except Fault α} {trace : Trace}
    (inside : ∀ place connection outcome trace middle,
      (body place).Ends connection outcome trace middle →
      Relation.ReflTransGen (Step provider) ⟨connection, place :: underWay⟩
        ⟨middle, place :: underWay⟩)
    (ending : (use provider.tallied body).Ends connection result trace final) :
    Relation.ReflTransGen (Step provider) ⟨connection, underWay⟩ ⟨final, underWay⟩ := by
  obtain ⟨fault, -, failed⟩ | ⟨place, bound, _, _, begun, rest, -⟩ := ends_bind.mp ending
  · exact .single (.refused failed)
  obtain ⟨outcome, middle, _, _, ran, finished, -⟩ := ends_attempt_bind.mp rest
  have start : Step provider ⟨connection, underWay⟩ ⟨bound, place :: underWay⟩ := .began begun
  have finish : Step provider ⟨middle, place :: underWay⟩
      ⟨final, (place :: underWay).erase place⟩ := .ended List.mem_cons_self finished
  rw [List.erase_cons_head] at finish
  exact ((Relation.ReflTransGen.single start).trans (inside place _ _ _ _ ran)).tail finish

theorem reaches_ask {question : Question} {underWay : List Nat}
    {connection final : Connection (Tally ν) (Tallied χ)} {result : Except Fault question.Answer}
    {trace : Trace} (ending : (ask provider.tallied question).Ends connection result trace final) :
    Relation.ReflTransGen (Step provider) ⟨connection, underWay⟩ ⟨final, underWay⟩ := by
  refine reaches_use (fun place connection outcome trace middle ran => ?_) ending
  obtain ⟨_, called, -⟩ := ends_note_bind.mp ran
  obtain ⟨-, -, -, rfl⟩ | ⟨client, done, found, answered, rfl⟩ := byClient_ends called
  · exact .refl
  simp only [Provider.tallied, ends_inside] at answered
  obtain ⟨part, -, rfl⟩ := answered
  exact .tail (.single (.turned found part.2)) (.moved part.1)

end Traffic

/-!
## The counts make no difference
-/

/-- On what is left of a state, the one call does what the other does on the state. -/
def Mirrors {σ τ α β : Type} (left : σ → τ) (view : α → β) (full : Call σ α) (plain : Call τ β) :
    Prop :=
  ∀ state, plain (left state) =
    { result := (full state).result.map view
      state := left (full state).state
      trace := (full state).trace
      interrupted := (full state).interrupted }

namespace Mirrors

variable {σ τ α β α' β' : Type} {left : σ → τ} {view : α → β} {view' : α' → β'}

theorem pure (value : α) : Mirrors left view (Pure.pure value) (Pure.pure (view value)) :=
  fun _ => rfl

theorem fail (fault : Fault) : Mirrors left view (Call.fail fault) (Call.fail fault) :=
  fun _ => rfl

theorem note (entry : Note) : Mirrors left id (Call.note entry) (Call.note entry) :=
  fun _ => rfl

theorem read : Mirrors left left Call.read Call.read :=
  fun _ => rfl

theorem ofExcept (result : Except Fault α) :
    Mirrors left id (Call.ofExcept result) (Call.ofExcept result) := by
  intro state
  cases result <;> rfl

theorem modify {change : σ → σ} {change' : τ → τ}
    (same : ∀ state, change' (left state) = left (change state)) :
    Mirrors left id (Call.modify change) (Call.modify change') := by
  intro state
  change Completion.mk _ (change' (left state)) _ _ = _
  rw [same]
  rfl

theorem attempt {full : Call σ α} {plain : Call τ β} (mirrors : Mirrors left view full plain) :
    Mirrors left (Except.map view) full.attempt plain.attempt := by
  intro state
  unfold Call.attempt
  rw [mirrors state]
  rfl

theorem bind {full : Call σ α} {plain : Call τ β} {next : α → Call σ α'} {next' : β → Call τ β'}
    (first : Mirrors left view full plain)
    (second : ∀ value, Mirrors left view' (next value) (next' (view value))) :
    Mirrors left view' (full >>= next) (plain >>= next') := by
  intro state
  cases ended : (full state).result with
  | error fault =>
      have failed : (plain (left state)).result = .error fault := by rw [first state, ended]; rfl
      rw [bind_of_error failed, bind_of_error ended, first state]
      rfl
  | ok value =>
      have done : (plain (left state)).result = .ok (view value) := by rw [first state, ended]; rfl
      rw [bind_of_ok done, bind_of_ok ended, first state, second value]

theorem inside {σ' τ' : Type} {left' : σ' → τ'} {full : Call σ α} {plain : Call τ β}
    {part : σ' → σ} {replace : σ → σ' → σ'} {part' : τ' → τ} {replace' : τ → τ' → τ'}
    (mirrors : Mirrors left view full plain) (parts : ∀ state, part' (left' state) = left (part state))
    (replaces : ∀ inner state, replace' (left inner) (left' state) = left' (replace inner state)) :
    Mirrors left' view (full.inside part replace) (plain.inside part' replace') := by
  intro state
  simp only [Call.inside, parts, mirrors (part state), replaces]

theorem tallied_connect {ν χ : Type} (provider : Provider ν χ) :
    Mirrors Tally.node Tallied.client provider.tallied.connect provider.connect := by
  intro tally
  rcases ended : provider.connect tally.node with ⟨_ | _, node, trace, interrupted⟩ <;>
    simp [Provider.tallied, Bind.bind, andThen, Call.inside, Call.modify, Pure.pure, done, ended,
      Except.map]

theorem tallied_close {ν χ : Type} (provider : Provider ν χ) :
    Mirrors Tallied.client id provider.tallied.close provider.close := by
  intro tallied
  rcases ended : provider.close tallied.client with ⟨_ | _, client, trace, interrupted⟩ <;>
    simp [Provider.tallied, Bind.bind, andThen, Call.inside, Call.attempt, Call.modify,
      Call.ofExcept, Tallied.counting, ended, Except.map]

theorem tallied_ask {ν χ : Type} (provider : Provider ν χ) (question : Question) :
    Mirrors (fun state : Tally ν × Tallied χ => (state.1.node, state.2.client)) id
      (provider.tallied.ask question) (provider.ask question) := by
  intro state
  simp [Provider.tallied, Call.inside]

end Mirrors

namespace Connection

variable {ν χ : Type}

/-- The connection without the counts. -/
def untallied (connection : Connection (Tally ν) (Tallied χ)) : Connection ν χ where
  node := connection.node.node
  clients := connection.clients.map Tallied.client
  current := connection.current

variable (provider : Provider ν χ)

theorem untallied_isHealthyAt (connection : Connection (Tally ν) (Tallied χ)) (place : Nat) :
    connection.untallied.isHealthyAt provider place =
      connection.isHealthyAt provider.tallied place := by
  simp only [isHealthyAt, untallied, List.getElem?_map]
  cases connection.clients[place]? <;> rfl

theorem untallied_isHealthy (connection : Connection (Tally ν) (Tallied χ)) :
    connection.untallied.isHealthy provider = connection.isHealthy provider.tallied := by
  unfold isHealthy client?
  simp only [untallied, List.getElem?_map]
  cases connection.current with
  | none => rfl
  | some place => simp [Option.any_map, Provider.tallied]

theorem mirrors_byClient {α β : Type} {view : α → β} {place : Nat}
    {full : Call (Tally ν × Tallied χ) α} {plain : Call (ν × χ) β}
    (mirrors : Mirrors (fun state => (state.1.node, state.2.client)) view full plain) :
    Mirrors untallied view (byClient place full) (byClient place plain) := by
  intro connection
  unfold byClient
  simp only [untallied, List.getElem?_map]
  cases connection.clients[place]? with
  | none => rfl
  | some client =>
      have done := mirrors (connection.node, client)
      simp only at done
      simp [done, withClient, List.map_set]

theorem mirrors_teardown :
    Mirrors untallied id (teardown provider.tallied) (teardown provider) := by
  have close : Mirrors (fun state : Tally ν × Tallied χ => (state.1.node, state.2.client)) id
      (provider.tallied.close.inside Prod.snd fun client state => (state.1, client))
      (provider.close.inside Prod.snd fun client state => (state.1, client)) :=
    .inside (.tallied_close provider) (fun _ => rfl) fun _ _ => rfl
  refine .bind .read fun connection => ?_
  rw [show connection.untallied.current = connection.current from rfl]
  cases connection.current with
  | none => exact .pure ()
  | some place =>
      refine .bind (.attempt (mirrors_byClient close)) fun closed => ?_
      cases closed with
      | ok _ => exact .modify fun _ => rfl
      | error fault =>
          refine .bind (.ofExcept _) fun cause => ?_
          exact .bind (.note _) fun _ => .modify fun _ => rfl

theorem mirrors_ensure : Mirrors untallied id (ensure provider.tallied) (ensure provider) := by
  refine .bind .read fun connection => ?_
  rw [untallied_isHealthy]
  split
  · exact .pure true
  · refine .bind (mirrors_teardown provider) fun _ => ?_
    refine .bind (.attempt (.inside (.tallied_connect provider) (fun _ => rfl) fun _ _ => rfl))
      fun made => ?_
    cases made with
    | error fault => exact .bind (.ofExcept _) fun _ => .bind (.note _) fun _ => .pure false
    | ok client =>
        refine .bind (.modify fun connection => ?_) fun _ => .bind .read fun connection => ?_
        · simp [untallied]
        · have counted : connection.untallied.reconnects = connection.reconnects := by
            simp [reconnects, untallied]
          dsimp only
          rw [counted]
          split
          · exact .bind (.note _) fun _ => .pure true
          · exact .pure true

theorem mirrors_begin : Mirrors untallied id (begin provider.tallied) (begin provider) := by
  refine .bind (mirrors_ensure provider) fun _ => .bind .read fun connection => ?_
  rw [show connection.untallied.current = connection.current from rfl]
  cases connection.current with
  | none => exact .fail _
  | some place => exact .pure place

theorem mirrors_finish {α : Type} (place : Nat) (outcome : Except Fault α) :
    Mirrors untallied id (finish provider.tallied place outcome) (finish provider place outcome) := by
  cases outcome with
  | ok value => exact .pure value
  | error fault =>
      refine .bind .read fun connection => ?_
      dsimp only
      rw [untallied_isHealthyAt]
      split
      · refine .bind (.ofExcept _) fun cause => .bind (.note _) fun _ => ?_
        -- The place in use is not touched by leaving the counts out.
        change Mirrors untallied id _ (if connection.current == some place then _ else _)
        split
        · exact .bind (mirrors_teardown provider) fun _ => .fail fault
        · exact .fail fault
      · exact .fail fault

theorem mirrors_ask (question : Question) :
    Mirrors untallied id (ask provider.tallied question) (ask provider question) := by
  refine .bind (mirrors_begin provider) fun place => ?_
  have body : Mirrors untallied id (do
      Call.note (.asked question)
      byClient place (provider.tallied.ask question)) (do
        Call.note (.asked question)
        byClient place (provider.ask question)) :=
    .bind (.note _) fun _ => mirrors_byClient (.tallied_ask provider question)
  refine .bind (.attempt body) fun outcome => ?_
  rw [show Except.map id outcome = outcome by cases outcome <;> rfl]
  exact mirrors_finish provider place outcome

end Connection

end RollCall.Chain
