import Mathlib.Logic.Relation
import RollCall.Proofs.Fetching
import RollCall.Proofs.Wording

/-!
# Trying again

A client sends its request until a reply settles the question or the retries are used up. Which
replies settle a question is said here of the replies alone; how many requests are sent, what the
client answers and what becomes of its health follows from the first of them. A client that has
tried in vain stays unhealthy.
-/

set_option autoImplicit false

namespace RollCall

open Call

@[simp] theorem Trace.requests_append (first second : Trace) :
    Trace.requests (first ++ second) = first.requests ++ second.requests :=
  List.filterMap_append

namespace Call

variable {σ α β : Type} {state : σ} {requests requests' : List Http.Request} {P Q : σ → Prop}

/-!
## Which requests a call sends
-/

/-- How a call ends that is made in some state and not disturbed: it sends these requests, ends in
this result, and then something holds of the state. -/
structure Sends (call : Call σ α) (state : σ) (requests : List Http.Request)
    (answer : Except Fault α) (P : σ → Prop) : Prop where
  result : (call state).result = answer
  requests : (call state).trace.requests = requests
  calm : (call state).interrupted = false
  final : P (call state).state

namespace Sends

theorem ofExcept {answer : Except Fault α} (holds : P state) :
    (Call.ofExcept answer).Sends state [] answer P :=
  ⟨rfl, rfl, rfl, holds⟩

theorem pure {value : α} (holds : P state) :
    (Pure.pure value : Call σ α).Sends state [] (.ok value) P :=
  ⟨rfl, rfl, rfl, holds⟩

theorem fail {fault : Fault} (holds : P state) :
    (Call.fail fault : Call σ α).Sends state [] (.error fault) P :=
  ⟨rfl, rfl, rfl, holds⟩

theorem bind {call : Call σ α} {next : α → Call σ β} {value : α} {answer : Except Fault β}
    (first : call.Sends state requests (.ok value) P)
    (rest : ∀ middle, P middle → (next value).Sends middle requests' answer Q) :
    (call >>= next).Sends state (requests ++ requests') answer Q := by
  have second := rest _ first.final
  constructor
  case result => rw [bind_of_ok first.result, second.result]
  case requests =>
    rw [bind_of_ok first.result, Trace.requests_append, first.requests, second.requests]
  case calm => rw [bind_of_ok first.result, first.calm, second.calm, Bool.or_false]
  case final =>
    rw [bind_of_ok first.result]
    exact second.final

theorem before {call : Call σ α} {next : α → Call σ β} {value : α} {answer : Except Fault β}
    (first : call.Sends state [] (.ok value) P)
    (rest : ∀ middle, P middle → (next value).Sends middle requests answer Q) :
    (call >>= next).Sends state requests answer Q :=
  first.bind rest

theorem after {call : Call σ α} {next : α → Call σ β} {value : α} {answer : Except Fault β}
    (first : call.Sends state requests (.ok value) P)
    (rest : ∀ middle, P middle → (next value).Sends middle [] answer Q) :
    (call >>= next).Sends state requests answer Q := by
  rw [← List.append_nil requests]
  exact first.bind rest

theorem bind_error {call : Call σ α} {next : α → Call σ β} {fault : Fault}
    (failed : call.Sends state requests (.error fault) P) :
    (call >>= next).Sends state requests (.error fault) P := by
  constructor
  case result => rw [bind_of_error failed.result]
  case requests => rw [bind_of_error failed.result, failed.requests]
  case calm => rw [bind_of_error failed.result, failed.calm]
  case final =>
    rw [bind_of_error failed.result]
    exact failed.final

theorem attempt {call : Call σ α} {answer : Except Fault α}
    (sends : call.Sends state requests answer P) :
    call.attempt.Sends state requests (.ok answer) P :=
  ⟨congrArg _ sends.result, sends.requests, sends.calm, sends.final⟩

theorem mono {call : Call σ α} {answer : Except Fault α}
    (sends : call.Sends state requests answer P) (weaker : ∀ final, P final → Q final) :
    call.Sends state requests answer Q :=
  { sends with final := weaker _ sends.final }

end Sends

/-- How a call ends that is made in some state and may be disturbed. -/
structure SendsAmid (call : Call σ α) (state : σ) (requests : List Http.Request)
    (answer : Except Fault α) (disturbed : Bool) (P : σ → Prop) : Prop where
  result : (call state).result = answer
  requests : (call state).trace.requests = requests
  disturbed : (call state).interrupted = disturbed
  final : P (call state).state

theorem Sends.amid {call : Call σ α} {answer : Except Fault α}
    (sends : call.Sends state requests answer P) : call.SendsAmid state requests answer false P :=
  ⟨sends.result, sends.requests, sends.calm, sends.final⟩

theorem ofExcept_bind (answer : Except Fault α) (next : α → Except Fault β) :
    (Call.ofExcept answer >>= fun value => Call.ofExcept (next value) : Call σ β) =
      Call.ofExcept (answer >>= next) := by
  cases answer <;> rfl

end Call

/-- A network whose replies are set: while it is in a state of `given count` its next reply is
`replies count`, whatever is asked. It does not close the client. -/
structure Network.Gives {ν : Type} (network : Network ν)
    (replies : Nat → Except Fault Http.Response) (given : Nat → ν → Prop) : Prop where
  exchange : ∀ request count node, given count node →
    (network.exchange request).Sends node [] (replies count) (given (count + 1))
  pause : ∀ delay count node, given count node →
    (network.pause delay).Sends node [] (.ok ()) (given count)
  chance : ∀ count node, given count node →
    ∃ random, network.chance.Sends node [] (.ok random) (given count)

namespace Chain.Client

/-!
## Replies
-/

/-- The answer to a question that a reply settles, whatever its status: its body is a record with
an error or a result that is a record, and the error counts more. A refusal that is raised in place
of a reply is handed on. -/
inductive Settles (method : String) : Except Fault Http.Response → Except Fault Value → Prop where
  | result {status : Number} {text : String} {members result : Members}
      (parses : Json.parse? text = some (.record members))
      (fine : ¬ ((Value.record members).member "error").isRecord)
      (found : (Value.record members).member "result" = .record result) :
      Settles method (.ok { status, body := .ok text }) (.ok (.record result))
  | error {status : Number} {text : String} {members error : Members}
      (parses : Json.parse? text = some (.record members))
      (found : (Value.record members).member "error" = .record error) :
      Settles method (.ok { status, body := .ok text }) (.error (refusal method (.record error)))
  | raised {fault : Fault} (refused : fault.isRefusal) :
      Settles method (.error fault) (.error fault)

/-- The fault of an attempt whose reply settles nothing. -/
inductive Fails : Except Fault Http.Response → Fault → Prop where
  | raised {fault : Fault} (foreign : ¬ fault.isRefusal) : Fails (.error fault) fault
  | unreadable {status : Number} {reason : String} :
      Fails (.ok { status, body := .error reason }) (.other reason)
  | unexpected {status : Number} {text : String}
      (silent : ∀ members, Json.parse? text = some (.record members) →
        ¬ ((Value.record members).member "error").isRecord ∧
          ¬ ((Value.record members).member "result").isRecord) :
      Fails (.ok { status, body := .ok text }) (.other s!"HTTP {status.text}: unexpected body")

/-- What an attempt makes of a reply. -/
def verdict (method : String) (reply : Except Fault Http.Response) : Except Fault Value := do
  let response ← reply
  let body ← conclusive response
  settled method body

theorem exists_record {value : Value} (record : value.isRecord) :
    ∃ members, value = .record members := by
  cases value with
  | record members => exact ⟨members, rfl⟩
  | _ => cases record

theorem isConclusive_iff {body : Value} :
    isConclusive body ↔ ∃ members, body = .record members ∧
      (((Value.record members).member "error").isRecord ∨
        ((Value.record members).member "result").isRecord) := by
  cases body with
  | record members => simp [isConclusive]
  | _ => simp [isConclusive, Value.member, Value.members, Value.isRecord, Members.find?]

theorem conclusive_of_settling {status : Number} {text : String} {members : Members}
    (parses : Json.parse? text = some (.record members))
    (tells : ((Value.record members).member "error").isRecord ∨
      ((Value.record members).member "result").isRecord) :
    conclusive { status, body := .ok text } = .ok (.record members) := by
  have kept := isConclusive_iff.mpr ⟨members, rfl, tells⟩
  simp [conclusive, parses, Option.filter, kept]

theorem conclusive_tells {response : Http.Response} {body : Value}
    (concluded : conclusive response = .ok body) :
    (body.member "error").isRecord ∨ (body.member "result").isRecord := by
  unfold conclusive at concluded
  split at concluded
  · cases concluded
  · split at concluded
    · next found =>
      cases concluded
      obtain ⟨_, rfl, tells⟩ := isConclusive_iff.mp (Option.filter_eq_some_iff.mp found).2
      exact tells
    · cases concluded

theorem Settles.verdict_eq {method : String} {reply : Except Fault Http.Response}
    {answer : Except Fault Value} (settles : Settles method reply answer) :
    verdict method reply = answer := by
  cases settles with
  | @result _ _ members _ parses fine found =>
      change (conclusive _ >>= settled method) = _
      rw [conclusive_of_settling parses (.inr (by rw [found]; rfl))]
      change settled method (.record members) = _
      rw [settled, if_neg fine, found]
      rfl
  | @error _ _ members _ parses found =>
      change (conclusive _ >>= settled method) = _
      rw [conclusive_of_settling parses (.inl (by rw [found]; rfl))]
      change settled method (.record members) = _
      rw [settled, found]
      rfl
  | raised => rfl

theorem Settles.isRefusal {method : String} {reply : Except Fault Http.Response} {fault : Fault}
    (settles : Settles method reply (.error fault)) : fault.isRefusal := by
  cases settles with
  | error => rfl
  | raised refused => exact refused

theorem Fails.verdict_eq {reply : Except Fault Http.Response} {fault : Fault}
    (fails : Fails reply fault) (method : String) : verdict method reply = .error fault := by
  cases fails with
  | raised => rfl
  | unreadable => rfl
  | @unexpected status text silent =>
      have nothing : (Json.parse? text).filter isConclusive = none := by
        refine Option.filter_eq_none_iff.mpr fun body found tells => ?_
        obtain ⟨members, rfl, told⟩ := isConclusive_iff.mp tells
        exact told.elim (silent members found).1 (silent members found).2
      change (conclusive _ >>= settled method) = _
      simp only [conclusive, nothing]
      rfl

theorem Fails.not_isRefusal {reply : Except Fault Http.Response} {fault : Fault}
    (fails : Fails reply fault) : ¬ fault.isRefusal := by
  cases fails with
  | raised foreign => exact foreign
  | unreadable => exact Bool.false_ne_true
  | unexpected => exact Bool.false_ne_true

theorem settles_or_fails (method : String) (reply : Except Fault Http.Response) :
    (∃ answer, Settles method reply answer) ∨ ∃ fault, Fails reply fault := by
  rcases reply with fault | ⟨status, reason | text⟩
  · by_cases refused : fault.isRefusal
    · exact .inl ⟨_, .raised refused⟩
    · exact .inr ⟨_, .raised refused⟩
  · exact .inr ⟨_, .unreadable⟩
  by_cases silent : ∀ members, Json.parse? text = some (.record members) →
      ¬ ((Value.record members).member "error").isRecord ∧
        ¬ ((Value.record members).member "result").isRecord
  · exact .inr ⟨_, .unexpected silent⟩
  push Not at silent
  obtain ⟨members, parses, tells⟩ := silent
  by_cases told : ((Value.record members).member "error").isRecord
  · obtain ⟨_, found⟩ := exists_record told
    exact .inl ⟨_, .error parses found⟩
  · obtain ⟨_, found⟩ := exists_record (tells told)
    exact .inl ⟨_, .result parses told found⟩

theorem not_settles_iff {method : String} {reply : Except Fault Http.Response} :
    (¬ ∃ answer, Settles method reply answer) ↔ ∃ fault, Fails reply fault := by
  refine ⟨(settles_or_fails method reply).resolve_left, ?_⟩
  rintro ⟨fault, fails⟩ ⟨answer, settles⟩
  have same := settles.verdict_eq
  rw [fails.verdict_eq] at same
  subst same
  exact fails.not_isRefusal settles.isRefusal

/-!
## Attempts
-/

theorem attempts_ofNat {settings : ClientSettings} {retries : Nat}
    (patience : settings.retries = .ofNat retries) : settings.attempts = retries + 1 := by
  have whole : ((retries : Int) : Rat).floor = retries := Rat.floor_intCast retries
  simp only [ClientSettings.attempts, patience, Number.ofNat, Number.ofInt, whole]
  omega

section Attempts

variable {ν : Type} {network : Network ν} {replies : Nat → Except Fault Http.Response}
  {given : Nat → ν → Prop} {session : Session} {count : Nat} {state : ν × Session}

/-- So many replies are given, and the client is as it was. -/
def At (given : Nat → ν → Prop) (session : Session) (count : Nat) (state : ν × Session) : Prop :=
  given count state.1 ∧ state.2 = session

/-- What a client knows after a call on the network. -/
def afterCall (disturbed : Bool) (session : Session) : Session :=
  if disturbed then session.close else session

theorem through_apply {α : Type} (call : Call ν α) (state : ν × Session) :
    through call state =
      { result := (call state.1).result
        state := ((call state.1).state, afterCall (call state.1).interrupted state.2)
        trace := (call state.1).trace
        interrupted := false } := by
  have watched : ((call.inside Prod.fst fun node (state : ν × Session) =>
      (node, state.2)).watch state).result =
        .ok ((call state.1).result, (call state.1).interrupted) := rfl
  rw [through, bind_of_ok watched]
  cases (call state.1).interrupted with
  | false => simp [watch, inside, Call.ofExcept, afterCall]
  | true => simp [watch, inside, Call.ofExcept, Call.modify, bind, andThen, afterCall]

/-- A call on the network by a client; a disturbed one closes it. -/
theorem through_sends {α : Type} {call : Call ν α} {requests : List Http.Request}
    {answer : Except Fault α} {disturbed : Bool} {Q : ν → Prop} (same : state.2 = session)
    (sends : call.SendsAmid state.1 requests answer disturbed Q) :
    (through call).Sends state requests answer
      fun final => Q final.1 ∧ final.2 = afterCall disturbed session := by
  constructor
  case result => rw [through_apply, sends.result]
  case requests => rw [through_apply, sends.requests]
  case calm => rw [through_apply]
  case final =>
    rw [through_apply, sends.disturbed, same]
    exact ⟨sends.final, rfl⟩

variable {settings : ClientSettings} {method url : String} {left attempts : Nat}
  {last : Option Fault} {reply : Except Fault Http.Response} {P : ν × Session → Prop}

theorem send_amid {request : Http.Request} {node : ν} {answer : Except Fault Http.Response}
    {disturbed : Bool} {Q : ν → Prop}
    (exchanged : (network.exchange request).SendsAmid node [] answer disturbed Q) :
    (network.send request).SendsAmid node [request] answer disturbed Q :=
  ⟨exchanged.result, congrArg (request :: ·) exchanged.requests, exchanged.disturbed,
    exchanged.final⟩

theorem attempt_sends
    (sent : (through (network.send (requestFor url))).Sends state [requestFor url] reply P) :
    (attempt network method url).Sends state [requestFor url] (verdict method reply) P := by
  unfold attempt
  cases reply with
  | error fault => exact sent.bind_error
  | ok response =>
      refine sent.after fun middle start => ?_
      rw [ofExcept_bind]
      exact .ofExcept start

theorem wait_sends (attempts : Nat) {P : ν × Session → Prop}
    (rests : attempts ≠ 0 → ∃ random, (through network.chance).Sends state [] (.ok random)
      fun middle => (through (network.pause (backoffDelay settings.backoff (.ofNat (attempts - 1))
        settings.jitter random))).Sends middle [] (.ok ()) P)
    (begins : attempts = 0 → P state) :
    (wait network settings method attempts).Sends state [] (.ok ()) P := by
  unfold wait
  split
  case isTrue later =>
    obtain ⟨random, rolled⟩ := rests later
    refine rolled.before fun middle pauses => ?_
    have logged : ∀ message, (Call.log .debug .client message).Sends middle [] (.ok ())
        (· = middle) := fun message => ⟨rfl, rfl, rfl, rfl⟩
    refine (logged _).before ?_
    rintro _ rfl
    exact pauses
  case isFalse first => exact .pure (begins (not_not.mp first))

/-- An open client makes another attempt: it waits, sends one request, and gets this reply. -/
structure Tries (network : Network ν) (settings : ClientSettings) (method url : String)
    (attempts : Nat) (state : ν × Session) (reply : Except Fault Http.Response)
    (P : ν × Session → Prop) : Prop where
  opened : state.2.closed = false
  waits : (wait network settings method attempts).Sends state [] (.ok ()) fun middle =>
    (attempt network method url).Sends middle [requestFor url] (verdict method reply) P

namespace Tries

variable (tries : Tries network settings method url attempts state reply P)

include tries

theorem attemptAll {requests : List Http.Request}
    {answer : Except Fault (Except (Option Fault) Value)} {Q : ν × Session → Prop}
    (rest : ∀ middle, P middle →
      (match verdict method reply with
        | .ok result => pure (.ok result)
        | .error fault =>
            if fault.isRefusal then Call.fail fault
            else attemptAll network settings method url left (attempts + 1) (some fault) :
        Call (ν × Session) (Except (Option Fault) Value)).Sends middle requests answer Q) :
    (attemptAll network settings method url (left + 1) attempts last).Sends state
      (requestFor url :: requests) answer Q := by
  have seen : (Call.read : Call (ν × Session) (ν × Session)).Sends state [] (.ok state)
      (· = state) := ⟨rfl, rfl, rfl, rfl⟩
  refine seen.before ?_
  rintro _ rfl
  dsimp only
  rw [tries.opened]
  exact tries.waits.before fun middle attempted => attempted.attempt.bind rest

theorem settled {answer : Except Fault Value} (settles : Settles method reply answer) :
    (Client.attemptAll network settings method url (left + 1) attempts last).Sends state
      [requestFor url] (answer.map .ok) P := by
  refine tries.attemptAll fun middle start => ?_
  rw [settles.verdict_eq]
  cases answer with
  | ok result => exact .pure start
  | error fault =>
      dsimp only
      rw [if_pos settles.isRefusal]
      exact .fail start

theorem failed {fault : Fault} (fails : Fails reply fault) {requests : List Http.Request}
    {answer : Except Fault (Except (Option Fault) Value)} {Q : ν × Session → Prop}
    (rest : ∀ middle, P middle →
      (Client.attemptAll network settings method url left (attempts + 1)
        (some fault)).Sends middle requests answer Q) :
    (Client.attemptAll network settings method url (left + 1) attempts last).Sends state
      (requestFor url :: requests) answer Q := by
  refine tries.attemptAll fun middle start => ?_
  rw [fails.verdict_eq]
  dsimp only
  rw [if_neg fails.not_isRefusal]
  exact rest middle start

end Tries

theorem attemptAll_ended (ended : left = 0 ∨ state.2.closed = true) (holds : P state) :
    (attemptAll network settings method url left attempts last).Sends state []
      (.ok (.error last)) P := by
  cases left with
  | zero => exact .pure holds
  | succ left =>
      have closed := ended.resolve_left (Nat.succ_ne_zero left)
      have seen : (Call.read : Call (ν × Session) (ν × Session)).Sends state [] (.ok state)
          (· = state) := ⟨rfl, rfl, rfl, rfl⟩
      refine seen.before ?_
      rintro _ rfl
      dsimp only
      rw [if_pos closed]
      exact .pure holds

/-- How a question ends of which all attempts were in vain. -/
def vain (method url : String) (last : Option Fault) : Except Fault Value := do
  let cause ← lastWords last
  throw (.transport method cause [("url", .text url)])

theorem vain_sends (last : Option Fault) (holds : P state) :
    (do
      let cause ← Call.ofExcept (lastWords last)
      Call.fail (.transport method cause [("url", .text url)]) :
      Call (ν × Session) Value).Sends state [] (vain method url last) P := by
  have ends := ofExcept_bind (σ := ν × Session) (lastWords last) fun cause =>
    (.error (.transport method cause [("url", .text url)]) : Except Fault Value)
  exact ends ▸ .ofExcept holds

theorem fetch_of_address {parameters : Members}
    (addressed : address settings method parameters = .ok url) :
    fetch network settings method parameters = (do
      match ← attemptAll network settings method url settings.attempts 0 none with
      | .ok result => return result
      | .error last =>
          Call.modify fun state => (state.1, { state.2 with healthy := false })
          let cause ← Call.ofExcept (lastWords last)
          Call.fail (.transport method cause [("url", .text url)])) := by
  rw [fetch, addressed]
  rfl

/-- A client comes to make its attempt number `k`: all before it fail. `R i` holds before attempt
number `i`. -/
structure Reaches (network : Network ν) (settings : ClientSettings) (method url : String)
    (replies : Nat → Except Fault Http.Response) (R : Nat → ν × Session → Prop) (k : Nat)
    (state : ν × Session) : Prop where
  start : R 0 state
  tries : ∀ i < k, ∀ middle, R i middle →
    Tries network settings method url i middle (replies i) (R (i + 1))
  failing : ∀ i < k, ∃ fault, Fails (replies i) fault

section Reaches

variable {R : Nat → ν × Session → Prop} {k : Nat}

theorem Reaches.attemptAll (reaches : Reaches network settings method url replies R k state)
    {requests : List Http.Request} {answer : Except Fault (Except (Option Fault) Value)}
    (rest : ∀ last middle, R k middle →
      (attemptAll network settings method url left k last).Sends middle requests answer P) :
    (attemptAll network settings method url (k + left) 0 last).Sends state
      (List.replicate k (requestFor url) ++ requests) answer P := by
  -- the last of the attempts that fail is taken off, and counts among those that are left
  induction k generalizing left requests with
  | zero =>
      rw [Nat.zero_add]
      exact rest last state reaches.start
  | succ k ih =>
      obtain ⟨fault, fails⟩ := reaches.failing k (Nat.lt_succ_self k)
      have reached : Reaches network settings method url replies R k state :=
        { start := reaches.start
          tries := fun i early => reaches.tries i (Nat.lt_succ_of_lt early)
          failing := fun i early => reaches.failing i (Nat.lt_succ_of_lt early) }
      rw [Nat.add_assoc, Nat.add_comm 1 left, List.replicate_succ', List.append_assoc]
      refine ih reached fun last middle here => ?_
      exact (reaches.tries k (Nat.lt_succ_self k) middle here).failed fails fun middle start =>
        rest _ middle start

variable {parameters : Members} (addressed : address settings method parameters = .ok url)
  (reaches : Reaches network settings method url replies R k state)
  (within : k < settings.attempts)

include addressed reaches within

theorem Reaches.settled {answer : Except Fault Value} (settles : Settles method (replies k) answer)
    (last : ∀ middle, R k middle →
      Tries network settings method url k middle (replies k) P) :
    (fetch network settings method parameters).Sends state
      (List.replicate (k + 1) (requestFor url)) answer P := by
  have attempted : (Client.attemptAll network settings method url settings.attempts 0 none).Sends
      state (List.replicate (k + 1) (requestFor url)) (answer.map .ok) P := by
    obtain ⟨more, enough⟩ := Nat.exists_eq_add_of_lt within
    rw [enough, Nat.add_assoc, List.replicate_succ']
    exact reaches.attemptAll fun _ middle here => (last middle here).settled settles
  rw [fetch_of_address addressed]
  cases answer with
  | error fault => exact attempted.bind_error
  | ok result => exact attempted.after fun middle start => .pure start

/-- The last attempt fails as well: it is the last one there is, or the client is closed. -/
theorem Reaches.failed {fault : Fault} (fails : Fails (replies k) fault)
    (last : ∀ middle, R k middle →
      Tries network settings method url k middle (replies k) (At given session count))
    (ended : settings.attempts = k + 1 ∨ session.closed = true) :
    (fetch network settings method parameters).Sends state
      (List.replicate (k + 1) (requestFor url))
      (vain method url (some fault))
      (At given { session with healthy := false } count) := by
  have attempted : (Client.attemptAll network settings method url settings.attempts 0 none).Sends
      state (List.replicate (k + 1) (requestFor url)) (.ok (.error (some fault)))
      (At given session count) := by
    obtain ⟨more, enough⟩ := Nat.exists_eq_add_of_lt within
    rw [enough, Nat.add_assoc, List.replicate_succ']
    refine reaches.attemptAll fun _ middle here => ?_
    refine (last middle here).failed fails fun middle start => ?_
    exact attemptAll_ended (ended.imp (fun all => by omega) fun closed => by rw [start.2, closed])
      start
  rw [fetch_of_address addressed]
  refine attempted.after fun middle start => ?_
  have ailing : (Call.modify fun state : ν × Session =>
      (state.1, { state.2 with healthy := false })).Sends middle [] (.ok ())
      (At given { session with healthy := false } count) :=
    ⟨rfl, rfl, rfl, start.1, congrArg ({ · with healthy := false }) start.2⟩
  exact ailing.before fun middle start => vain_sends _ start

end Reaches

section Gives

variable (gives : network.Gives replies given)

include gives

theorem gives_tries (opened : session.closed = false) (start : At given session count state) :
    Tries network settings method url attempts state (replies count)
      (At given session (count + 1)) := by
  have waits : (wait network settings method attempts).Sends state [] (.ok ())
      (At given session count) := by
    refine wait_sends attempts (fun _ => ?_) fun _ => start
    obtain ⟨random, rolled⟩ := gives.chance count state.1 start.1
    refine ⟨random, (through_sends start.2 rolled.amid).mono fun middle start => ?_⟩
    exact through_sends start.2 (gives.pause _ count middle.1 start.1).amid
  refine ⟨by rw [start.2, opened], waits.mono fun middle start => ?_⟩
  have exchanged := gives.exchange (requestFor url) count middle.1 start.1
  exact attempt_sends (through_sends start.2 (send_amid exchanged.amid))

theorem gives_reaches (opened : session.closed = false) (start : At given session 0 state) {k : Nat}
    (failing : ∀ i < k, ∃ fault, Fails (replies i) fault) :
    Reaches network settings method url replies (At given session) k state where
  start := start
  tries _ _ _ here := gives_tries gives opened here
  failing := failing

variable {retries : Nat} {parameters : Members}

theorem fetch_answers (patience : settings.retries = .ofNat retries)
    (addressed : address settings method parameters = .ok url) (opened : session.closed = false)
    (start : At given session 0 state) {k : Nat} (within : k ≤ retries)
    (failing : ∀ i < k, ∃ fault, Fails (replies i) fault) {answer : Except Fault Value}
    (settles : Settles method (replies k) answer) :
    (fetch network settings method parameters).Sends state
      (List.replicate (k + 1) (requestFor url)) answer (At given session (k + 1)) := by
  have early : k < settings.attempts := by
    rw [attempts_ofNat patience]
    exact Nat.lt_succ_of_le within
  exact (gives_reaches gives opened start failing).settled addressed early settles
    fun middle here => gives_tries gives opened here

theorem fetch_exhausts (patience : settings.retries = .ofNat retries)
    (addressed : address settings method parameters = .ok url) (opened : session.closed = false)
    (start : At given session 0 state)
    (failing : ∀ i < retries, ∃ fault, Fails (replies i) fault) {fault : Fault}
    (fails : Fails (replies retries) fault) :
    (fetch network settings method parameters).Sends state
      (List.replicate (retries + 1) (requestFor url))
      (vain method url (some fault))
      (At given { session with healthy := false } (retries + 1)) := by
  have all := attempts_ofNat patience
  exact (gives_reaches gives opened start failing).failed addressed (all ▸ Nat.lt_succ_self _)
    fails (fun middle here => gives_tries gives opened here) (.inl all)

end Gives

end Attempts

/-!
## Health
-/

section Health

variable {ν : Type} {network : Network ν} {settings : ClientSettings}

/-- What is done with a client, or around it: it asks a question, it is closed, or something becomes
of the network. -/
inductive Use (network : Network ν) (settings : ClientSettings) :
    ν × Session → ν × Session → Prop where
  | asked (method : String) (parameters : Members) (state : ν × Session) :
      Use network settings state (fetch network settings method parameters state).state
  | closed (node : ν) (session : Session) :
      Use network settings (node, session) (node, session.close)
  | moved (node node' : ν) (session : Session) :
      Use network settings (node, session) (node', session)

/-- A client that is not healthy does not recover. -/
def Ailing (before : ν × Session) (_ : Trace) (after : ν × Session) : Prop :=
  before.2.healthy = false → after.2.healthy = false

theorem chaining_ailing : Chaining (Ailing : ν × Session → Trace → ν × Session → Prop) where
  refl _ ill := ill
  trans first second ill := second (first ill)

theorem fetch_ailing (network : Network ν) (settings : ClientSettings) (method : String)
    (parameters : Members) : Keeps Ailing (fetch network settings method parameters) := by
  have through {α : Type} (call : Call ν α) : Keeps Ailing (through call) :=
    through_keeps (S := fun _ _ _ => True) chaining_ailing (fun _ _ _ _ _ => trivial)
      (fun _ ill => ill) fun _ _ => rfl
  exact fetch_keeps (closed_keeping chaining_ailing) (Keeps.read chaining_ailing)
    (fun _ => through _) (fun _ => through _) (through _) (fun _ => Keeps.note fun _ ill => ill)
    (Keeps.modify fun _ _ => rfl) method parameters

theorem Use.unhealthy {state final : ν × Session} (use : Use network settings state final)
    (ill : state.2.healthy = false) : final.2.healthy = false := by
  cases use with
  | asked method parameters => exact fetch_ailing network settings method parameters (ends _ _) ill
  | closed => rfl
  | moved => exact ill

theorem unhealthy_for_good {state final : ν × Session}
    (later : Relation.ReflTransGen (Use network settings) state final)
    (ill : state.2.healthy = false) : ¬ final.2.isHealthy := by
  have still : final.2.healthy = false := by
    induction later with
    | refl => exact ill
    | tail _ use ih => exact use.unhealthy ih
  simp [Session.isHealthy, still]

end Health

/-!
## How often a question is asked
-/

/-- The fault in which a question ends, by that in which the last attempt failed: one of the
connection that says what was wrong, unless nothing but null was raised; and where there are no words
for what was wrong, only that. -/
inductive InVain (method url : String) : Fault → Fault → Prop where
  | told {fault : Fault} {cause : String} (worded : fault.words? = some cause)
      (wordy : fault ≠ .raised .null) :
      InVain method url fault (.transport method cause [("url", .text url)])
  | nothing :
      InVain method url (.raised .null) (.transport method "client closed" [("url", .text url)])
  | silent {fault : Fault} (wordless : fault.words? = none) : InVain method url fault .wordless

theorem lastWords_of_ne {fault : Fault} (wordy : fault ≠ .raised .null) :
    lastWords (some fault) = fault.message := by
  unfold lastWords
  split
  · next impossible => cases impossible
  · next same =>
    cases same
    exact (wordy rfl).elim
  · next same =>
    cases same
    rfl

theorem vain_ends (method url : String) (fault : Fault) :
    ∃ ended, vain method url (some fault) = .error ended ∧ InVain method url fault ended := by
  by_cases null : fault = .raised .null
  · subst null
    exact ⟨_, rfl, .nothing⟩
  · unfold vain
    rw [lastWords_of_ne null]
    cases worded : fault.words? with
    | some cause =>
        rw [Fault.message_of_some worded]
        exact ⟨_, rfl, .told worded null⟩
    | none =>
        rw [Fault.message_of_none worded]
        exact ⟨_, rfl, .silent worded⟩

/-- The first reply that settles a question within the retries is answered, after as many requests
as it takes, and the client stays as healthy as it is. Where there is none every retry is used up,
the client is unhealthy from then on, and the fault says what was wrong with the last reply, as far as
there are words for it. No body gets so far that has neither an error nor a result. -/
theorem fetch_retries {ν : Type} {network : Network ν} {replies : Nat → Except Fault Http.Response}
    {given : Nat → ν → Prop} (gives : network.Gives replies given) {settings : ClientSettings}
    {retries : Nat} (patience : settings.retries = .ofNat retries) {method : String}
    {parameters : Members} {url : String}
    (addressed : address settings method parameters = .ok url) {node : ν} {session : Session}
    (start : given 0 node) (opened : session.closed = false) :
    let asked := fetch network settings method parameters (node, session)
    (∀ k ≤ retries, (∀ i < k, ¬ ∃ answer, Settles method (replies i) answer) →
      ∀ answer, Settles method (replies k) answer →
        asked.result = answer ∧ asked.state.2 = session ∧
          asked.trace.requests = List.replicate (k + 1) (requestFor url)) ∧
      ((∀ i ≤ retries, ¬ ∃ answer, Settles method (replies i) answer) →
        asked.trace.requests = List.replicate (retries + 1) (requestFor url) ∧
          (∀ later, Relation.ReflTransGen (Use network settings) asked.state later →
            ¬ later.2.isHealthy) ∧
          ∃ fault ended, Fails (replies retries) fault ∧ asked.result = .error ended ∧
            InVain method url fault ended ∧ (ended.isTransport → ended.retryable? = some true)) ∧
      ∀ response body, conclusive response = .ok body →
        (body.member "error").isRecord ∨ (body.member "result").isRecord := by
  have state : At given session 0 (node, session) := ⟨start, rfl⟩
  refine ⟨fun k within before answer settles => ?_, fun unsettled => ?_, fun _ _ =>
    conclusive_tells⟩
  · have sends := fetch_answers gives patience addressed opened state within
      (fun i early => not_settles_iff.mp (before i early)) settles
    exact ⟨sends.result, sends.final.2, sends.requests⟩
  · obtain ⟨fault, fails⟩ := not_settles_iff.mp (unsettled retries le_rfl)
    have sends := fetch_exhausts gives patience addressed opened state
      (fun i early => not_settles_iff.mp (unsettled i early.le)) fails
    obtain ⟨ended, same, inVain⟩ := vain_ends method url fault
    refine ⟨sends.requests, fun later uses => ?_, fault, ended, fails, sends.result.trans same,
      inVain, fun transport => ?_⟩
    · exact unhealthy_for_good uses (congrArg Session.healthy sends.final.2)
    · cases inVain with
      | told => rfl
      | nothing => rfl
      | silent => cases transport

end Chain.Client

/-!
## Replies by script
-/

namespace Value

mutual

theorem eq_of_same : ∀ {left right : Value}, left.same right → left = right
  | .null, .null, _ => rfl
  | .flag _, .flag _, same => congrArg flag (eq_of_beq same)
  | .number _, .number _, same => congrArg number (eq_of_beq same)
  | .text _, .text _, same => congrArg text (eq_of_beq same)
  | .bytes _, .bytes _, same => congrArg bytes (eq_of_beq same)
  | .list _, .list _, same => congrArg list (eq_of_sameItems same)
  | .record _, .record _, same => congrArg record (eq_of_sameMembers same)

theorem eq_of_sameItems : ∀ {lefts rights : List Value}, sameItems lefts rights → lefts = rights
  | [], [], _ => rfl
  | _ :: _, _ :: _, same => by
      rw [sameItems, Bool.and_eq_true] at same
      rw [eq_of_same same.1, eq_of_sameItems same.2]

theorem eq_of_sameMembers :
    ∀ {lefts rights : List (String × Value)}, sameMembers lefts rights → lefts = rights
  | [], [], _ => rfl
  | (_, _) :: _, (_, _) :: _, same => by
      rw [sameMembers, Bool.and_eq_true, Bool.and_eq_true, beq_iff_eq] at same
      rw [same.1.1, eq_of_same same.1.2, eq_of_sameMembers same.2]

end

end Value

theorem Json.parse?_eq_of_same {text : String} {value : Value}
    (told : (parse? text).any value.same) : parse? text = some value := by
  obtain ⟨_, found, same⟩ := (Option.any_eq_true _ _).mp told
  rw [found, Value.eq_of_same same]

namespace Network

def Reply.answer : Reply → Except Fault Http.Response
  | .response answer => .ok answer
  | .fault reason => .error reason
  | .silence => .error aborted

/-- The replies of a script, one by one. -/
def scripted (turns : List Turn) (count : Nat) : Except Fault Http.Response :=
  match turns[count]? with
  | none => .error unscripted
  | some turn => turn.reply.answer

/-- So many turns of a script are over, and the client is not about to be closed. -/
def Queue.After (turns : List Turn) (count : Nat) (state : Queue) : Prop :=
  state.turns = turns.drop count ∧ state.closing = false

theorem queue_exchange {turns : List Turn} {count : Nat} {node : Queue} (request : Http.Request)
    (left : node.turns = turns.drop count)
    (unwoken : node.closing = true → ∀ turn, turns[count]? = some turn → turn.reply ≠ .silence) :
    (queue.exchange request).SendsAmid node [] (scripted turns count)
      (turns[count]?.any Turn.closes) (· = { node with turns := turns.drop (count + 1) }) := by
  obtain ⟨_, closing, chance⟩ := node
  obtain rfl : _ = turns.drop count := left
  cases remaining : turns.drop count with
  | nil =>
      have past : turns.length ≤ count := List.drop_eq_nil_iff.mp remaining
      have none : turns[count]? = none := List.getElem?_eq_none past
      have after : turns.drop (count + 1) = [] :=
        List.drop_eq_nil_iff.mpr (past.trans (Nat.le_succ count))
      rw [scripted, none, after]
      exact ⟨rfl, rfl, rfl, rfl⟩
  | cons turn rest =>
      have next : turns[count]? = some turn := by
        rw [← List.head?_drop, remaining, List.head?_cons]
      have after : turns.drop (count + 1) = rest := by
        rw [← List.tail_drop, remaining, List.tail_cons]
      have speaks := fun woken => unwoken woken turn next
      rw [scripted, next, after]
      -- only a silent turn that does not close the client waits to be woken
      obtain ⟨reply, closes⟩ := turn
      cases closes <;> cases reply <;> cases closing <;>
        first
          | exact ⟨rfl, rfl, rfl, rfl⟩
          | exact (speaks rfl rfl).elim

theorem queue_pause (delay : Number) (node : Queue) :
    (queue.pause delay).SendsAmid node [] (.ok ()) (node.closing && !delay.atMost 0)
      (· = { node with closing := node.closing && delay.atMost 0 }) := by
  obtain ⟨turns, closing, chance⟩ := node
  change (if delay.atMost 0 then pure () else Queue.wait : Call Queue Unit).SendsAmid _ _ _ _ _
  cases delay.atMost 0 <;> cases closing <;> exact ⟨rfl, rfl, rfl, rfl⟩

theorem queue_gives {turns : List Turn} (apart : ∀ turn ∈ turns, turn.closes = false) :
    queue.Gives (scripted turns) (Queue.After turns) where
  exchange := by
    rintro request count node ⟨left, unclosed⟩
    have exchanged := queue_exchange request left fun closing => by simp [unclosed] at closing
    have calm : turns[count]?.any Turn.closes = false := by
      rw [Option.any_eq_false_iff_get]
      exact fun found => apart _ (List.mem_of_getElem? (Option.some_get found).symm)
    refine ⟨exchanged.result, exchanged.requests, exchanged.disturbed.trans calm, ?_⟩
    rw [exchanged.final]
    exact ⟨rfl, unclosed⟩
  pause := by
    rintro delay count node ⟨left, unclosed⟩
    have paused := queue_pause delay node
    rw [unclosed] at paused
    refine ⟨paused.result, paused.requests, paused.disturbed, ?_⟩
    rw [paused.final]
    exact ⟨left, rfl⟩
  chance := by
    rintro count node after
    exact ⟨node.chance, rfl, rfl, rfl, after⟩

end Network

theorem Except.ok_of_toOption {ε α : Type} {result : Except ε α} {value : α}
    (told : result.toOption = some value) : result = .ok value := by
  cases result with
  | ok other => cases told; rfl
  | error fault => cases told

namespace Chain.Client

open Network

def stubborn (retries : Nat) : ClientSettings where
  rpcUrl := "http://[::1]:26657"
  retries := .ofNat retries
  backoff := 0
  jitter := 0

/-- A body with both an error and a result. -/
def refusing : String :=
  "\x7b\"error\":\x7b\"code\":5,\"message\":\"no such height\"\x7d,\"result\":\x7b\x7d\x7d"

/-- A node that cannot be reached, then is behind a gateway without one, and then refuses. -/
def late : List Turn :=
  [{ reply := .fault (.other "connection refused") },
    { reply := .response { status := 502, body := .ok "<html>" } },
    { reply := .response { status := 500, body := .ok refusing } }]

theorem stubborn_addressed (retries : Nat) :
    address (stubborn retries) "status" [] = .ok "http://[::1]:26657/status" := by
  have same : address (stubborn retries) "status" [] = address (stubborn 0) "status" [] := by
    simp only [address, stubborn]
  have spelled : (address (stubborn 0) "status" []).toOption =
      some "http://[::1]:26657/status" := by decide +kernel
  exact same.trans (Except.ok_of_toOption spelled)

theorem late_fails : (∀ i < 2, ¬ ∃ answer, Settles "status" (scripted late i) answer) ∧
    Fails (scripted late 1) (.other "HTTP 502: unexpected body") := by
  have second : Fails (scripted late 1) (.other "HTTP 502: unexpected body") := by
    have words : Number.text 502 = "502" := by decide +kernel
    have unread : Json.parse? "<html>" = none := Option.isNone_iff_eq_none.mp (by decide +kernel)
    have fails : Fails (scripted late 1) (.other s!"HTTP {Number.text 502}: unexpected body") :=
      .unexpected fun members parses => by rw [unread] at parses; cases parses
    rwa [words] at fails
  refine ⟨fun i early => not_settles_iff.mpr ?_, second⟩
  match i, early with
  | 0, _ => exact ⟨_, .raised Bool.false_ne_true⟩
  | 1, _ => exact ⟨_, second⟩

theorem late_settles :
    Settles "status" (scripted late 2) (.error (.refused "status" 5 "no such height" [])) := by
  have parses : Json.parse? refusing = some (.record
      [("error", .record [("code", .number 5), ("message", .text "no such height")]),
        ("result", .record [])]) :=
    Json.parse?_eq_of_same (by decide +kernel)
  exact .error parses rfl

theorem fetch_retries_of_late :
    let asked (retries : Nat) :=
      fetch queue (stubborn retries) "status" [] ({ turns := late, chance := 0 }, {})
    ((asked 2).result = .error (.refused "status" 5 "no such height" []) ∧
        (asked 2).state.2.isHealthy ∧ (asked 2).trace.requests.length = 3) ∧
      (asked 1).result = .error (.transport "status" "HTTP 502: unexpected body"
        [("url", .text "http://[::1]:26657/status")]) ∧
        ¬ (asked 1).state.2.isHealthy ∧ (asked 1).trace.requests.length = 2 := by
  intro asked
  have apart : ∀ turn ∈ late, turn.closes = false := by decide
  have start : Queue.After late 0 { turns := late, chance := 0 } := ⟨rfl, rfl⟩
  have opened : ({} : Session).closed = false := rfl
  have patience (retries : Nat) : (stubborn retries).retries = .ofNat retries := rfl
  have after (retries : Nat) := fetch_retries (queue_gives apart) (patience retries)
    (stubborn_addressed retries) start opened
  -- with two retries the third reply is waited for, with one it is not
  constructor
  · obtain ⟨result, session, requests⟩ :=
      (after 2).1 2 le_rfl late_fails.1 _ late_settles
    exact ⟨result, by rw [session]; rfl, by rw [requests, List.length_replicate]⟩
  · obtain ⟨requests, unhealthy, fault, ended, fails, result, inVain, -⟩ :=
      (after 1).2.1 fun i within => late_fails.1 i (Nat.lt_succ_of_le within)
    have same : fault = .other "HTTP 502: unexpected body" := by
      have verdicts := (fails.verdict_eq "status").symm.trans (late_fails.2.verdict_eq "status")
      exact Except.error.inj verdicts
    subst same
    refine ⟨?_, unhealthy _ .refl, by rw [requests, List.length_replicate]⟩
    cases inVain with
    | told worded => cases worded; exact result
    | silent wordless => cases wordless

/-- Of a fetch that raises null last no words are left, and the client is called closed, which it is
not. -/
theorem not_fetch_carries_last_words :
    ¬ ∀ (turns : List Turn) (retries : Nat) (fault : Fault) (words : String),
      (∀ turn ∈ turns, turn.closes = false) →
      (∀ i ≤ retries, ∃ fault, Fails (scripted turns i) fault) →
      Fails (scripted turns retries) fault → fault.words? = some words →
      (fetch queue (stubborn retries) "status" [] ({ turns, chance := 0 }, {})).result =
        .error (.transport "status" words
          [("url", .text "http://[::1]:26657/status")]) := by
  intro carried
  let turns : List Turn :=
    [{ reply := .fault (.other "refused") }, { reply := .fault (.raised .null) }]
  have apart : ∀ turn ∈ turns, turn.closes = false := by decide
  have second : Fails (scripted turns 1) (.raised .null) := .raised Bool.false_ne_true
  have failing : ∀ i ≤ 1, ∃ fault, Fails (scripted turns i) fault := fun i within =>
    match i, within with
    | 0, _ => ⟨_, .raised Bool.false_ne_true⟩
    | 1, _ => ⟨_, second⟩
  have told := carried turns 1 (.raised .null) "null" apart failing second rfl
  have start : At (Queue.After turns) {} 0 ({ turns, chance := 0 }, {}) := ⟨⟨rfl, rfl⟩, rfl⟩
  have patience : (stubborn 1).retries = .ofNat 1 := rfl
  have ended := fetch_exhausts (queue_gives apart) patience (stubborn_addressed 1) rfl start
    (fun i early => failing i early.le) second
  rw [ended.result] at told
  injection told with told
  injection told with _ words
  exact absurd words (by decide)

end Chain.Client

end RollCall
