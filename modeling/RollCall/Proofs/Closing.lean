import RollCall.Proofs.Retrying

/-!
# Closing a client

A client can be closed whenever it waits: for a reply, or in the pause after a reply that settles
nothing. Whatever it is asked from then on fails without a request. The call that it is busy with
sends nothing more if it waits for a reply. Woken from a pause it sends the request that it was
waiting to send, as only the start of an attempt is guarded. In both cases the reply to the last
request decides how the call ends.
-/

set_option autoImplicit false

namespace RollCall

open Call

namespace Chain

/-- What a client waits for: a reply, or the end of the pause after it. -/
inductive Moment where
  | reply (count : Nat)
  | pause (count : Nat)
deriving DecidableEq

namespace Moment

/-- Moments come in this order. -/
def time : Moment → Nat
  | reply count => 2 * count
  | pause count => 2 * count + 1

/-- How many requests are sent by then. -/
def sent : Moment → Nat
  | reply count => count + 1
  | pause count => count + 1

/-- How many requests are sent by a client that is closed then, once it is closed. -/
def late : Moment → Nat
  | reply _ => 0
  | pause _ => 1

/-- The reply that the client is waiting for, or is about to send a request for. -/
def awaited : Moment → Nat
  | reply count => count
  | pause count => count + 1

theorem sent_add_late (moment : Moment) : moment.sent + moment.late = moment.awaited + 1 := by
  cases moment <;> rfl

end Moment

end Chain

open Chain (ClientSettings Moment)

/-- A network whose replies are set and which closes the client at set moments: in a state of
`phase moment` the client comes to wait for `moment`. -/
structure Network.Closes {ν : Type} (network : Network ν) (settings : ClientSettings)
    (replies : Nat → Except Fault Http.Response) (closing : Moment → Bool)
    (phase : Moment → ν → Prop) : Prop where
  exchange : ∀ request count node, phase (.reply count) node →
    (network.exchange request).SendsAmid node [] (replies count) (closing (.reply count))
      (phase (.pause count))
  pause : ∀ count node, phase (.pause count) node →
    ∃ random, network.chance.Sends node [] (.ok random) fun rolled =>
      (network.pause (backoffDelay settings.backoff (.ofNat count) settings.jitter
        random)).SendsAmid rolled [] (.ok ()) (closing (.pause count)) (phase (.reply (count + 1)))

namespace Chain

/-- What a question is called in a request. -/
def Question.method : Question → String
  | .status => "status"
  | .blockResults _ => "block_results"
  | .commit _ => "commit"
  | .query _ _ => "abci_query"

/-- The parameters of a question. -/
def Question.parameters : Question → Members
  | .status => []
  | .blockResults height => [("height", .number height)]
  | .commit height => [("height", .number height)]
  | .query path data => Client.queryParameters path data

namespace Client

variable {ν : Type} {network : Network ν} {settings : ClientSettings}

theorem ask_eq (question : Question) :
    ask network settings question =
      (do return question.read (← fetch network settings question.method question.parameters)) := by
  cases question <;> rfl

/-!
## A closed client
-/

section Closed

variable {method url : String} {parameters : Members} {state : ν × Session}

theorem fetch_of_closed (closed : state.2.closed = true)
    (addressed : address settings method parameters = .ok url) :
    (fetch network settings method parameters).Sends state []
      (.error (.transport method "client closed" [("url", .text url)]))
      (· = (state.1, { state.2 with healthy := false })) := by
  have given_up : (attemptAll network settings method url settings.attempts 0 none).Sends state []
      (.ok (.error none)) (· = state) := attemptAll_ended (.inr closed) rfl
  rw [fetch_of_address addressed]
  refine given_up.before ?_
  rintro state rfl
  have ailing : (Call.modify fun state : ν × Session =>
      (state.1, { state.2 with healthy := false })).Sends state [] (.ok ())
      (· = (state.1, { state.2 with healthy := false })) := ⟨rfl, rfl, rfl, rfl⟩
  exact ailing.before fun middle same => vain_sends none same

/-- A client that is closed stays so. -/
def Shut (before : ν × Session) (_ : Trace) (after : ν × Session) : Prop :=
  before.2.closed = true → after.2.closed = true

theorem chaining_shut : Chaining (Shut : ν × Session → Trace → ν × Session → Prop) where
  refl _ shut := shut
  trans first second shut := second (first shut)

theorem fetch_shut (network : Network ν) (settings : ClientSettings) (method : String)
    (parameters : Members) : Keeps Shut (fetch network settings method parameters) := by
  have through {α : Type} (call : Call ν α) : Keeps Shut (through call) :=
    through_keeps (S := fun _ _ _ => True) chaining_shut (fun _ _ _ _ _ => trivial)
      (fun _ shut => shut) fun _ _ => rfl
  exact fetch_keeps (closed_keeping chaining_shut) (Keeps.read chaining_shut)
    (fun _ => through _) (fun _ => through _) (through _) (fun _ => Keeps.note fun _ shut => shut)
    (Keeps.modify fun _ shut => shut) method parameters

theorem Use.shut {state final : ν × Session} (use : Use network settings state final)
    (closed : state.2.closed = true) : final.2.closed = true := by
  cases use with
  | asked method parameters => exact fetch_shut network settings method parameters (ends _ _) closed
  | closed => rfl
  | moved => exact closed

theorem closed_for_good {state final : ν × Session}
    (later : Relation.ReflTransGen (Use network settings) state final)
    (closed : state.2.closed = true) : final.2.closed = true := by
  induction later with
  | refl => exact closed
  | tail _ use ih => exact use.shut ih

/-- A client whose calls all fail, without a request or any other effect on the network. -/
structure Silent (network : Network ν) (settings : ClientSettings) (state : ν × Session) :
    Prop where
  fetch : ∀ {method parameters url}, address settings method parameters = .ok url →
    (fetch network settings method parameters).Sends state []
      (.error (.transport method "client closed" [("url", .text url)])) (·.1 = state.1)
  ask : ∀ {question url}, address settings question.method question.parameters = .ok url →
    (ask network settings question).Sends state []
      (.error (.transport question.method "client closed" [("url", .text url)])) (·.1 = state.1)

theorem silent_of_closed (closed : state.2.closed = true) : Silent network settings state where
  fetch addressed := (fetch_of_closed closed addressed).mono fun _ same => by rw [same]
  ask {question url} addressed := by
    rw [ask_eq]
    refine Sends.bind_error ((fetch_of_closed closed addressed).mono fun _ same => ?_)
    rw [same]

end Closed

/-!
## A client that is closed while it is busy
-/

section Busy

variable {replies : Nat → Except Fault Http.Response} {closing : Moment → Bool}
  {phase : Moment → ν → Prop}

/-- A client that goes on until some moment is closed for the first time then: no reply has settled
its question, and attempts are left. -/
structure ClosedAt (closing : Moment → Bool) (replies : Nat → Except Fault Http.Response)
    (attempts : Nat) (moment : Moment) : Prop where
  closes : closing moment = true
  first : ∀ earlier : Moment, earlier.time < moment.time → closing earlier = false
  failing : ∀ i < moment.awaited, ∃ fault, Fails (replies i) fault
  pending : moment.awaited < attempts

/-- Whether a client is woken from the pause before an attempt. -/
def wokenFor (closing : Moment → Bool) : Nat → Bool
  | 0 => false
  | count + 1 => closing (.pause count)

/-- Whether a client is closed during an attempt, the pause before it included. -/
def closedIn (closing : Moment → Bool) (count : Nat) : Bool :=
  wokenFor closing count || closing (.reply count)

theorem afterCall_afterCall (later disturbed : Bool) (session : Session) :
    afterCall later (afterCall disturbed session) = afterCall (disturbed || later) session := by
  cases disturbed <;> cases later <;> rfl

theorem ClosedAt.closedIn {attempts : Nat} {moment : Moment}
    (closed : ClosedAt closing replies attempts moment) :
    closedIn closing moment.awaited = true := by
  have closes := closed.closes
  cases moment with
  | reply count => exact Bool.or_eq_true_iff.mpr (.inr closes)
  | pause count => exact Bool.or_eq_true_iff.mpr (.inl closes)

theorem ClosedAt.not_closedIn {attempts i : Nat} {moment : Moment}
    (closed : ClosedAt closing replies attempts moment) (early : i < moment.awaited) :
    Client.closedIn closing i = false := by
  have replied : (Moment.reply i).time < moment.time := by
    cases moment <;> simp only [Moment.time, Moment.awaited] at early ⊢ <;> omega
  have undisturbed : wokenFor closing i = false := by
    cases i with
    | zero => rfl
    | succ i =>
        refine closed.first _ (Nat.lt_of_le_of_lt ?_ replied)
        simp only [Moment.time]
        omega
  exact Bool.or_eq_false_iff.mpr ⟨undisturbed, closed.first _ replied⟩

/-- An attempt is about to be made by a client that is as it was. -/
def About (phase : Moment → ν → Prop) (session : Session) : Nat → ν × Session → Prop
  | 0 => At (phase ∘ .reply) session 0
  | count + 1 => At (phase ∘ .pause) session count

variable {session : Session} {count : Nat} {state : ν × Session} {method url : String}

theorem closes_waits (closes : network.Closes settings replies closing phase)
    (about : About phase session count state) :
    (wait network settings method count).Sends state [] (.ok ())
      (At (phase ∘ .reply) (afterCall (wokenFor closing count) session) count) := by
  cases count with
  | zero => exact wait_sends 0 (fun late => (late rfl).elim) fun _ => about
  | succ count =>
      refine wait_sends (count + 1) (fun _ => ?_) fun none => (Nat.succ_ne_zero count none).elim
      obtain ⟨random, rolled⟩ := closes.pause count state.1 about.1
      refine ⟨random, (through_sends about.2 rolled.amid).mono fun middle paused => ?_⟩
      exact through_sends paused.2 paused.1

theorem closes_tries (closes : network.Closes settings replies closing phase)
    (opened : session.closed = false) (about : About phase session count state) :
    Tries network settings method url count state (replies count)
      (At (phase ∘ .pause) (afterCall (closedIn closing count) session) count) where
  opened := by
    cases count <;> rw [about.2, opened]
  waits := by
    refine (closes_waits closes about).mono fun middle ready => ?_
    have exchanged := closes.exchange (requestFor url) count middle.1 ready.1
    rw [closedIn, ← afterCall_afterCall]
    exact attempt_sends (through_sends ready.2 (send_amid exchanged))

section Ends

variable (closes : network.Closes settings replies closing phase)
  (opened : session.closed = false) (about : About phase session 0 state) {moment : Moment}
  (closed : ClosedAt closing replies settings.attempts moment)

include closes opened closed

theorem closes_last {middle : ν × Session} (about : About phase session moment.awaited middle) :
    Tries network settings method url moment.awaited middle (replies moment.awaited)
      (At (phase ∘ .pause) session.close moment.awaited) := by
  have tries : Tries network settings method url _ _ _ _ := closes_tries closes opened about
  rw [closed.closedIn] at tries
  exact tries

include about

theorem closes_reaches :
    Reaches network settings method url replies (About phase session) moment.awaited state where
  start := about
  tries i early middle about := by
    have tries : Tries network settings method url _ _ _ _ := closes_tries closes opened about
    rw [closed.not_closedIn early] at tries
    exact tries
  failing := closed.failing

variable {parameters : Members} (addressed : address settings method parameters = .ok url)

include addressed

theorem closes_settled {answer : Except Fault Value}
    (settles : Settles method (replies moment.awaited) answer) :
    (fetch network settings method parameters).Sends state
      (List.replicate (moment.awaited + 1) (requestFor url)) answer (·.2 = session.close) :=
  ((closes_reaches closes opened about closed).settled addressed closed.pending settles
    fun _ => closes_last closes opened closed).mono fun _ final => final.2

theorem closes_failed {fault : Fault} (fails : Fails (replies moment.awaited) fault) :
    (fetch network settings method parameters).Sends state
      (List.replicate (moment.awaited + 1) (requestFor url))
      (vain method url (some fault)) (·.2 = session.close) :=
  ((closes_reaches closes opened about closed).failed addressed closed.pending fails
    (fun _ => closes_last closes opened closed) (.inr rfl)).mono fun _ final => final.2

end Ends

end Busy

/-- A client that is closed while it is busy sends what it has sent by then, and one more request
if it is woken from a pause. The reply to the last request decides: the call ends as the reply says
if it settles the question, and otherwise in a fault of the connection, unless there are no words for
what was wrong with the reply. Each time the client is asked from then on, whatever becomes of the
network, it says that it is closed and sends nothing. -/
theorem fetch_closes {ν : Type} (network : Network ν) (settings : ClientSettings) :
    (∀ replies closing phase, network.Closes settings replies closing phase →
      ∀ method parameters url, address settings method parameters = .ok url →
      ∀ node session, phase (.reply 0) node → session.closed = false →
      ∀ moment, ClosedAt closing replies settings.attempts moment →
        let asked := fetch network settings method parameters (node, session)
        asked.trace.requests =
            List.replicate moment.sent (requestFor url) ++
              List.replicate moment.late (requestFor url) ∧
          (∀ answer, Settles method (replies moment.awaited) answer → asked.result = answer) ∧
          (∀ fault, Fails (replies moment.awaited) fault →
            ∃ ended, asked.result = .error ended ∧ InVain method url fault ended) ∧
          asked.state.2 = session.close) ∧
      ∀ before later : ν × Session, before.2.closed = true →
        Relation.ReflTransGen (Use network settings) before later →
          Silent network settings later := by
  constructor
  · intro replies closing phase closes method parameters url addressed node session start opened
      moment closed
    have about : About phase session 0 (node, session) := ⟨start, rfl⟩
    have settled {answer} (settles : Settles method (replies moment.awaited) answer) :=
      closes_settled closes opened about closed addressed settles
    have failed {fault} (fails : Fails (replies moment.awaited) fault) :=
      closes_failed closes opened about closed addressed fails
    have ended : ∃ answer, (fetch network settings method parameters).Sends (node, session)
        (List.replicate (moment.awaited + 1) (requestFor url)) answer (·.2 = session.close) := by
      rcases settles_or_fails method (replies moment.awaited) with ⟨_, settles⟩ | ⟨_, fails⟩
      · exact ⟨_, settled settles⟩
      · exact ⟨_, failed fails⟩
    obtain ⟨_, sends⟩ := ended
    rw [List.replicate_append_replicate, moment.sent_add_late]
    refine ⟨sends.requests, fun _ settles => (settled settles).result,
      fun fault fails => ?_, sends.final⟩
    obtain ⟨ended, same, inVain⟩ := vain_ends method url fault
    exact ⟨ended, (failed fails).result.trans same, inVain⟩
  · intro before later closed uses
    exact silent_of_closed (closed_for_good uses closed)

end Client

end Chain

/-!
## Closing by script
-/

namespace Network

/-- When a queue closes its client: with the turns that do so, and in the first pause if the client
is to be woken. -/
def Queue.closings (turns : List Turn) (woken : Bool) : Moment → Bool
  | .reply count => turns[count]?.any Turn.closes
  | .pause count => woken && count == 0

/-- The queue when its client comes to wait. -/
def Queue.Comes (turns : List Turn) (woken : Bool) (chance : Number) : Moment → Queue → Prop
  | .reply count, node => node.turns = turns.drop count ∧
      node.closing = (woken && count == 0) ∧ node.chance = chance
  | .pause count, node => node.turns = turns.drop (count + 1) ∧
      node.closing = (woken && count == 0) ∧ node.chance = chance

theorem queue_closes {turns : List Turn} {woken : Bool} {chance : Number}
    {settings : ClientSettings}
    (speaks : woken = true → ∀ turn, turns[0]? = some turn → turn.reply ≠ .silence)
    (patient : woken = true →
      (backoffDelay settings.backoff (.ofNat 0) settings.jitter chance).atMost 0 = false) :
    queue.Closes settings (scripted turns) (Queue.closings turns woken)
      (Queue.Comes turns woken chance) where
  exchange := by
    rintro request count node ⟨left, waking, rolled⟩
    have unwoken : node.closing = true →
        ∀ turn, turns[count]? = some turn → turn.reply ≠ .silence := by
      intro closing
      obtain ⟨woken, first⟩ := Bool.and_eq_true_iff.mp (waking.symm.trans closing)
      obtain rfl := beq_iff_eq.mp first
      exact speaks woken
    have exchanged := queue_exchange request left unwoken
    refine ⟨exchanged.result, exchanged.requests, exchanged.disturbed, ?_⟩
    rw [exchanged.final]
    exact ⟨rfl, waking, rolled⟩
  pause := by
    rintro count node ⟨left, waking, rolled⟩
    refine ⟨chance, congrArg _ rolled, rfl, rfl, ?_⟩
    have paused := queue_pause
      (backoffDelay settings.backoff (.ofNat count) settings.jitter chance) node
    -- the pause is over before the next one, if it is the first
    have wakes : node.closing = true →
        (backoffDelay settings.backoff (.ofNat count) settings.jitter chance).atMost 0 = false := by
      intro closing
      obtain ⟨woken, first⟩ := Bool.and_eq_true_iff.mp (waking.symm.trans closing)
      obtain rfl := beq_iff_eq.mp first
      exact patient woken
    have answers : ∀ {closing zero : Bool}, (closing = true → zero = false) →
        (closing && !zero) = closing ∧ (closing && zero) = false := by decide
    obtain ⟨told, ended⟩ := answers wakes
    rw [told, ended] at paused
    refine ⟨paused.result, paused.requests, paused.disturbed.trans waking, ?_⟩
    change Queue.Comes turns woken chance (.reply (count + 1)) (queue.pause _ node).state
    rw [paused.final]
    exact ⟨left, (Bool.and_false woken).symm, rolled⟩

end Network

namespace Chain.Client

open Network

def unhurried : ClientSettings :=
  { stubborn 1 with backoff := 60000 }

/-- A node that cannot be reached at first, and then answers. -/
def reviving : List Turn :=
  [{ reply := .fault (.other "connection refused") },
    { reply := .response { status := 200, body := .ok "\x7b\"result\":\x7b\x7d\x7d" } }]

/-- A node that does not answer; its client is closed while it waits. -/
def hanging : List Turn :=
  [{ reply := .silence, closes := true }]

theorem reviving_closedAt :
    ClosedAt (Queue.closings reviving true) (scripted reviving) unhurried.attempts (.pause 0) where
  closes := rfl
  first earlier sooner := by
    cases earlier with
    | reply count =>
        obtain rfl : count = 0 := by
          simp only [Moment.time] at sooner
          omega
        rfl
    | pause count => simp only [Moment.time] at sooner; omega
  failing i early := by
    obtain rfl : i = 0 := Nat.lt_one_iff.mp early
    exact ⟨_, .raised Bool.false_ne_true⟩
  pending := by
    have twice : unhurried.attempts = 2 := attempts_ofNat rfl
    rw [twice]
    decide

theorem reviving_settles : Settles "status" (scripted reviving 1) (.ok (.record [])) := by
  have parses : Json.parse? "\x7b\"result\":\x7b\x7d\x7d" = some (.record [("result", .record [])]) :=
    Json.parse?_eq_of_same (by decide +kernel)
  exact .result parses Bool.false_ne_true rfl

theorem reviving_closes :
    queue.Closes unhurried (scripted reviving) (Queue.closings reviving true)
      (Queue.Comes reviving true 0) := by
  refine queue_closes (fun _ turn first => ?_) fun _ => by decide +kernel
  obtain rfl := Option.some.inj first
  exact Reply.noConfusion

theorem hanging_closedAt :
    ClosedAt (Queue.closings hanging false) (scripted hanging) unhurried.attempts (.reply 0) where
  closes := rfl
  first _ sooner := (Nat.not_lt_zero _ sooner).elim
  failing _ early := (Nat.not_lt_zero _ early).elim
  pending := by
    have twice : unhurried.attempts = 2 := attempts_ofNat rfl
    rw [twice]
    decide

theorem fetch_closes_of_reviving :
    let asked (turns : List Turn) (closing : Bool) :=
      fetch queue unhurried "status" [] ({ turns, closing, chance := 0 }, {})
    let url := "http://[::1]:26657/status"
    ((asked reviving true).trace.requests = [requestFor url, requestFor url] ∧
        (asked reviving true).result = .ok (.record [])) ∧
      ((asked hanging false).trace.requests = [requestFor url] ∧
        (asked hanging false).result =
          .error (.transport "status" "request aborted" [("url", .text url)])) ∧
      (ask queue unhurried .status (asked reviving true).state).result =
        .error (.transport "status" "client closed" [("url", .text url)]) := by
  have addressed : address unhurried "status" [] = .ok "http://[::1]:26657/status" :=
    stubborn_addressed 1
  obtain ⟨requests, settled, -, shut⟩ := (fetch_closes queue unhurried).1 _ _ _ reviving_closes
    _ _ _ addressed { turns := reviving, closing := true, chance := 0 } {} ⟨rfl, rfl, rfl⟩ rfl _
    reviving_closedAt
  have hangs : queue.Closes unhurried (scripted hanging) (Queue.closings hanging false)
      (Queue.Comes hanging false 0) := queue_closes Bool.noConfusion Bool.noConfusion
  obtain ⟨requests', -, failed, -⟩ := (fetch_closes queue unhurried).1 _ _ _ hangs
    _ _ _ addressed { turns := hanging, chance := 0 } {} ⟨rfl, rfl, rfl⟩ rfl _ hanging_closedAt
  have silent := (fetch_closes queue unhurried).2 _ _ (congrArg Session.closed shut) .refl
  have refused := silent.ask (show address unhurried (Question.method .status)
    (Question.parameters .status) = .ok _ from addressed)
  refine ⟨⟨requests, settled _ reviving_settles⟩, ⟨requests', ?_⟩, refused.result⟩
  obtain ⟨ended, result, inVain⟩ := failed aborted (.raised Bool.false_ne_true)
  rw [result]
  cases inVain with
  | told worded => cases worded; rfl
  | silent wordless => cases wordless

/-- A client that is woken from a pause by being closed may send a request then, and its call may
succeed. -/
theorem not_fetch_ends_when_closed :
    ¬ ∀ (settings : ClientSettings) replies closing phase,
      queue.Closes settings replies closing phase →
      ∀ method parameters url, address settings method parameters = .ok url →
      ∀ node session, phase (.reply 0) node → session.closed = false →
      ∀ moment, ClosedAt closing replies settings.attempts moment →
        let asked := fetch queue settings method parameters (node, session)
        asked.trace.requests.length = moment.sent ∧
          ∃ cause details, asked.result = .error (.transport method cause details) := by
  intro ends
  have addressed : address unhurried "status" [] = .ok "http://[::1]:26657/status" :=
    stubborn_addressed 1
  have start : Queue.Comes reviving true 0 (.reply 0)
      { turns := reviving, closing := true, chance := 0 } := ⟨rfl, rfl, rfl⟩
  obtain ⟨-, cause, details, failed⟩ := ends _ _ _ _ reviving_closes _ _ _ addressed _ {} start rfl _
    reviving_closedAt
  have about : About (Queue.Comes reviving true 0) {} 0 (_, {}) := ⟨start, rfl⟩
  have succeeded := closes_settled reviving_closes rfl about reviving_closedAt addressed
    reviving_settles
  cases succeeded.result.symm.trans failed

end Chain.Client

end RollCall
