import Endpoint.Client

/-!
A request that is sent, poll by poll: which poll ends it, and how, told by its flight and by when
its token fires.
-/

namespace Endpoint.Client

/-- No earlier poll of the flight has answered. -/
def Flight.OpenAt {α : Type} (flight : Flight α) (poll : Nat) : Prop :=
  ∀ earlier < poll, (flight earlier).answer = none

/-- The token has fired when the poll starts: before it was sent with, between two polls, or in an
earlier poll of the flight. -/
def Flight.FiredAt {α : Type} (flight : Flight α) (token : Option Token) (between : Nat → Bool)
    (poll : Nat) : Prop :=
  token = some .fired ∨ (∃ earlier ≤ poll, between earlier = true) ∨
    ∃ earlier < poll, (flight earlier).fires = true

/-- The poll finds a token that has fired. -/
def Flight.CancelsAt {α : Type} (flight : Flight α) (token : Option Token) (between : Nat → Bool)
    (poll : Nat) : Prop :=
  token.isSome = true ∧ flight.FiredAt token between poll

/-- All polls before that one found the token live. -/
def Flight.LiveUntil {α : Type} (flight : Flight α) (token : Option Token) (between : Nat → Bool)
    (poll : Nat) : Prop :=
  ∀ earlier < poll, ¬ flight.CancelsAt token between earlier

/-- The draft of which the request is made. -/
def Request.draft (request : Request) : Draft :=
  ⟨request.verb, request.path, .ok request.body, request.token⟩

namespace Flight

variable {α : Type} {flight : Flight α} {token : Option Token} {between : Nat → Bool}

theorem OpenAt.zero : flight.OpenAt 0 := fun _ early => absurd early (Nat.not_lt_zero _)

theorem OpenAt.succ {poll : Nat} (still : flight.OpenAt poll)
    (silent : (flight poll).answer = none) : flight.OpenAt (poll + 1) := by
  intro earlier early
  rcases Nat.lt_succ_iff_lt_or_eq.mp early with before | rfl
  · exact still earlier before
  · exact silent

theorem LiveUntil.zero : flight.LiveUntil token between 0 :=
  fun _ early => absurd early (Nat.not_lt_zero _)

theorem LiveUntil.succ {poll : Nat} (live : flight.LiveUntil token between poll)
    (spared : ¬ flight.CancelsAt token between poll) :
    flight.LiveUntil token between (poll + 1) := by
  intro earlier early
  rcases Nat.lt_succ_iff_lt_or_eq.mp early with before | rfl
  · exact live earlier before
  · exact spared

theorem firedAt_zero : flight.FiredAt token between 0 ↔ token = some .fired ∨ between 0 = true := by
  simp [FiredAt]

theorem firedAt_succ (poll : Nat) : flight.FiredAt token between (poll + 1) ↔
    flight.FiredAt token between poll ∨ (flight poll).fires = true ∨
      between (poll + 1) = true := by
  simp only [FiredAt, Nat.le_succ_iff, Nat.lt_succ_iff_lt_or_eq, or_and_right, exists_or,
    exists_eq_left]
  grind

theorem CancelsAt.mono {poll later : Nat} (cancels : flight.CancelsAt token between poll)
    (order : poll ≤ later) : flight.CancelsAt token between later := by
  refine ⟨cancels.1, ?_⟩
  rcases cancels.2 with before | ⟨earlier, early, fires⟩ | ⟨earlier, early, fires⟩
  · exact .inl before
  · exact .inr (.inl ⟨earlier, Nat.le_trans early order, fires⟩)
  · exact .inr (.inr ⟨earlier, Nat.lt_of_lt_of_le early order, fires⟩)

end Flight

/-- How a request stands after so many polls. While it is under way, all of them found the token
live and the flight silent, and the flag tells whether the next one finds a token that has
fired. -/
inductive Standing (request : Request) (flight : Flight (Except ClientError Response))
    (between : Nat → Bool) (count : Nat) : Progress → Prop
  | fresh {fired : Bool} (first : count = 0)
      (flag : (fired || between count) = true ↔ flight.FiredAt request.token between count) :
      Standing request flight between count ⟨.fresh, fired, [], 0⟩
  | waiting {fired : Bool} (positive : 0 < count) (flag : (fired || between count) = true ↔
        flight.FiredAt request.token between count)
      (live : flight.LiveUntil request.token between count)
      (still : flight.OpenAt count) :
      Standing request flight between count ⟨.waiting flight, fired, [request], count⟩
  | cancelled {fired : Bool} {poll : Nat} (early : poll < count)
      (cancels : flight.CancelsAt request.token between poll)
      (live : flight.LiveUntil request.token between poll)
      (still : flight.OpenAt poll) :
      Standing request flight between count
        ⟨.cancelled, fired, if poll = 0 then [] else [request], poll⟩
  | answered {fired : Bool} {poll : Nat} {answer : Except ClientError Response}
      (early : poll < count)
      (live : flight.LiveUntil request.token between (poll + 1))
      (still : flight.OpenAt poll) (given : (flight poll).answer = some answer) :
      Standing request flight between count ⟨.answered answer, fired, [request], poll + 1⟩

namespace Standing

variable {request : Request} {flight : Flight (Except ClientError Response)}
  {transport : Transport} {between : Nat → Bool} {count : Nat}

/-- A poll of the flight, in which the token was found live. -/
theorem wait {fired : Bool} (flag : fired = true ↔ flight.FiredAt request.token between count)
    (live : flight.LiveUntil request.token between (count + 1))
    (still : flight.OpenAt count) (stage : Stage) :
    Standing request flight between (count + 1)
      (Progress.wait flight ⟨stage, fired, [request], count⟩) := by
  cases given : (flight count).answer with
  | some answer =>
    simp only [Progress.wait, given]
    exact .answered (Nat.lt_succ_self count) live still given
  | none =>
    simp only [Progress.wait, given]
    refine .waiting (Nat.succ_pos count) ?_ live (still.succ given)
    rw [Flight.firedAt_succ, ← flag]
    simp [or_assoc]

/-- The poll finds a fired token exactly if there is a token and the flag says so. -/
theorem cancelsAt_iff {fired : Bool}
    (flag : fired = true ↔ flight.FiredAt request.token between count) :
    flight.CancelsAt request.token between count ↔ (request.token.isSome && fired) = true := by
  rw [Flight.CancelsAt, ← flag, Bool.and_eq_true]

end Standing

/-- The first poll of a request: the token is looked at before the transport is asked. -/
theorem Request.poll_fresh (request : Request) (transport : Transport) (fired : Bool) :
    request.draft.poll transport ⟨.fresh, fired, [], 0⟩ =
      if request.token.isSome && fired then ⟨.cancelled, fired, [], 0⟩
      else Progress.wait (transport request) ⟨.fresh, fired, [request], 0⟩ := by
  obtain ⟨verb, path, body, token⟩ := request
  cases token with
  | none => rfl
  | some token => cases fired <;> rfl

/-- A later poll of a request: the token is looked at before the flight. -/
theorem Request.poll_waiting (request : Request) (transport : Transport)
    (flight : Flight (Except ClientError Response)) (fired : Bool) (seen : List Request)
    (polls : Nat) :
    request.draft.poll transport ⟨.waiting flight, fired, seen, polls⟩ =
      if request.token.isSome && fired then ⟨.cancelled, fired, seen, polls⟩
      else Progress.wait flight ⟨.waiting flight, fired, seen, polls⟩ := by
  obtain ⟨verb, path, body, token⟩ := request
  cases token with
  | none => rfl
  | some token => cases fired <;> rfl

namespace Standing

variable {request : Request} {transport : Transport} {between : Nat → Bool} {count : Nat}

/-- What one poll does to a request. -/
theorem step {held : Progress} (stands : Standing request (transport request) between count held) :
    Standing request (transport request) between (count + 1)
      (request.draft.poll transport (held.fire (between count))) := by
  cases stands with
  | @fresh fired first flag =>
    subst first
    rw [Progress.fire, Request.poll_fresh]
    split
    case isTrue cancels =>
      have cancels := (cancelsAt_iff flag).mpr cancels
      exact .cancelled Nat.zero_lt_one cancels .zero .zero
    case isFalse spared =>
      have spared := mt (cancelsAt_iff flag).mp spared
      exact wait flag (Flight.LiveUntil.zero.succ spared) .zero _
  | @waiting fired positive flag live still =>
    rw [Progress.fire, Request.poll_waiting]
    split
    case isTrue cancels =>
      have cancels := (cancelsAt_iff flag).mpr cancels
      have stands : Standing request (transport request) between (count + 1) ⟨.cancelled,
          fired || between count, if count = 0 then [] else [request], count⟩ :=
        .cancelled (Nat.lt_succ_self count) cancels live still
      rwa [if_neg (Nat.ne_of_gt positive)] at stands
    case isFalse spared =>
      have spared := mt (cancelsAt_iff flag).mp spared
      exact wait flag (live.succ spared) still _
  | cancelled early cancels live still =>
    exact .cancelled (Nat.lt_succ_of_lt early) cancels live still
  | answered early live still given =>
    exact .answered (Nat.lt_succ_of_lt early) live still given

/-- What any number of polls does to a request. -/
theorem run (request : Request) (transport : Transport) (between : Nat → Bool) (count : Nat) :
    Standing request (transport request) between count
      (request.draft.after transport between count) := by
  induction count with
  | zero =>
    refine .fresh rfl ?_
    rw [Flight.firedAt_zero, Bool.or_eq_true, beq_iff_eq]
    rfl
  | succ count ih => exact ih.step

end Standing

namespace Standing

variable {request : Request} {flight : Flight (Except ClientError Response)}
  {between : Nat → Bool} {count : Nat} {held : Progress}

/-- A request is cancelled exactly if some poll found its token fired and its flight still
without an answer. -/
theorem cancelled_iff (stands : Standing request flight between count held) :
    held.stage = .cancelled ↔
      ∃ poll < count, flight.CancelsAt request.token between poll ∧ flight.OpenAt poll := by
  cases stands with
  | fresh first flag => simp [first]
  | waiting positive flag live still =>
    refine iff_of_false Stage.noConfusion ?_
    rintro ⟨poll, early, cancels, -⟩
    exact live poll early cancels
  | @cancelled fired poll early cancels live still =>
    exact iff_of_true rfl ⟨poll, early, cancels, still⟩
  | @answered fired poll answer early live still given =>
    refine iff_of_false Stage.noConfusion ?_
    rintro ⟨other, -, cancels, silent⟩
    rcases Nat.lt_or_ge poll other with before | behind
    · simp [silent poll before] at given
    · exact live other (Nat.lt_succ_of_le behind) cancels

/-- An answer is taken exactly if a poll that found the token live is the first that gives one. -/
theorem answered_iff (stands : Standing request flight between count held)
    (answer : Except ClientError Response) :
    held.stage = .answered answer ↔
      ∃ poll < count, ¬ flight.CancelsAt request.token between poll ∧ flight.OpenAt poll ∧
        (flight poll).answer = some answer := by
  cases stands with
  | fresh first flag => simp [first]
  | waiting positive flag live still =>
    refine iff_of_false Stage.noConfusion ?_
    rintro ⟨poll, early, -, -, given⟩
    simp [still poll early] at given
  | @cancelled fired poll early cancels live still =>
    refine iff_of_false Stage.noConfusion ?_
    rintro ⟨other, -, spared, -, given⟩
    rcases Nat.lt_or_ge other poll with before | behind
    · simp [still other before] at given
    · exact spared (cancels.mono behind)
  | @answered fired poll held early live still given =>
    constructor
    · rintro ⟨rfl⟩
      exact ⟨poll, early, live poll (Nat.lt_succ_self poll), still, given⟩
    · rintro ⟨other, -, -, silent, also⟩
      rcases Nat.lt_trichotomy other poll with before | rfl | behind
      · simp [still other before] at also
      · rw [Option.some.inj (given.symm.trans also)]
      · simp [silent poll behind] at given

/-- A request has a body that could be encoded. -/
theorem not_refused (stands : Standing request flight between count held) (error : ClientError) :
    held.stage ≠ .refused error := by
  cases stands <;> exact Stage.noConfusion

/-- The transport is asked at most once, and for this request. -/
theorem seen_cases (stands : Standing request flight between count held) :
    held.seen = [] ∨ held.seen = [request] := by
  cases stands with
  | fresh => exact .inl rfl
  | waiting => exact .inr rfl
  | @cancelled fired poll => by_cases first : poll = 0 <;> simp [first]
  | answered => exact .inr rfl

/-- The transport is asked exactly if the first poll finds the token live. -/
theorem asked_iff (stands : Standing request flight between count held) :
    held.seen = [request] ↔ 0 < count ∧ ¬ flight.CancelsAt request.token between 0 := by
  cases stands with
  | fresh first flag => simp [first]
  | waiting positive flag live still => exact iff_of_true rfl ⟨positive, live 0 positive⟩
  | @cancelled fired poll early cancels live still =>
    rcases Nat.eq_zero_or_pos poll with rfl | later
    · simp [cancels]
    · simpa [Nat.ne_of_gt later, live 0 later] using Nat.lt_trans later early
  | @answered fired poll answer early live still given =>
    exact iff_of_true rfl ⟨Nat.zero_lt_of_lt early, live 0 (Nat.succ_pos poll)⟩

end Standing

/-- A poll that starts with a fired token does not poll the flight. -/
theorem Request.polls_of_cancelsAt {request : Request} {transport : Transport}
    {between : Nat → Bool} {count : Nat}
    (cancels : (transport request).CancelsAt request.token between count) :
    (request.draft.after transport between (count + 1)).polls =
      (request.draft.after transport between count).polls := by
  have stands := Standing.run request transport between count
  rw [Draft.after]
  generalize request.draft.after transport between count = held at stands
  cases stands with
  | @fresh fired first flag =>
    subst first
    rw [Progress.fire, Request.poll_fresh, if_pos ((Standing.cancelsAt_iff flag).mp cancels)]
  | @waiting fired positive flag live still =>
    rw [Progress.fire, Request.poll_waiting, if_pos ((Standing.cancelsAt_iff flag).mp cancels)]
  | cancelled => rfl
  | answered => rfl

/-- From a poll on that starts with a fired token, the flight is not polled. -/
theorem Request.polls_settled {request : Request} {transport : Transport} {between : Nat → Bool}
    {poll count : Nat} (cancels : (transport request).CancelsAt request.token between poll)
    (order : poll ≤ count) :
    (request.draft.after transport between count).polls =
      (request.draft.after transport between poll).polls := by
  induction order with
  | refl => rfl
  | step order ih => exact (Request.polls_of_cancelsAt (cancels.mono order)).trans ih

/-- A request ends with a cancellation if it was cancelled, or if its flight answered with one. -/
theorem Stage.result?_eq_cancelled_iff (stage : Stage)
    (sent : ∀ error, stage ≠ .refused error) :
    stage.result? = some (.error .cancelled) ↔
      stage = .cancelled ∨ stage = .answered (.error .cancelled) := by
  cases stage with
  | fresh => simp [Stage.result?]
  | waiting flight => simp [Stage.result?]
  | refused error => exact absurd rfl (sent error)
  | cancelled => simp [Stage.result?]
  | answered answer =>
    rcases answer with error | response
    · simp [Stage.result?, Draft.settled]
    · simp only [Stage.result?, Draft.settled]
      split <;> simp

/-- The race between a request and its token. It is cancelled exactly if some poll starts with the
token fired and the flight still without an answer, and it takes an answer exactly if the poll that
gives it started with the token live, whether or not that poll fires it. Once a poll has started
with the token fired, the flight is not polled again, and the transport is asked at most once, in
the first poll if that finds the token live. An error with which the flight itself reports a
cancellation is an answer. -/
theorem race_settles (verb : Verb) (path : String) (body : Option Payload) (token : Token)
    (transport : Transport) (between : Nat → Bool) (count : Nat) :
    let request : Request := ⟨verb, path, body, some token⟩
    let flight := transport request
    let draft : Draft := ⟨verb, path, .ok body, some token⟩
    let held := draft.after transport between
    let sending := draft.dispatch transport between count
    ((held count).stage = .cancelled ↔
        ∃ poll < count, flight.FiredAt (some token) between poll ∧ flight.OpenAt poll) ∧
      (∀ answer, (held count).stage = .answered answer ↔
        ∃ poll < count, ¬ flight.FiredAt (some token) between poll ∧ flight.OpenAt poll ∧
          (flight poll).answer = some answer) ∧
      (sending.result = some (.error .cancelled) ↔
        (held count).stage = .cancelled ∨ (held count).stage = .answered (.error .cancelled)) ∧
      (∀ answer, (held count).stage = .answered answer →
        sending.result = some (Draft.settled answer)) ∧
      (∀ poll ≤ count, flight.FiredAt (some token) between poll →
        (held count).polls = (held poll).polls) ∧
      (sending.seen = [] ∨ sending.seen = [request]) ∧
      (sending.seen = [request] ↔ 0 < count ∧ ¬ flight.FiredAt (some token) between 0) := by
  intro request flight draft held sending
  have stands : Standing request flight between count (held count) :=
    Standing.run request transport between count
  have cancels_iff : ∀ poll, flight.FiredAt (some token) between poll ↔
      flight.CancelsAt request.token between poll := fun poll => (and_iff_right rfl).symm
  simp only [cancels_iff]
  refine ⟨stands.cancelled_iff, stands.answered_iff, ?_, ?_, ?_, stands.seen_cases,
    stands.asked_iff⟩
  · exact (held count).stage.result?_eq_cancelled_iff stands.not_refused
  · intro answer ended
    exact congrArg Stage.result? ended
  · intro poll order cancels
    exact Request.polls_settled cancels order

/-- The answer of a poll that fires the token is taken. -/
example :
    let transport : Transport := fun _ _ => ⟨some (.ok ⟨204, []⟩), true⟩
    ((Draft.new .put "/notifications").withToken (some .live)).dispatch transport
        (fun _ => false) 1 =
      ⟨[⟨.put, "/notifications", none, some .live⟩], some (.ok ⟨204, []⟩)⟩ := rfl

end Endpoint.Client
