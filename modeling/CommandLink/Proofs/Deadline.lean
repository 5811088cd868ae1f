import CommandLink.Proofs.Attempts
import Mathlib.Algebra.BigOperators.Intervals

/-!
# When a negotiation is settled

On a link where nothing else goes on, the negotiation is checked at every tick of the
monitor. It is settled by the first tick that sees a large unit. If there is none, each
attempt expires at the first tick behind its time, and each but the last is followed by a
pause; so the tick at which the negotiation fails is known up to a period of the monitor for
each attempt.
-/

namespace CommandLink

open Act Negotiation

variable {W H : Type}

/-! ## A link where nothing else goes on -/

/-- Ports under which no procedure runs but the one that calls them. Time moves only by
sleeps, and what was asked of the link is counted. -/
structure Ports.Sequential (ports : Ports W H) (asked : W → Nat) : Prop where
  requestMtu : ∀ mtu s, Returns (ports.requestMtu mtu) s fun _ t =>
    t.endpoint = s.endpoint ∧ ports.now t.world = ports.now s.world ∧
      asked t.world = asked s.world + 1
  sleep : ∀ time s, Returns (ports.sleep time) s fun _ t =>
    t.endpoint = s.endpoint ∧ ports.now t.world = ports.now s.world + time ∧
      asked t.world = asked s.world
  randomBelow : ∀ bound s, Returns (ports.randomBelow bound) s fun drawn t =>
    (0 < bound → drawn < bound) ∧ t.endpoint = s.endpoint ∧
      ports.now t.world = ports.now s.world ∧ asked t.world = asked s.world

/-- One round of the monitor. -/
def watchRound (ports : Ports W H) : Act W H Unit := do
  discard (monitorTick ports)
  ports.sleep (← endpoint).settings.monitorInterval.toNat

/-- A negotiation from its start, watched for some rounds of the monitor. -/
def watch (ports : Ports W H) : Nat → Act W H Unit
  | 0 => restartNegotiation ports
  | rounds + 1 => do
    watch ports rounds
    watchRound ports

/-! ## An attempt under way -/

namespace Negotiation

namespace Control

variable {control : Control} {since : Nat}

/-- An attempt under way that sees no large unit expires when its time is over. -/
theorem poll_of_small
    (begun : control.state = .initiating since ∨ control.state = .inProgress since)
    {mtu : UInt16} (small : mtu.toNat ≤ defaultMtu) (now timeout : Nat) :
    control.poll now timeout mtu =
      if timeout < now - since then (.expired ⟨control.epoch⟩, { control with state := .timeout })
      else (.pending, control) := by
  have unseen : ¬defaultMtu < mtu.toNat := Nat.not_lt.mpr small
  rcases begun with initiating | inProgress
  · by_cases late : timeout < now - since
    · simp [poll, initiating, LinkState.negotiating, LinkState.observe, unseen, LinkState.expire, late]
    · simp [poll, initiating, LinkState.negotiating, LinkState.observe, unseen, LinkState.expire, late]
  · by_cases late : timeout < now - since
    · simp [poll, inProgress, LinkState.negotiating, LinkState.observe, unseen, LinkState.expire, late]
    · simp [poll, inProgress, LinkState.negotiating, LinkState.observe, unseen, LinkState.expire, late]

end Control

/-- The attempt that was begun at a time, after as many retries; and what it left in the
counters since the negotiation was started. -/
structure Attempt {H : Type} (origin : Endpoint H) (retries since : Nat) (endpoint : Endpoint H) :
    Prop where
  settings : endpoint.settings = origin.settings
  begun : endpoint.state = .initiating since ∨ endpoint.state = .inProgress since
  spent : endpoint.negotiation.retries = retries
  attempts : endpoint.counters.negotiationAttempts =
    origin.counters.negotiationAttempts + (retries + 1)
  timeouts : endpoint.counters.negotiationTimeouts = origin.counters.negotiationTimeouts + retries
  failures : endpoint.counters.negotiationFailures = origin.counters.negotiationFailures

namespace Attempt

variable {origin endpoint : Endpoint H} {retries since : Nat}

theorem first (origin : Endpoint H) (now : Nat) : Attempt origin 0 now (origin.restart now).2 where
  settings := rfl
  begun := .inl rfl
  spent := rfl
  attempts := rfl
  timeouts := rfl
  failures := rfl

theorem requested (attempt : Attempt origin retries since endpoint) (epoch : UInt32) :
    Attempt origin retries since (endpoint.requested epoch) := by
  obtain ⟨settings, begun, spent, attempts, timeouts, failures⟩ := attempt
  rcases endpoint.negotiation.requested_cases epoch with ⟨since', initiating, moved⟩ | same
  · have same : since' = since := by
      rcases begun with begun | begun
      · exact LinkState.initiating.inj (initiating.symm.trans begun)
      · cases initiating.symm.trans begun
    subst same
    have state : (endpoint.requested epoch).state = .inProgress since' :=
      congrArg Control.state moved
    exact ⟨settings, .inr state, (congrArg Control.retries moved).trans spent, attempts, timeouts,
      failures⟩
  · have unchanged : endpoint.requested epoch = endpoint := by
      rw [Endpoint.requested, same]
    rw [unchanged]
    exact ⟨settings, begun, spent, attempts, timeouts, failures⟩

theorem negotiating (attempt : Attempt origin retries since endpoint) :
    endpoint.negotiation.state.negotiating = true := by
  rcases attempt.begun with begun | begun
  · exact congrArg LinkState.negotiating begun
  · exact congrArg LinkState.negotiating begun

end Attempt

/-- An attempt that expired, with its token. Some retries are spent, and so many attempts
expired so far. -/
structure Overdue (origin : Endpoint H) (retries expired : Nat) (token : Expired)
    (endpoint : Endpoint H) : Prop where
  settings : endpoint.settings = origin.settings
  honoured : endpoint.negotiation.honours token = true
  spent : endpoint.negotiation.retries = retries
  attempts : endpoint.counters.negotiationAttempts =
    origin.counters.negotiationAttempts + expired
  timeouts : endpoint.counters.negotiationTimeouts = origin.counters.negotiationTimeouts + expired
  failures : endpoint.counters.negotiationFailures = origin.counters.negotiationFailures

/-- Whether a unit is no larger than the one before any exchange. -/
abbrev Small (mtu : UInt16) : Prop := mtu.toNat ≤ defaultMtu

section

variable {origin endpoint : Endpoint H} {retries expired since now : Nat} {mtu : UInt16}
  {token : Expired}

theorem Attempt.poll_pending (attempt : Attempt origin retries since endpoint) (small : Small mtu)
    (early : now - since ≤ endpoint.settings.attemptTimeout.toNat) :
    endpoint.poll now mtu = (.pending, endpoint) := by
  have checked := Control.poll_of_small attempt.begun small now
    endpoint.settings.attemptTimeout.toNat
  rw [if_neg (Nat.not_lt.mpr early)] at checked
  simp [Endpoint.poll, checked]

theorem Attempt.poll_expired (attempt : Attempt origin retries since endpoint) (small : Small mtu)
    (late : endpoint.settings.attemptTimeout.toNat < now - since) :
    ∃ token, (endpoint.poll now mtu).1 = .expired token ∧
      Overdue origin retries (retries + 1) token (endpoint.poll now mtu).2 := by
  have negotiating : endpoint.state.negotiating = true := attempt.negotiating
  have checked := Control.poll_of_small attempt.begun small now
    endpoint.settings.attemptTimeout.toNat
  rw [if_pos late] at checked
  have polled : endpoint.poll now mtu = (.expired ⟨endpoint.negotiation.epoch⟩,
      { endpoint with negotiation := { endpoint.negotiation with state := .timeout } }.count
        fun c => { c with negotiationTimeouts := c.negotiationTimeouts + 1 }) := by
    simp [Endpoint.poll, checked, negotiating]
  rw [polled]
  refine ⟨_, rfl, attempt.settings, ?_, attempt.spent, attempt.attempts, ?_, attempt.failures⟩
  · exact Control.honours_iff.mpr ⟨rfl, rfl⟩
  · exact congrArg (· + 1) attempt.timeouts

theorem Attempt.poll_completed (attempt : Attempt origin retries since endpoint) (now : Nat)
    (large : ¬Small mtu) :
    (endpoint.poll now mtu).1 = .completed mtu ∧
      (endpoint.poll now mtu).2.state = .completed mtu := by
  have checked := Control.poll_of_large attempt.negotiating (Nat.not_le.mp large) now
    endpoint.settings.attemptTimeout.toNat
  constructor
  · rw [endpoint.poll_verdict, checked]
  · rw [Endpoint.state, endpoint.poll_negotiation, checked]

/-- As long as a retry is left, it is spent on another attempt. -/
theorem Overdue.judge_retry (overdue : Overdue origin retries expired token endpoint)
    (left : retries < origin.settings.maxRetries.toNat) :
    (endpoint.judge token).1 = .retry (retries + 1) ∧
      Overdue origin (retries + 1) expired token (endpoint.judge token).2 := by
  obtain ⟨settings, honoured, spent, attempts, timeouts, failures⟩ := overdue
  have decided := Control.judge_of_honoured honoured endpoint.settings.maxRetries.toNat
    endpoint.settings.fallbackUnit
  rw [settings, spent, if_neg (Nat.not_le.mpr left)] at decided
  have judged : endpoint.judge token = (.retry (retries + 1),
      { endpoint with
        negotiation := { endpoint.negotiation with retries := retries + 1 } }) := by
    simp [Endpoint.judge, settings, decided]
  rw [judged]
  exact ⟨rfl, settings, honoured, rfl, attempts, timeouts, failures⟩

theorem Overdue.resume (overdue : Overdue origin retries retries token endpoint) (now : Nat) :
    (endpoint.resume token now).1 = true ∧
      Attempt origin retries now (endpoint.resume token now).2 := by
  obtain ⟨settings, honoured, spent, attempts, timeouts, failures⟩ := overdue
  have resumed : endpoint.resume token now = (true,
      { endpoint with negotiation := { endpoint.negotiation with state := .initiating now } }.count
        fun c => { c with negotiationAttempts := c.negotiationAttempts + 1 }) := by
    simp [Endpoint.resume, Control.resume?_of_honoured honoured]
  rw [resumed]
  exact ⟨rfl, settings, .inl rfl, spent, congrArg (· + 1) attempts, timeouts, failures⟩

/-- What a negotiation that failed leaves behind. -/
structure GivenUp (origin : Endpoint H) (made : Nat) (endpoint : Endpoint H) : Prop where
  state : endpoint.state = .failed origin.settings.fallbackUnit
  attempts : endpoint.counters.negotiationAttempts =
    origin.counters.negotiationAttempts + made
  timeouts : endpoint.counters.negotiationTimeouts = origin.counters.negotiationTimeouts + made
  failures : endpoint.counters.negotiationFailures = origin.counters.negotiationFailures + 1

theorem Overdue.judge_failed (overdue : Overdue origin retries expired token endpoint)
    (spent : origin.settings.maxRetries.toNat ≤ retries) :
    (endpoint.judge token).1 = .failed ∧ GivenUp origin expired (endpoint.judge token).2 := by
  have decided := Control.judge_of_honoured overdue.honoured endpoint.settings.maxRetries.toNat
    endpoint.settings.fallbackUnit
  rw [overdue.settings, overdue.spent, if_pos spent] at decided
  simp only [Endpoint.judge, overdue.settings, decided]
  exact ⟨trivial, rfl, overdue.attempts, overdue.timeouts, congrArg (· + 1) overdue.failures⟩

end

end Negotiation

namespace Ports.Sequential

variable {ports : Ports W H} {asked : W → Nat} (sequential : ports.Sequential asked)
  {origin : Endpoint H} {retries since : Nat} {token : Expired} {s : Station W H}

include sequential

/-! ## Requests and pauses -/

/-- Whether the link takes the request makes no difference to the attempt. -/
theorem requestUnit_returns (attempt : Attempt origin retries since s.endpoint) (epoch : UInt32) :
    Returns (requestUnit ports epoch) s fun _ t => Attempt origin retries since t.endpoint ∧
      ports.now t.world = ports.now s.world ∧ asked t.world = asked s.world + 1 := by
  apply returns_endpoint
  apply (sequential.requestMtu _ s).bind
  intro answer t ⟨same, now, request⟩
  rw [← same] at attempt
  cases answer with
  | ok => exact ⟨(), _, rfl, attempt.requested epoch, now, request⟩
  | error error => exact returns_pure ⟨attempt, now, request⟩

theorem restartNegotiation_returns (s : Station W H) :
    Returns (restartNegotiation ports) s fun _ t =>
      Attempt s.endpoint 0 (ports.now s.world) t.endpoint ∧
        ports.now t.world = ports.now s.world ∧ asked t.world = asked s.world + 1 := by
  apply returns_world
  apply returns_step
  exact sequential.requestUnit_returns (.first s.endpoint (ports.now s.world)) _

/-- Without a random part the pause is known. -/
theorem backOff_returns (settings : s.endpoint.settings = origin.settings)
    (jitter : origin.settings.backoffJitter = 0) (attempt : Nat) :
    Returns (backOff ports attempt) s fun _ t => t.endpoint = s.endpoint ∧
      ports.now t.world =
        ports.now s.world + origin.settings.backoffBase.toNat * 2 ^ min (attempt - 1) 16 ∧
      asked t.world = asked s.world := by
  apply returns_endpoint
  apply (sequential.randomBelow _ s).bind
  intro drawn t ⟨below, same, now, requests⟩
  -- The bound of the draw is one more than the random part.
  have none : drawn = 0 := by
    have least := below (by simp [settings, jitter, Settings.Width.limit])
    simpa [settings, jitter, Settings.Width.limit] using least
  apply (sequential.sleep _ t).bind
  intro _ u ⟨still, later, silent⟩
  apply returns_pure
  refine ⟨still.trans same, ?_, silent.trans requests⟩
  rw [later, now, none, settings, Negotiation.backoff, Nat.shiftLeft_eq, Nat.add_zero]

/-- An attempt expired and a retry is left: behind the pause the next attempt begins. -/
theorem resolve_retry (overdue : Overdue origin retries (retries + 1) token s.endpoint)
    (jitter : origin.settings.backoffJitter = 0)
    (left : retries < origin.settings.maxRetries.toNat) :
    Returns (resolve ports token) s fun _ t =>
      Attempt origin (retries + 1) (ports.now t.world) t.endpoint ∧
        ports.now t.world =
          ports.now s.world + origin.settings.backoffBase.toNat * 2 ^ min retries 16 ∧
        asked t.world = asked s.world + 1 := by
  obtain ⟨retry, paid⟩ := overdue.judge_retry left
  apply returns_step
  rw [retry]
  apply (sequential.backOff_returns paid.settings jitter (retries + 1)).bind
  intro delay t ⟨same, paused, silent⟩
  have waited : Overdue origin (retries + 1) (retries + 1) token t.endpoint := by
    rw [same]
    exact paid
  obtain ⟨again, next⟩ := waited.resume (ports.now t.world)
  apply returns_world
  apply returns_step
  rw [again]
  apply (sequential.requestUnit_returns next token.epoch).bind
  intro _ u ⟨next, now, request⟩
  apply returns_pure
  refine ⟨?_, now.trans paused, request.trans (congrArg (· + 1) silent)⟩
  rw [now]
  exact next

omit sequential

/-- The last attempt expired: the negotiation failed, and no time went by. -/
theorem resolve_failed {expired : Nat} (overdue : Overdue origin retries expired token s.endpoint)
    (spent : origin.settings.maxRetries.toNat ≤ retries) :
    Returns (resolve ports token) s fun resolution t =>
      resolution = .failed origin.settings.fallbackUnit ∧ t.world = s.world ∧
        GivenUp origin expired t.endpoint := by
  obtain ⟨failed, givenUp⟩ := overdue.judge_failed spent
  have settings : (s.endpoint.judge token).2.settings = origin.settings :=
    (s.endpoint.judge_settings token).trans overdue.settings
  apply returns_step
  rw [failed]
  apply returns_endpoint
  apply returns_pure
  exact ⟨congrArg (fun kept => Resolution.failed kept.fallbackUnit) settings, rfl, givenUp⟩

/-! ## Rounds of the monitor -/

theorem monitorTick_pending (attempt : Attempt origin retries since s.endpoint)
    (small : Small (ports.mtu s.world))
    (early : ports.now s.world - since ≤ s.endpoint.settings.attemptTimeout.toNat) :
    Returns (monitorTick ports) s fun _ t => t = s := by
  apply returns_world
  apply returns_step
  rw [attempt.poll_pending small early]
  exact returns_pure rfl

theorem monitorTick_completed (attempt : Attempt origin retries since s.endpoint)
    (large : ¬Small (ports.mtu s.world)) :
    Returns (monitorTick ports) s fun result t => result = none ∧
      t.endpoint.state = .completed (ports.mtu s.world) := by
  obtain ⟨completed, state⟩ := attempt.poll_completed (ports.now s.world) large
  apply returns_world
  apply returns_step
  rw [completed]
  exact returns_pure ⟨rfl, state⟩

/-- A tick that finds an attempt expired resolves its token. -/
theorem monitorTick_expired (attempt : Attempt origin retries since s.endpoint)
    (small : Small (ports.mtu s.world))
    (late : s.endpoint.settings.attemptTimeout.toNat < ports.now s.world - since)
    {known : Option Resolution → Station W H → Prop}
    (resolves : ∀ token endpoint, Overdue origin retries (retries + 1) token endpoint →
      Returns (resolve ports token) { s with endpoint } fun resolution t =>
        known (some resolution) t) :
    Returns (monitorTick ports) s known := by
  obtain ⟨token, expired, overdue⟩ := attempt.poll_expired small late
  apply returns_world
  apply returns_step
  rw [expired]
  apply (resolves token _ overdue).bind
  intro resolution t there
  exact returns_pure there

/-- What is settled is left as it is. -/
theorem monitorTick_settled (done : s.endpoint.state.negotiating = false)
    (resolved : s.endpoint.state ≠ .timeout) :
    Returns (monitorTick ports) s fun _ t => t = s := by
  have settled : s.endpoint.poll (ports.now s.world) (ports.mtu s.world) = (.settled, s.endpoint) := by
    have waiting : ¬s.endpoint.negotiation.state.negotiating = true := by
      rw [Bool.not_eq_true]
      exact done
    have unexpired : ¬s.endpoint.negotiation.state = .timeout := resolved
    simp only [Endpoint.poll, Control.poll, waiting, unexpired, if_false, Bool.false_eq_true]
  apply returns_world
  apply returns_step
  rw [settled]
  exact returns_pure rfl

include sequential

/-- A round ends as its tick ends, a period of the monitor later. -/
theorem watchRound_returns {known : Station W H → Prop}
    (tick : Returns (monitorTick ports) s fun _ t => known t) :
    Returns (watchRound ports) s fun _ u => ∃ t, known t ∧ u.endpoint = t.endpoint ∧
      ports.now u.world = ports.now t.world + t.endpoint.settings.monitorInterval.toNat ∧
      asked u.world = asked t.world := by
  apply tick.discard.bind
  intro _ t there
  apply returns_endpoint
  apply (sequential.sleep _ t).mono
  intro _ u slept
  exact ⟨t, there, slept⟩

end Ports.Sequential

/-! ## How long attempts take -/

namespace Negotiation

/-- The pauses before the first retries, together. -/
def pauses (base retries : Nat) : Nat := ∑ k ∈ Finset.Icc 1 retries, base * 2 ^ min (k - 1) 16

theorem pauses_succ (base retries : Nat) :
    pauses base (retries + 1) = pauses base retries + base * 2 ^ min retries 16 :=
  Finset.sum_Icc_succ_top (Nat.le_add_left 1 retries) _

/-- Between two rounds an attempt is under way that began when all those before it had
expired, each at the first tick behind its time. -/
structure Underway (ports : Ports W H) (asked : W → Nat) (origin : Station W H)
    (retries since : Nat) (s : Station W H) : Prop where
  attempt : Attempt origin.endpoint retries since s.endpoint
  within : retries ≤ origin.endpoint.settings.maxRetries.toNat
  requests : asked s.world = asked origin.world + (retries + 1)
  early : ports.now origin.world + retries * (origin.endpoint.settings.attemptTimeout.toNat + 1) +
    pauses origin.endpoint.settings.backoffBase.toNat retries ≤ since
  late : since ≤ ports.now origin.world +
    retries * (origin.endpoint.settings.attemptTimeout.toNat +
      origin.endpoint.settings.monitorInterval.toNat) +
    pauses origin.endpoint.settings.backoffBase.toNat retries
  begun : since ≤ ports.now s.world
  /-- The tick before this round found the attempt in time. -/
  checked : ports.now s.world ≤ since + origin.endpoint.settings.attemptTimeout.toNat +
    origin.endpoint.settings.monitorInterval.toNat

/-- When an attempt is found expired. -/
theorem Underway.window {ports : Ports W H} {asked : W → Nat} {origin s : Station W H}
    {retries since : Nat} (underway : Underway ports asked origin retries since s)
    (expired : origin.endpoint.settings.attemptTimeout.toNat < ports.now s.world - since) :
    ports.now origin.world + (retries + 1) * origin.endpoint.settings.attemptTimeout.toNat +
        pauses origin.endpoint.settings.backoffBase.toNat retries < ports.now s.world ∧
      ports.now s.world ≤ ports.now origin.world +
        (retries + 1) * (origin.endpoint.settings.attemptTimeout.toNat +
          origin.endpoint.settings.monitorInterval.toNat) +
        pauses origin.endpoint.settings.backoffBase.toNat retries := by
  obtain ⟨-, -, -, early, late, begun, checked⟩ := underway
  rw [Nat.mul_succ] at early
  rw [Nat.succ_mul, Nat.succ_mul]
  constructor
  · omega
  · omega

end Negotiation

section Watch

variable {ports : Ports W H} {asked : W → Nat} (sequential : ports.Sequential asked)
  {origin s : Station W H} {retries since : Nat}

include sequential

theorem restart_underway :
    Returns (restartNegotiation ports) origin fun _ t =>
      Underway ports asked origin 0 (ports.now origin.world) t := by
  apply (sequential.restartNegotiation_returns origin).mono
  intro _ t ⟨attempt, now, request⟩
  refine ⟨attempt, Nat.zero_le _, request, ?_, ?_, ?_, ?_⟩
  · simp [pauses]
  · simp [pauses]
  · omega
  · omega

theorem Negotiation.Underway.pending (underway : Underway ports asked origin retries since s)
    (small : Small (ports.mtu s.world))
    (early : ports.now s.world - since ≤ origin.endpoint.settings.attemptTimeout.toNat) :
    Returns (watchRound ports) s fun _ t => Underway ports asked origin retries since t ∧
      ports.now t.world = ports.now s.world + origin.endpoint.settings.monitorInterval.toNat := by
  have settings := underway.attempt.settings
  have tick := Ports.Sequential.monitorTick_pending underway.attempt small (by rw [settings]; exact early)
  apply (sequential.watchRound_returns tick).mono
  rintro _ u ⟨t, rfl, same, now, silent⟩
  rw [settings] at now
  obtain ⟨attempt, within, requests, first, last, begun, checked⟩ := underway
  refine ⟨⟨?_, within, silent.trans requests, first, last, ?_, ?_⟩, now⟩
  · rw [same]
    exact attempt
  · omega
  · omega

theorem Negotiation.Underway.retried (underway : Underway ports asked origin retries since s)
    (small : Small (ports.mtu s.world)) (jitter : origin.endpoint.settings.backoffJitter = 0)
    (late : origin.endpoint.settings.attemptTimeout.toNat < ports.now s.world - since)
    (left : retries < origin.endpoint.settings.maxRetries.toNat) :
    Returns (watchRound ports) s fun _ t => ∃ next,
      Underway ports asked origin (retries + 1) next t ∧
        ports.now t.world = next + origin.endpoint.settings.monitorInterval.toNat := by
  obtain ⟨attempt, within, requests, first, last, begun, checked⟩ := underway
  rw [← attempt.settings] at late
  have tick : Returns (monitorTick ports) s fun _ t =>
      Attempt origin.endpoint (retries + 1) (ports.now t.world) t.endpoint ∧
        ports.now t.world = ports.now s.world +
          origin.endpoint.settings.backoffBase.toNat * 2 ^ min retries 16 ∧
        asked t.world = asked s.world + 1 :=
    Ports.Sequential.monitorTick_expired attempt small late fun token endpoint overdue =>
      sequential.resolve_retry overdue jitter left
  rw [attempt.settings] at late
  apply (sequential.watchRound_returns tick).mono
  rintro _ u ⟨t, ⟨next, paused, request⟩, same, now, silent⟩
  rw [next.settings] at now
  refine ⟨ports.now t.world, ⟨?_, left, ?_, ?_, ?_, ?_, ?_⟩, now⟩
  · rw [same]
    exact next
  · omega
  · rw [pauses_succ, Nat.succ_mul]
    omega
  · rw [pauses_succ, Nat.succ_mul]
    omega
  · omega
  · omega

/-- No attempt lasts forever, and there are only so many: some round sees a large unit, or
finds the last attempt expired. -/
theorem Negotiation.Underway.settles (interval : 0 < origin.endpoint.settings.monitorInterval.toNat)
    (jitter : origin.endpoint.settings.backoffJitter = 0) {rounds : Nat → Station W H}
    (follows : ∀ n, exec (watchRound ports) (rounds n) = (.ok (), rounds (n + 1)))
    {n retries since : Nat}
    (underway : Underway ports asked origin retries since (rounds n)) :
    ∃ m, n ≤ m ∧ (∀ i, n ≤ i → i < m → (rounds i).endpoint.state.negotiating = true ∧
        Small (ports.mtu (rounds i).world)) ∧
      ∃ retries since, Underway ports asked origin retries since (rounds m) ∧
        (Small (ports.mtu (rounds m).world) →
          origin.endpoint.settings.attemptTimeout.toNat <
            ports.now (rounds m).world - since ∧
          origin.endpoint.settings.maxRetries.toNat ≤ retries) := by
  have checked := underway.checked
  have within := underway.within
  by_cases small : Small (ports.mtu (rounds n).world)
  · have waits : (rounds n).endpoint.state.negotiating = true ∧
        Small (ports.mtu (rounds n).world) := ⟨underway.attempt.negotiating, small⟩
    by_cases late : origin.endpoint.settings.attemptTimeout.toNat <
        ports.now (rounds n).world - since
    · by_cases left : retries < origin.endpoint.settings.maxRetries.toNat
      · -- The next attempt begins in this round, and one retry less is left.
        obtain ⟨next, again, -⟩ :=
          (underway.retried sequential small jitter late left).of_exec (follows n)
        obtain ⟨m, after, before, decisive⟩ := again.settles interval jitter follows
        refine ⟨m, Nat.le_of_succ_le after, fun i from_ until_ => ?_, decisive⟩
        rcases Nat.eq_or_lt_of_le from_ with rfl | later
        · exact waits
        · exact before i later until_
      · exact ⟨n, Nat.le_refl n, fun i from_ until_ => by omega, retries, since, underway,
          fun _ => ⟨late, Nat.not_lt.mp left⟩⟩
    · -- The attempt goes on, and less of its time is left.
      obtain ⟨still, now⟩ :=
        (underway.pending sequential small (Nat.not_lt.mp late)).of_exec (follows n)
      obtain ⟨m, after, before, decisive⟩ := still.settles interval jitter follows
      refine ⟨m, Nat.le_of_succ_le after, fun i from_ until_ => ?_, decisive⟩
      rcases Nat.eq_or_lt_of_le from_ with rfl | later
      · exact waits
      · exact before i later until_
  · exact ⟨n, Nat.le_refl n, fun i from_ until_ => by omega, retries, since, underway,
      fun small' => absurd small' small⟩
termination_by (origin.endpoint.settings.maxRetries.toNat - retries,
  since + origin.endpoint.settings.attemptTimeout.toNat +
    origin.endpoint.settings.monitorInterval.toNat - ports.now (rounds n).world)
decreasing_by
  · exact .left _ _ (by omega)
  · exact .right _ (by omega)

omit sequential in
/-- The tick in which the last attempt is found expired. -/
theorem Negotiation.Underway.failed (underway : Underway ports asked origin retries since s)
    (small : Small (ports.mtu s.world))
    (late : origin.endpoint.settings.attemptTimeout.toNat < ports.now s.world - since)
    (spent : origin.endpoint.settings.maxRetries.toNat ≤ retries) :
    Returns (monitorTick ports) s fun result t =>
      result = some (.failed origin.endpoint.settings.fallbackUnit) ∧ t.world = s.world ∧
        GivenUp origin.endpoint (retries + 1) t.endpoint := by
  have settings := underway.attempt.settings
  rw [← settings] at late
  apply Ports.Sequential.monitorTick_expired underway.attempt small late
  intro token endpoint overdue
  apply (Ports.Sequential.resolve_failed overdue spent).mono
  rintro _ t ⟨rfl, world, givenUp⟩
  exact ⟨rfl, world, givenUp⟩

/-- A settled negotiation, which no tick looks at any more. -/
def Negotiation.Settled (state : LinkState) : Prop :=
  state.negotiating = false ∧ state ≠ .timeout

omit sequential in
theorem Negotiation.settled_completed (mtu : UInt16) : Settled (.completed mtu) := ⟨rfl, nofun⟩

omit sequential in
theorem Negotiation.settled_failed (fallback : UInt16) : Settled (.failed fallback) := ⟨rfl, nofun⟩

theorem watchRound_settled (settled : Settled s.endpoint.state) :
    Returns (watchRound ports) s fun _ t => t.endpoint = s.endpoint := by
  have tick : Returns (monitorTick ports) s fun _ t => t = s :=
    Ports.Sequential.monitorTick_settled settled.1 settled.2
  apply (sequential.watchRound_returns tick).mono
  rintro _ u ⟨t, rfl, same, -⟩
  exact same

/-- Every round comes back, and after it an attempt is under way or all is settled. -/
theorem watch_returns (jitter : origin.endpoint.settings.backoffJitter = 0) (n : Nat) :
    Returns (watch ports n) origin fun _ t =>
      (∃ retries since, Underway ports asked origin retries since t) ∨
        Settled t.endpoint.state := by
  induction n with
  | zero =>
    apply (restart_underway sequential).mono
    intro _ t underway
    exact .inl ⟨0, _, underway⟩
  | succ n ih =>
    apply ih.bind
    rintro _ s (⟨retries, since, underway⟩ | settled)
    -- The tick spends a retry, fails, waits or completes, in this order.
    · by_cases small : Small (ports.mtu s.world)
      · by_cases late : origin.endpoint.settings.attemptTimeout.toNat < ports.now s.world - since
        · by_cases left : retries < origin.endpoint.settings.maxRetries.toNat
          · apply (underway.retried sequential small jitter late left).mono
            rintro _ t ⟨next, again, -⟩
            exact .inl ⟨_, next, again⟩
          · have tick := underway.failed small late (Nat.not_lt.mp left)
            have given := tick.mono fun _ t known => known.2.2.state
            apply (sequential.watchRound_returns given).mono
            rintro _ u ⟨t, state, same, -⟩
            right
            rw [same, state]
            exact settled_failed _
        · apply (underway.pending sequential small (Nat.not_lt.mp late)).mono
          intro _ t known
          exact .inl ⟨_, _, known.1⟩
      · have tick := Ports.Sequential.monitorTick_completed underway.attempt small
        have completed := tick.mono fun _ t known => known.2
        apply (sequential.watchRound_returns completed).mono
        rintro _ u ⟨t, state, same, -⟩
        right
        rw [same, state]
        exact settled_completed _
    · apply (watchRound_settled sequential settled).mono
      intro _ t same
      right
      rw [same]
      exact settled

/-- Once a tick settled the negotiation, the endpoint stays as that tick left it. -/
theorem settled_for_good {rounds : Nat → Station W H}
    (follows : ∀ n, exec (watchRound ports) (rounds n) = (.ok (), rounds (n + 1))) {n : Nat}
    {result : Option Resolution} {t : Station W H}
    (tick : exec (monitorTick ports) (rounds n) = (.ok result, t))
    (settled : Settled t.endpoint.state) {m : Nat} (later : n < m) :
    (rounds m).endpoint = t.endpoint := by
  induction m, later using Nat.le_induction with
  | base =>
    have same : Returns (monitorTick ports) (rounds n) fun _ u => u = t := ⟨result, t, tick, rfl⟩
    obtain ⟨_, rfl, left, -⟩ := (sequential.watchRound_returns same).of_exec (follows n)
    exact left
  | succ m _ ih =>
    rw [← ih] at settled
    exact ((watchRound_settled sequential settled).of_exec (follows m)).trans ih

/-- Where nothing else goes on and pauses have no random part, a negotiation that is checked
in every period of the monitor is settled by a tick. All ticks before it find an attempt
under way and no large unit. If it sees one itself, the negotiation is complete with that for
good, also when the attempt's time was over. Otherwise all attempts were requested and
expired, and the negotiation failed for good, each attempt later than its time by no more
than a period. -/
theorem negotiation_settles_in_time (origin : Station W H)
    (interval : 0 < origin.endpoint.settings.monitorInterval.toNat)
    (jitter : origin.endpoint.settings.backoffJitter = 0) :
    let settings := origin.endpoint.settings
    let attempts := settings.maxRetries.toNat + 1
    let timeout := settings.attemptTimeout.toNat
    let period := settings.monitorInterval.toNat
    let pauses := ∑ k ∈ Finset.Icc 1 settings.maxRetries.toNat,
      settings.backoffBase.toNat * 2 ^ min (k - 1) 16
    let fallback := max settings.fallbackMtu 100
    ∃ rounds : Nat → Station W H, (∀ n, exec (watch ports n) origin = (.ok (), rounds n)) ∧
      ∃ n, (∀ m < n, (rounds m).endpoint.state.negotiating = true ∧
          (ports.mtu (rounds m).world).toNat ≤ 23) ∧
        ∃ result t, exec (monitorTick ports) (rounds n) = (.ok result, t) ∧
          (∀ m, n < m → (rounds m).endpoint = t.endpoint) ∧
          if 23 < (ports.mtu (rounds n).world).toNat then
            t.endpoint.state = .completed (ports.mtu (rounds n).world)
          else
            result = some (.failed fallback) ∧ t.endpoint.state = .failed fallback ∧
              ports.now origin.world + attempts * timeout + pauses < ports.now t.world ∧
              ports.now t.world ≤ ports.now origin.world + attempts * (timeout + period) + pauses ∧
              asked t.world = asked origin.world + attempts ∧
              t.endpoint.counters.negotiationAttempts =
                origin.endpoint.counters.negotiationAttempts + attempts ∧
              t.endpoint.counters.negotiationTimeouts =
                origin.endpoint.counters.negotiationTimeouts + attempts ∧
              t.endpoint.counters.negotiationFailures =
                origin.endpoint.counters.negotiationFailures + 1 ∧
              ∀ mtu, t.endpoint.chunkSize mtu = min (notifyLength fallback) maxChunk := by
  intro settings attempts timeout period pauses fallback
  -- The run of `n` rounds is the beginning of the run of `n + 1`.
  choose _ rounds returned watched using watch_returns sequential jitter
  have follows : ∀ n, exec (watchRound ports) (rounds n) = (.ok (), rounds (n + 1)) := by
    intro n
    rw [← exec_bind_of_ok (returned n) fun _ => watchRound ports]
    exact returned (n + 1)
  have started := (restart_underway sequential).of_exec (returned 0)
  obtain ⟨n, -, before, retries, since, underway, decisive⟩ :=
    started.settles sequential interval jitter follows
  refine ⟨rounds, returned, n, fun m less => before m (Nat.zero_le m) less, ?_⟩
  by_cases large : 23 < (ports.mtu (rounds n).world).toNat
  · obtain ⟨result, t, tick, -, state⟩ :=
      Ports.Sequential.monitorTick_completed underway.attempt (Nat.not_le.mpr large)
    have settled : Settled t.endpoint.state := by
      rw [state]
      exact settled_completed _
    refine ⟨result, t, tick, fun m => settled_for_good sequential follows tick settled, ?_⟩
    rw [if_pos large]
    exact state
  · obtain ⟨late, spent⟩ := decisive (Nat.not_lt.mp large)
    obtain ⟨result, t, tick, failed, world, givenUp⟩ :=
      underway.failed (Nat.not_lt.mp large) late spent
    have settled : Settled t.endpoint.state := by
      rw [givenUp.state]
      exact settled_failed _
    refine ⟨result, t, tick, fun m => settled_for_good sequential follows tick settled, ?_⟩
    rw [if_neg large]
    -- The attempt that expired is the last one.
    obtain rfl : retries = origin.endpoint.settings.maxRetries.toNat :=
      Nat.le_antisymm underway.within spent
    obtain ⟨above, below⟩ := underway.window late
    rw [← world] at above below
    refine ⟨failed, givenUp.state, above, below, ?_, givenUp.attempts, givenUp.timeouts,
      givenUp.failures, ?_⟩
    · rw [world]
      exact underway.requests
    · intro mtu
      simp only [Endpoint.chunkSize, givenUp.state]
      rfl

end Watch

/-- Ports of a peer that never exchanges units. The world is a clock and a count of requests,
of which the link refuses every second one. -/
def silentPorts : Ports (Nat × Nat) Empty where
  notify _ := return .error .notConnected
  requestMtu _ := do
    modifyWorld fun (clock, requests) => (clock, requests + 1)
    return if (← world).2 % 2 = 0 then .error .notConnected else .ok ()
  restartAdvertising := pure ()
  mtu _ := UInt16.ofNat defaultMtu
  now := Prod.fst
  sleep time := modifyWorld fun (clock, requests) => (clock + time, requests)
  randomBelow _ := return 0
  freeBytes := return 0
  minFreeBytes _ := 0
  allocate _ _ := return false
  handle handler _ := nomatch handler
  hasTelemetry _ := false
  nextTelemetry := return none
  rounds := 0

theorem silentPorts_sequential : silentPorts.Sequential Prod.snd where
  requestMtu _ _ := ⟨_, _, rfl, rfl, rfl, rfl⟩
  sleep _ _ := ⟨(), _, rfl, rfl, rfl, rfl⟩
  randomBelow _ _ := ⟨0, _, rfl, id, rfl, rfl, rfl⟩

/-- Three attempts, with pauses of 100 and 200 between them. -/
theorem negotiation_settles_in_time_of_silent_peer :
    ∃ rounds : Nat → Station (Nat × Nat) Empty,
      (∀ n, exec (watch silentPorts n) ⟨.fresh { backoffJitter := 0 }, (7, 0)⟩ =
        (.ok (), rounds n)) ∧
      ∃ n result t, exec (monitorTick silentPorts) (rounds n) = (.ok result, t) ∧
        result = some (.failed 185) ∧ 7 + 15300 < t.world.1 ∧ t.world.1 ≤ 7 + 16800 ∧
        t.world.2 = 3 ∧ ∀ m, n < m → (rounds m).endpoint.chunkSize 23 = 182 := by
  obtain ⟨rounds, returned, n, -, result, t, tick, after, verdict⟩ :=
    negotiation_settles_in_time silentPorts_sequential ⟨.fresh { backoffJitter := 0 }, (7, 0)⟩
      (by decide) rfl
  have small : ¬23 < (silentPorts.mtu (rounds n).world).toNat := Nat.lt_irrefl 23
  rw [if_neg small] at verdict
  obtain ⟨failed, -, above, below, requests, -, -, -, chunk⟩ := verdict
  refine ⟨rounds, returned, n, result, t, tick, failed, above, below, requests, ?_⟩
  intro m later
  rw [after m later, chunk]
  rfl

end CommandLink
