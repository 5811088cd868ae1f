import CommandLink.Endpoint.Lifecycle
import CommandLink.Proofs.SendingApart
import Mathlib.Logic.Relation

/-!
# Negotiations that are interleaved

The lock on the control block is held for one step at a time. Between the steps of one
procedure any others may run: a monitor tick while another one pauses, a disconnect while
the link is asked for a unit, a whole connection after a token was handed out. So a run of
the negotiation is any sequence of steps (`Move`), from whichever procedures they come.

A step is a step of the endpoint itself. Beside the station stands a chronicle, which says
what the steps came to since the negotiation was last started or stopped. The procedures
of an endpoint are such runs, however deep they are nested in each other (`Proceeds`).
-/

namespace CommandLink

namespace Negotiation

namespace Control

/-! ## What each step does to a control block -/

variable {token : Expired} {control : Control}

theorem honours_iff :
    control.honours token = true ↔ control.epoch = token.epoch ∧ control.state = .timeout := by
  simp [honours]

/-- A check completes the attempt under way, or finds it expired, or changes nothing. -/
theorem poll_cases (now timeout : Nat) (mtu : UInt16) (control : Control) :
    (control.state.negotiating = true ∧ defaultMtu < mtu.toNat ∧
      (control.poll now timeout mtu).2 = { control with state := .completed mtu }) ∨
    (control.state.negotiating = true ∧
      (control.poll now timeout mtu).2 = { control with state := .timeout }) ∨
    (control.poll now timeout mtu).2 = control := by
  unfold poll
  split
  next negotiating =>
    -- An attempt is under way, and first of all the unit decides.
    simp only [LinkState.observe, negotiating, Bool.true_and, decide_eq_true_eq]
    by_cases large : defaultMtu < mtu.toNat
    · rw [if_pos large]
      exact .inl ⟨trivial, large, rfl⟩
    · rw [if_neg large]
      right
      split
      next completed => simp [completed, LinkState.negotiating] at negotiating
      next =>
        -- With a small unit the time decides.
        split
        next => exact .inl ⟨trivial, rfl⟩
        next => exact .inr rfl
  next =>
    -- An attempt that expired before is only reported again.
    right
    right
    split
    next => rfl
    next => rfl

/-- A token speaks for the epoch in which it was handed out. -/
theorem epoch_of_poll_expired {now timeout : Nat} {mtu : UInt16}
    (expired : (control.poll now timeout mtu).1 = .expired token) :
    token.epoch = control.epoch := by
  unfold poll at expired
  split at expired
  next =>
    split at expired
    next => cases expired
    next =>
      split at expired
      next =>
        cases expired
        rfl
      next => cases expired
  next =>
    split at expired
    next =>
      cases expired
      rfl
    next => cases expired

theorem judge_of_stale (stale : control.honours token = false) (maxRetries : Nat)
    (fallback : UInt16) : control.judge token maxRetries fallback = (.stale, control) := by
  simp [judge, stale]

/-- A token that is honoured ends the negotiation, or costs a retry. -/
theorem judge_of_honoured (honoured : control.honours token = true) (maxRetries : Nat)
    (fallback : UInt16) :
    control.judge token maxRetries fallback =
      if maxRetries ≤ control.retries then
        (.failed, { control with state := .failed fallback })
      else
        (.retry (control.retries + 1), { control with retries := control.retries + 1 }) := by
  have expired := (honours_iff.mp honoured).2
  simp [judge, honoured, expired, LinkState.fail]

theorem judge_stale_iff (maxRetries : Nat) (fallback : UInt16) :
    (control.judge token maxRetries fallback).1 = .stale ↔ control.honours token = false := by
  constructor
  · intro void
    rw [← Bool.not_eq_true]
    intro honoured
    rw [judge_of_honoured honoured] at void
    split at void
    next => cases void
    next => cases void
  · intro stale
    rw [judge_of_stale stale]

theorem resume?_of_stale (stale : control.honours token = false) (now : Nat) :
    control.resume? token now = none := by
  simp [resume?, stale]

theorem resume?_of_honoured (honoured : control.honours token = true) (now : Nat) :
    control.resume? token now = some { control with state := .initiating now } := by
  have expired := (honours_iff.mp honoured).2
  simp [resume?, honoured, expired, LinkState.retry]

theorem requested_of_other {epoch : UInt32} (other : control.epoch ≠ epoch) :
    control.requested epoch = control := if_neg other

/-- The answer to a request only moves an attempt on. -/
theorem requested_cases (epoch : UInt32) (control : Control) :
    (∃ since, control.state = .initiating since ∧
      control.requested epoch = { control with state := .inProgress since }) ∨
    control.requested epoch = control := by
  unfold requested
  split
  next =>
    unfold LinkState.requested
    split
    next since begun => exact .inl ⟨since, begun, rfl⟩
    next => exact .inr rfl
  next => exact .inr rfl

@[simp] theorem poll_epoch (now timeout : Nat) (mtu : UInt16) :
    (control.poll now timeout mtu).2.epoch = control.epoch := by
  rcases control.poll_cases now timeout mtu with ⟨-, -, completed⟩ | ⟨-, expired⟩ | same
  · rw [completed]
  · rw [expired]
  · rw [same]

@[simp] theorem judge_epoch (maxRetries : Nat) (fallback : UInt16) :
    (control.judge token maxRetries fallback).2.epoch = control.epoch := by
  by_cases honoured : control.honours token = true
  · rw [judge_of_honoured honoured]
    split <;> rfl
  · rw [judge_of_stale (Bool.eq_false_iff.mpr honoured)]

@[simp] theorem requested_epoch (epoch : UInt32) :
    (control.requested epoch).epoch = control.epoch := by
  rcases control.requested_cases epoch with ⟨since, -, moved⟩ | same
  · rw [moved]
  · rw [same]

end Control

end Negotiation

/-! ## What each step does to an endpoint -/

namespace Endpoint

variable {H : Type} (endpoint : Endpoint H)

@[simp] theorem restart_negotiation (now : Nat) :
    (endpoint.restart now).2.negotiation = endpoint.negotiation.restart now := rfl

@[simp] theorem restart_settings (now : Nat) :
    (endpoint.restart now).2.settings = endpoint.settings := rfl

@[simp] theorem poll_negotiation (now : Nat) (mtu : UInt16) :
    (endpoint.poll now mtu).2.negotiation =
      (endpoint.negotiation.poll now endpoint.settings.attemptTimeout.toNat mtu).2 := by
  unfold poll
  dsimp only
  split
  next => rfl
  next => rfl
  next => rfl
  next => split <;> rfl

@[simp] theorem poll_verdict (now : Nat) (mtu : UInt16) :
    (endpoint.poll now mtu).1 =
      (endpoint.negotiation.poll now endpoint.settings.attemptTimeout.toNat mtu).1 := rfl

@[simp] theorem poll_settings (now : Nat) (mtu : UInt16) :
    (endpoint.poll now mtu).2.settings = endpoint.settings := by
  unfold poll
  dsimp only
  split
  next => rfl
  next => rfl
  next => rfl
  next => split <;> rfl

@[simp] theorem judge_negotiation (token : Negotiation.Expired) :
    (endpoint.judge token).2.negotiation =
      (endpoint.negotiation.judge token endpoint.settings.maxRetries.toNat
        endpoint.settings.fallbackUnit).2 := by
  unfold judge
  dsimp only
  split <;> rfl

@[simp] theorem judge_decision (token : Negotiation.Expired) :
    (endpoint.judge token).1 =
      (endpoint.negotiation.judge token endpoint.settings.maxRetries.toNat
        endpoint.settings.fallbackUnit).1 := rfl

@[simp] theorem judge_settings (token : Negotiation.Expired) :
    (endpoint.judge token).2.settings = endpoint.settings := by
  unfold judge
  dsimp only
  split <;> rfl

@[simp] theorem resume_settings (token : Negotiation.Expired) (now : Nat) :
    (endpoint.resume token now).2.settings = endpoint.settings := by
  unfold resume
  split <;> rfl

theorem resume_of_honoured {token : Negotiation.Expired}
    (honoured : endpoint.negotiation.honours token = true) (now : Nat) :
    (endpoint.resume token now).1 = true ∧
      (endpoint.resume token now).2.negotiation =
        { endpoint.negotiation with state := .initiating now } := by
  simp only [resume, Negotiation.Control.resume?_of_honoured honoured]
  exact ⟨trivial, rfl⟩

theorem judge_of_stale {token : Negotiation.Expired}
    (stale : endpoint.negotiation.honours token = false) :
    endpoint.judge token = (.stale, endpoint) := by
  simp [judge, Negotiation.Control.judge_of_stale stale]

theorem resume_of_stale {token : Negotiation.Expired}
    (stale : endpoint.negotiation.honours token = false) (now : Nat) :
    endpoint.resume token now = (false, endpoint) := by
  simp [resume, Negotiation.Control.resume?_of_stale stale]

@[simp] theorem resume_epoch (token : Negotiation.Expired) (now : Nat) :
    (endpoint.resume token now).2.negotiation.epoch = endpoint.negotiation.epoch := by
  by_cases honoured : endpoint.negotiation.honours token = true
  · rw [(endpoint.resume_of_honoured honoured now).2]
  · rw [endpoint.resume_of_stale (Bool.eq_false_iff.mpr honoured)]

theorem requested_of_other {epoch : UInt32} (other : endpoint.negotiation.epoch ≠ epoch) :
    endpoint.requested epoch = endpoint := by
  simp [requested, Negotiation.Control.requested_of_other other]

end Endpoint

namespace Negotiation

/-! ## Runs -/

/-- What was done since the negotiation was last started or stopped, with all starts and
stops and with the pauses that are under way. -/
structure Chronicle where
  starts : Nat := 0
  stops : Nat := 0
  /-- The units at which the negotiation was checked, latest first. -/
  polled : List UInt16 := []
  /-- Attempts that were begun, each with a request to the link. -/
  requests : Nat := 0
  /-- How often an attempt expired. -/
  timeouts : Nat := 0
  /-- The tokens that are being resolved and wait for the end of their pause. -/
  pausing : List Expired := []
  /-- Whether a token was honoured while the same one was pausing. -/
  crowded : Bool := false

namespace Chronicle

/-- The epochs that have begun. -/
def epochs (c : Chronicle) : Nat := c.starts + c.stops

def started (c : Chronicle) : Chronicle :=
  { starts := c.starts + 1, stops := c.stops, pausing := c.pausing, requests := 1 }

def stopped (c : Chronicle) : Chronicle :=
  { starts := c.starts, stops := c.stops + 1, pausing := c.pausing }

/-- The negotiation was checked at a unit. -/
def checked (mtu : UInt16) (before after : LinkState) (c : Chronicle) : Chronicle :=
  { c with
    polled := mtu :: c.polled
    timeouts := if before ≠ .timeout ∧ after = .timeout then c.timeouts + 1 else c.timeouts }

/-- It was decided what follows from an expired attempt. -/
def judged (token : Expired) (decision : Control.Decision) (c : Chronicle) : Chronicle :=
  match decision with
  | .stale => c
  | .failed => { c with crowded := c.crowded || c.pausing.contains token }
  | .retry _ =>
    { c with crowded := c.crowded || c.pausing.contains token, pausing := token :: c.pausing }

/-- A pause ended, with another attempt or with none. -/
def resumed (token : Expired) (again : Bool) (c : Chronicle) : Chronicle :=
  { c with
    pausing := c.pausing.erase token
    requests := if again then c.requests + 1 else c.requests }

end Chronicle

/-- A station, and what came of its negotiation so far. -/
structure Scene (W H : Type) where
  station : Station W H
  chronicle : Chronicle := {}

variable {W H : Type}

/-- Before anything happened. -/
def Scene.fresh (settings : Settings) (world : W) : Scene W H :=
  { station := ⟨.fresh settings, world⟩ }

/-- The negotiation of a scene. -/
abbrev Scene.control (scene : Scene W H) : Control := scene.station.endpoint.negotiation

/-- One thing that may go on. The link has a unit in every world. -/
inductive Move (unit : W → UInt16) : Scene W H → Scene W H → Prop where
  /-- Whatever leaves the negotiation alone; the link may have another unit behind it. -/
  | apart {s t} (c) (negotiation : t.endpoint.negotiation = s.endpoint.negotiation)
      (settings : t.endpoint.settings = s.endpoint.settings) : Move unit ⟨s, c⟩ ⟨t, c⟩
  | restart (s c) (now : Nat) :
    Move unit ⟨s, c⟩ ⟨{ s with endpoint := (s.endpoint.restart now).2 }, c.started⟩
  | stop (s c) : Move unit ⟨s, c⟩ ⟨{ s with endpoint := s.endpoint.stop }, c.stopped⟩
  | poll (s c) (now : Nat) :
    Move unit ⟨s, c⟩ ⟨{ s with endpoint := (s.endpoint.poll now (unit s.world)).2 },
      c.checked (unit s.world) s.endpoint.state (s.endpoint.poll now (unit s.world)).2.state⟩
  | judge (s c) (token : Expired) :
    Move unit ⟨s, c⟩ ⟨{ s with endpoint := (s.endpoint.judge token).2 },
      c.judged token (s.endpoint.judge token).1⟩
  /-- Only one who paused goes on. -/
  | resume (s c) (token : Expired) (paused : token ∈ c.pausing) (now : Nat) :
    Move unit ⟨s, c⟩ ⟨{ s with endpoint := (s.endpoint.resume token now).2 },
      c.resumed token (s.endpoint.resume token now).1⟩
  | requested (s c) (epoch : UInt32) :
    Move unit ⟨s, c⟩ ⟨{ s with endpoint := s.endpoint.requested epoch }, c⟩

/-- Any number of things that go on, one after the other. -/
def Interleaved (unit : W → UInt16) : Scene W H → Scene W H → Prop :=
  Relation.ReflTransGen (Move unit)

theorem Move.settings {unit : W → UInt16} {a b : Scene W H} (move : Move unit a b) :
    b.station.endpoint.settings = a.station.endpoint.settings := by
  cases move with
  | apart _ _ settings => exact settings
  | restart => rfl
  | stop => rfl
  | poll s c now => exact s.endpoint.poll_settings now _
  | judge s c token => exact s.endpoint.judge_settings token
  | resume s c token _ now => exact s.endpoint.resume_settings token now
  | requested => rfl

theorem Interleaved.settings {unit : W → UInt16} {a b : Scene W H} (run : Interleaved unit a b) :
    b.station.endpoint.settings = a.station.endpoint.settings := by
  induction run with
  | refl => rfl
  | tail _ move ih => exact move.settings.trans ih

/-- From one station to another by things that go on. Every pause that begins on the way
ends on it. -/
def Proceeds (unit : W → UInt16) (s t : Station W H) : Prop :=
  ∀ c, ∃ d : Chronicle, Interleaved unit ⟨s, c⟩ ⟨t, d⟩ ∧ d.pausing = c.pausing

theorem proceeds_bookless (unit : W → UInt16) : Bookless (Proceeds unit (H := H)) where
  refl s c := ⟨c, .refl, rfl⟩
  trans s t u there further c := by
    obtain ⟨d, first, kept⟩ := there c
    obtain ⟨e, second, same⟩ := further d
    exact ⟨e, first.trans second, same.trans kept⟩
  books s endpoint same c := by
    have negotiation := congrArg Endpoint.negotiation same
    have settings := congrArg Endpoint.settings same
    exact ⟨c, .single (.apart c negotiation settings), rfl⟩

/-- A step during which no pause begins or ends. -/
theorem Proceeds.of_move {unit : W → UInt16} {s t : Station W H} {change : Chronicle → Chronicle}
    (move : ∀ c, Move unit ⟨s, c⟩ ⟨t, change c⟩) (kept : ∀ c, (change c).pausing = c.pausing) :
    Proceeds unit s t :=
  fun c => ⟨change c, .single (move c), kept c⟩

end Negotiation

open Act Negotiation

variable {W H : Type}

/-- The ports that the negotiation uses come back, whatever goes on while they are called. -/
structure Ports.Proceeding (ports : Ports W H) : Prop
    extends ports.Within (Proceeds ports.mtu) where
  requestMtu : ∀ mtu, Act.Within (Proceeds ports.mtu) (ports.requestMtu mtu)
  randomBelow : ∀ bound, Act.Within (Proceeds ports.mtu) (ports.randomBelow bound)
  restartAdvertising : Act.Within (Proceeds ports.mtu) ports.restartAdvertising

namespace Ports.Proceeding

variable {ports : Ports W H} (proceeding : ports.Proceeding)

include proceeding

theorem requestUnit_within (epoch : UInt32) :
    Act.Within (Proceeds ports.mtu) (requestUnit ports epoch) := by
  have bookless := proceeds_bookless (H := H) ports.mtu
  refine bookless.bind bookless.endpoint fun endpoint => ?_
  refine bookless.bind (proceeding.requestMtu endpoint.settings.preferredMtu) fun answer => ?_
  cases answer with
  | ok =>
    refine within_modifyEndpoint fun s => ?_
    exact .of_move (fun c => .requested s c epoch) fun _ => rfl
  | error error => exact bookless.pure ()

theorem restartNegotiation_within :
    Act.Within (Proceeds ports.mtu) (restartNegotiation ports) := by
  have bookless := proceeds_bookless (H := H) ports.mtu
  refine bookless.bind bookless.world fun world => ?_
  refine bookless.bind (fun s => ?_) fun epoch => proceeding.requestUnit_within epoch
  exact ⟨_, _, rfl, .of_move (fun c => .restart s c (ports.now world)) fun _ => rfl⟩

theorem backOff_within (attempt : Nat) :
    Act.Within (Proceeds ports.mtu) (backOff ports attempt) := by
  have bookless := proceeds_bookless (H := H) ports.mtu
  refine bookless.bind bookless.endpoint fun endpoint => ?_
  refine bookless.bind (proceeding.randomBelow _) fun jitter => ?_
  exact bookless.bind (proceeding.sleep _) fun _ => bookless.pure _

/-- What follows a pause: the token is among those that wait, and leaves them. -/
theorem resume_returns (token : Expired) (attempt delay : Nat) (s : Station W H) :
    Returns (do
      let now := ports.now (← world)
      if ← step (·.resume token now) then
        requestUnit ports token.epoch
        return Resolution.retrying attempt delay
      else
        return Resolution.stale) s fun _ t =>
      ∀ c : Chronicle, token ∈ c.pausing →
        ∃ d : Chronicle, Interleaved ports.mtu ⟨s, c⟩ ⟨t, d⟩ ∧
          d.pausing = c.pausing.erase token := by
  refine returns_world (returns_step ?_)
  split
  next =>
    -- The pause is over with this step; the request behind it may be overtaken as well.
    refine (proceeding.requestUnit_within token.epoch _).bind fun _ t further => ?_
    refine returns_pure fun c paused => ?_
    obtain ⟨d, run, kept⟩ := further (c.resumed token (s.endpoint.resume token _).1)
    exact ⟨d, .head (.resume s c token paused _) run, kept⟩
  next =>
    exact returns_pure fun c paused => ⟨_, .single (.resume s c token paused _), rfl⟩

theorem resolve_within (token : Expired) :
    Act.Within (Proceeds ports.mtu) (resolve ports token) := by
  intro s
  have judged : ∀ c, Move ports.mtu ⟨s, c⟩ _ := fun c => .judge s c token
  refine returns_step ?_
  cases decision : (s.endpoint.judge token).1 with
  | stale =>
    rw [decision] at judged
    exact returns_pure (.of_move judged fun _ => rfl)
  | failed =>
    rw [decision] at judged
    exact returns_endpoint (returns_pure (.of_move judged fun _ => rfl))
  | retry attempt =>
    rw [decision] at judged
    refine (proceeding.backOff_within attempt _).bind fun delay u paused => ?_
    refine (proceeding.resume_returns token attempt delay u).mono fun _ t resumed c => ?_
    -- The token waits from here on, and whatever goes on in the pause leaves it waiting.
    obtain ⟨d, pause, waiting⟩ := paused (c.judged token (.retry attempt))
    have listed : token ∈ d.pausing := by
      rw [waiting]
      exact List.mem_cons_self
    obtain ⟨e, rest, left⟩ := resumed d listed
    refine ⟨e, .head (judged c) (pause.trans rest), ?_⟩
    rw [left, waiting]
    exact List.erase_cons_head token c.pausing

theorem monitorTick_within : Act.Within (Proceeds ports.mtu) (monitorTick ports) := by
  have bookless := proceeds_bookless (H := H) ports.mtu
  intro s
  refine returns_world (returns_step ?_)
  have polled : Proceeds ports.mtu s _ :=
    .of_move (fun c => .poll s c (ports.now s.world)) fun _ => rfl
  split
  next token _ =>
    refine (proceeding.resolve_within token _).bind fun resolution t further => ?_
    exact returns_pure (bookless.trans _ _ _ polled further)
  next => exact returns_pure polled

theorem onConnect_within : Act.Within (Proceeds ports.mtu) (onConnect ports) := by
  have bookless := proceeds_bookless (H := H) ports.mtu
  refine bookless.bind proceeding.restartNegotiation_within fun _ => ?_
  refine bookless.bind bookless.endpoint fun endpoint => ?_
  refine bookless.bind (proceeding.sleep _) fun _ => ?_
  exact proceeding.monitorTick_within.discard

theorem onDisconnect_within : Act.Within (Proceeds ports.mtu) (onDisconnect ports) := by
  have bookless := proceeds_bookless (H := H) ports.mtu
  refine bookless.bind (within_modifyEndpoint fun s => ?_) fun _ => proceeding.restartAdvertising
  -- The end of streaming is no matter of the negotiation, the stop behind it is.
  have streamless : Proceeds ports.mtu s
      { s with endpoint := { s.endpoint with streaming := false } } :=
    .of_move (fun c => .apart c rfl rfl) fun _ => rfl
  exact bookless.trans _ _ _ streamless (.of_move (fun c => .stop _ c) fun _ => rfl)

end Ports.Proceeding

end CommandLink
