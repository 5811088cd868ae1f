import CommandLink.Proofs.Deadline
import CommandLink.Proofs.Scratch

/-!
# Negotiating with narrow numbers

Numbers can be kept in words of fixed width: the retries in 8 bits, the counters in 32 and the
pauses in 64. Then a sum or a product may be too large for its word. The procedures here are
those of negotiating with such words, and a number that does not fit its word is a crash, which
leaves what was written before it.

The retries are never more than there are, so they fit. But a check that finds an attempt
expired also computes the number of that attempt, which is one more. When 255 retries are
allowed and all of them are spent, it does not fit, and the check crashes. Apart from that,
nothing overflows as long as the counters have room, however the procedures are interleaved.
-/

namespace CommandLink

open Act Negotiation

variable {W H α β : Type}

namespace Narrow

/-! ## Words -/

/-- The sum of two numbers, if it fits a word of so many bits. -/
def sum? (bits a b : Nat) : Option Nat := if a + b < 2 ^ bits then some (a + b) else none

/-- The product of two numbers, if it fits a word of so many bits. -/
def product? (bits a b : Nat) : Option Nat := if a * b < 2 ^ bits then some (a * b) else none

theorem none_eq_sum?_iff {bits a b : Nat} : none = sum? bits a b ↔ 2 ^ bits ≤ a + b := by
  simp [sum?]

/-- The pause before a retry, computed in a word of 64 bits. -/
def backoff? (base attempt jitter : Nat) : Option Nat := do
  sum? 64 (← product? 64 base (2 ^ min (attempt - 1) 16)) jitter

/-- A pause doubles sixteen times at most, which leaves room in its word. -/
theorem backoff_lt {base jitter : Nat} (short : base < 2 ^ 32) (random : jitter < 2 ^ 32)
    (attempt : Nat) : backoff base attempt jitter < 2 ^ 64 := by
  have factor : 2 ^ min (attempt - 1) 16 ≤ 2 ^ 16 :=
    Nat.pow_le_pow_right (by decide) (Nat.min_le_right _ _)
  have scaled := Nat.mul_le_mul (Nat.le_of_lt short) factor
  rw [backoff, Nat.shiftLeft_eq]
  omega

theorem backoff?_eq {base jitter : Nat} (short : base < 2 ^ 32) (random : jitter < 2 ^ 32)
    (attempt : Nat) : backoff? base attempt jitter = some (backoff base attempt jitter) := by
  have fits := backoff_lt short random attempt
  rw [backoff, Nat.shiftLeft_eq] at fits ⊢
  have scaled : base * 2 ^ min (attempt - 1) 16 < 2 ^ 64 := by omega
  simp only [backoff?, product?, if_pos scaled, sum?, Option.bind_eq_bind, Option.bind_some,
    if_pos fits]

/-- Whether a counter has no room for one more. -/
abbrev Full (counter : Nat) : Prop := 2 ^ 32 ≤ counter + 1

/-! ## Steps that compute numbers -/

/-- What a number that is too large for its word comes to. -/
def overflow : Crash := ⟨"attempt to add with overflow"⟩

/-- Compute numbers one after the other. -/
def compute : List (Option Nat) → Act W H Unit
  | [] => return ()
  | number :: rest => do
    let _ ← demand overflow.message number
    compute rest

theorem exec_compute (numbers : List (Option Nat)) (s : Station W H) :
    exec (compute numbers) s = (if none ∈ numbers then .error overflow else .ok (), s) := by
  induction numbers with
  | nil => rfl
  | cons number rest ih =>
    rw [compute, exec_bind]
    cases number with
    | none => rfl
    | some n =>
      simp only [List.mem_cons, reduceCtorEq, false_or]
      exact ih

/-- The station behind a step that was not counted. -/
def uncounted (change : Endpoint H → α × Endpoint H) (s : Station W H) : Station W H :=
  { s with endpoint := { (change s.endpoint).2 with counters := s.endpoint.counters } }

/-- A step that computes numbers between what it writes and what it counts. -/
def stepWith (numbers : Endpoint H → List (Option Nat)) (change : Endpoint H → α × Endpoint H) :
    Act W H α := do
  let before ← endpoint
  let (result, after) := change before
  modifyEndpoint fun _ => { after with counters := before.counters }
  compute (numbers before)
  count fun _ => after.counters
  return result

/-- With narrow words a step crashes before it is counted when its numbers are too large, and is
the same step otherwise. -/
structure OverflowsIff (large : Prop) (narrow : Act W H α) (change : Endpoint H → α × Endpoint H)
    (s : Station W H) : Prop where
  crash : large → exec narrow s = (.error overflow, uncounted change s)
  whole : ¬large → exec narrow s = exec (step change) s

theorem stepWith_overflows {numbers : Endpoint H → List (Option Nat)}
    {change : Endpoint H → α × Endpoint H} {s : Station W H} {large : Prop}
    (unfit : none ∈ numbers s.endpoint ↔ large) :
    OverflowsIff large (stepWith numbers change) change s := by
  have written : exec (stepWith numbers change) s =
      exec (do
        compute (numbers s.endpoint)
        count fun _ => (change s.endpoint).2.counters
        return (change s.endpoint).1) (uncounted change s) := rfl
  rw [exec_bind, exec_compute] at written
  constructor
  · intro overflows
    rw [written, if_pos (unfit.mpr overflows)]
  · intro fit
    rw [written, if_neg (mt unfit.mp fit)]
    rfl

/-- A crash only loses the count. -/
theorem OverflowsIff.left {large : Prop} {narrow : Act W H α}
    {change : Endpoint H → α × Endpoint H} {s : Station W H}
    (overflows : OverflowsIff large narrow change s) :
    ∃ counters, (exec narrow s).2 =
      { s with endpoint := { (change s.endpoint).2 with counters } } := by
  by_cases large
  next overflow => exact ⟨s.endpoint.counters, congrArg Prod.snd (overflows.crash overflow)⟩
  next fit => exact ⟨(change s.endpoint).2.counters, congrArg Prod.snd (overflows.whole fit)⟩

/-- Begin anew for a new connection. -/
def restart (now : Nat) : Act W H UInt32 :=
  stepWith (fun endpoint => [sum? 32 endpoint.counters.negotiationAttempts 1]) (·.restart now)

end Narrow

/-- Whether the attempt under way expires in a check. -/
def Endpoint.expires (now : Nat) (mtu : UInt16) (endpoint : Endpoint H) : Bool :=
  endpoint.state.negotiating && (endpoint.poll now mtu).2.state == .timeout

theorem Negotiation.Attempt.expires {origin endpoint : Endpoint H} {retries since now : Nat}
    {mtu : UInt16} (attempt : Attempt origin retries since endpoint) (small : Small mtu)
    (late : endpoint.settings.attemptTimeout.toNat < now - since) :
    endpoint.expires now mtu = true := by
  obtain ⟨token, -, overdue⟩ := attempt.poll_expired small late
  have timeout := (Control.honours_iff.mp overdue.honoured).2
  have negotiating := attempt.negotiating
  simp only [Endpoint.expires, Endpoint.state, negotiating, timeout]
  rfl

/-- Every attempt is over at some time. -/
theorem Endpoint.exists_late (endpoint : Endpoint H) (since : Nat) :
    ∃ now, endpoint.settings.attemptTimeout.toNat < now - since :=
  ⟨since + endpoint.settings.attemptTimeout.toNat + 1, by omega⟩

namespace Narrow

/-- Check the negotiation. An attempt that expires is reported with its number. -/
def poll (now : Nat) (mtu : UInt16) : Act W H Verdict :=
  stepWith
    (fun endpoint =>
      if endpoint.expires now mtu then
        [sum? 8 endpoint.negotiation.retries 1, sum? 32 endpoint.counters.negotiationTimeouts 1]
      else
        [])
    (·.poll now mtu)

/-- Decide what follows from an expired attempt. A retry is charged once its number fits. -/
def judge (token : Expired) : Act W H Control.Decision := do
  let before ← endpoint
  match (before.judge token).1 with
  | .stale => return .stale
  | .failed =>
    stepWith (fun endpoint => [sum? 32 endpoint.counters.negotiationFailures 1]) (·.judge token)
  | .retry _ =>
    compute [sum? 8 before.negotiation.retries 1]
    step (·.judge token)

/-- Begin the next attempt, unless it is overtaken. -/
def resume (token : Expired) (now : Nat) : Act W H Bool :=
  stepWith
    (fun endpoint =>
      if endpoint.negotiation.honours token then
        [sum? 32 endpoint.counters.negotiationAttempts 1]
      else
        [])
    (·.resume token now)

/-! ## Which numbers do not fit -/

theorem restart_overflows (now : Nat) (s : Station W H) :
    OverflowsIff (Full s.endpoint.counters.negotiationAttempts)
      (restart now) (·.restart now) s := by
  apply stepWith_overflows
  simp [none_eq_sum?_iff]

theorem poll_overflows (now : Nat) (mtu : UInt16) (s : Station W H) :
    OverflowsIff (s.endpoint.expires now mtu = true ∧
        (2 ^ 8 ≤ s.endpoint.negotiation.retries + 1 ∨
          Full s.endpoint.counters.negotiationTimeouts))
      (poll now mtu) (·.poll now mtu) s := by
  apply stepWith_overflows
  simp [none_eq_sum?_iff]

theorem resume_overflows (token : Expired) (now : Nat) (s : Station W H) :
    OverflowsIff (s.endpoint.negotiation.honours token = true ∧
        Full s.endpoint.counters.negotiationAttempts)
      (resume token now) (·.resume token now) s := by
  apply stepWith_overflows
  simp [none_eq_sum?_iff]

/-- A retry that is left has a number that fits. -/
theorem attempt_lt_of_judge_retry {endpoint : Endpoint H} {token : Expired} {attempt : Nat}
    (retry : (endpoint.judge token).1 = .retry attempt) :
    attempt = endpoint.negotiation.retries + 1 ∧ attempt < 2 ^ 8 := by
  have decision := retry
  rw [endpoint.judge_decision] at decision
  obtain ⟨honoured, left, -⟩ := Control.judge_retry decision
  rw [Control.judge_of_honoured honoured, if_neg (Nat.not_le.mpr left)] at decision
  have number := Control.Decision.retry.inj decision
  have most := endpoint.settings.maxRetries.toNat_lt
  omega

theorem judge_overflows (token : Expired) (s : Station W H) :
    OverflowsIff ((s.endpoint.judge token).1 = .failed ∧
        Full s.endpoint.counters.negotiationFailures)
      (judge token) (·.judge token) s := by
  have run : exec (judge token) s = exec (match (s.endpoint.judge token).1 with
      | .stale => return .stale
      | .failed =>
        stepWith (fun endpoint => [sum? 32 endpoint.counters.negotiationFailures 1]) (·.judge token)
      | .retry _ => do
        compute [sum? 8 s.endpoint.negotiation.retries 1]
        step (·.judge token)) s := rfl
  cases decision : (s.endpoint.judge token).1 with
  | stale =>
    rw [decision] at run
    constructor
    · exact fun overflows => absurd overflows.1 nofun
    · intro
      have stale : s.endpoint.negotiation.honours token = false := by
        rw [s.endpoint.judge_decision] at decision
        exact (Control.judge_stale_iff _ _).mp decision
      rw [run, exec_step, s.endpoint.judge_of_stale stale]
      rfl
  | failed =>
    rw [decision] at run
    have overflows : OverflowsIff (Full s.endpoint.counters.negotiationFailures)
        (stepWith (fun endpoint => [sum? 32 endpoint.counters.negotiationFailures 1])
          (·.judge token)) (·.judge token) s := by
      apply stepWith_overflows
      simp [none_eq_sum?_iff]
    exact ⟨fun full => run.trans (overflows.crash full.2),
      fun room => run.trans (overflows.whole fun full => room ⟨rfl, full⟩)⟩
  | retry attempt =>
    rw [decision] at run
    obtain ⟨rfl, small⟩ := attempt_lt_of_judge_retry decision
    constructor
    · exact fun overflows => absurd overflows.1 nofun
    · intro
      have fits : none ∉ [sum? 8 s.endpoint.negotiation.retries 1] := by
        rw [List.mem_singleton, none_eq_sum?_iff]
        exact Nat.not_le.mpr small
      rw [run, exec_bind, exec_compute, if_neg fits]

/-! ## Runs -/

variable {unit : W → UInt16}

/-- One thing that may go on. When it crashes, what it wrote stays. -/
inductive Move (unit : W → UInt16) : Scene W H → Scene W H → Prop where
  /-- Whatever leaves the negotiation alone; the link may have another unit behind it. -/
  | apart {s t} (c) (negotiation : t.endpoint.negotiation = s.endpoint.negotiation)
      (settings : t.endpoint.settings = s.endpoint.settings) : Move unit ⟨s, c⟩ ⟨t, c⟩
  | restart (s c) (now : Nat) : Move unit ⟨s, c⟩ ⟨(exec (restart now) s).2, c.started⟩
  | stop (s c) : Move unit ⟨s, c⟩ ⟨{ s with endpoint := s.endpoint.stop }, c.stopped⟩
  | poll (s c) (now : Nat) :
    Move unit ⟨s, c⟩ ⟨(exec (poll now (unit s.world)) s).2,
      c.checked (unit s.world) s.endpoint.state (s.endpoint.poll now (unit s.world)).2.state⟩
  | judge (s c) (token : Expired) :
    Move unit ⟨s, c⟩ ⟨(exec (judge token) s).2, c.judged token (s.endpoint.judge token).1⟩
  /-- Only one who paused goes on. -/
  | resume (s c) (token : Expired) (paused : token ∈ c.pausing) (now : Nat) :
    Move unit ⟨s, c⟩ ⟨(exec (resume token now) s).2,
      c.resumed token (s.endpoint.resume token now).1⟩
  | requested (s c) (epoch : UInt32) :
    Move unit ⟨s, c⟩ ⟨{ s with endpoint := s.endpoint.requested epoch }, c⟩

/-- Any number of things that go on, one after the other. -/
def Run (unit : W → UInt16) : Scene W H → Scene W H → Prop := Relation.ReflTransGen (Move unit)

/-- A step that crashes leaves what the whole step does, with other counters. -/
theorem OverflowsIff.interleaved {large : Prop} {narrow : Act W H α}
    {change : Endpoint H → α × Endpoint H} {s : Station W H} {c d : Chronicle}
    (overflows : OverflowsIff large narrow change s)
    (move : Negotiation.Move unit ⟨s, c⟩ ⟨{ s with endpoint := (change s.endpoint).2 }, d⟩) :
    Interleaved unit ⟨s, c⟩ ⟨(exec narrow s).2, d⟩ := by
  obtain ⟨counters, left⟩ := overflows.left
  rw [left]
  exact (Relation.ReflTransGen.single move).tail (.apart d rfl rfl)

theorem Move.interleaved {a b : Scene W H} (move : Move unit a b) : Interleaved unit a b := by
  cases move with
  | apart c negotiation settings => exact .single (.apart c negotiation settings)
  | restart s c now => exact (restart_overflows now s).interleaved (.restart s c now)
  | stop s c => exact .single (.stop s c)
  | poll s c now => exact (poll_overflows now _ s).interleaved (.poll s c now)
  | judge s c token => exact (judge_overflows token s).interleaved (.judge s c token)
  | resume s c token paused now =>
    exact (resume_overflows token now s).interleaved (.resume s c token paused now)
  | requested s c epoch => exact .single (.requested s c epoch)

/-- Narrow numbers lead to no state of the negotiation that wide ones do not lead to. -/
theorem Run.interleaved {a b : Scene W H} (run : Run unit a b) : Interleaved unit a b := by
  induction run with
  | refl => exact .refl
  | tail _ move ih => exact ih.trans move.interleaved

theorem Run.retries_le {settings : Settings} {world : W} {scene : Scene W H}
    (run : Run unit (.fresh settings world) scene) :
    scene.control.retries ≤ settings.maxRetries.toNat := by
  have frugal := (frugal_fresh settings world).run run.interleaved
  have same : scene.station.endpoint.settings = settings := run.interleaved.settings
  rw [← same]
  exact frugal.retries

/-! ## How all retries are spent -/

theorem OverflowsIff.exec_of_room {large : Prop} {narrow : Act W H α}
    {change : Endpoint H → α × Endpoint H} {s : Station W H}
    (overflows : OverflowsIff large narrow change s) (fits : ¬large) :
    (exec narrow s).2 = { s with endpoint := (change s.endpoint).2 } :=
  congrArg Prod.snd (overflows.whole fits)

/-- The attempt under way expires, and its number fits. -/
theorem exists_move_of_late (unit : W → UInt16) {origin : Endpoint H} {retries since now : Nat}
    {s : Station W H} (c : Chronicle) (attempt : Attempt origin retries since s.endpoint)
    (uncounted : origin.counters = {}) (few : retries + 1 < 2 ^ 8)
    (small : Small (unit s.world)) (late : s.endpoint.settings.attemptTimeout.toNat < now - since) :
    ∃ t d token, Move unit ⟨s, c⟩ ⟨t, d⟩ ∧ t.world = s.world ∧
      Overdue origin retries (retries + 1) token t.endpoint := by
  obtain ⟨token, -, overdue⟩ := attempt.poll_expired small late
  have polled := (poll_overflows now (unit s.world) s).exec_of_room (by
    rw [attempt.spent, attempt.timeouts, uncounted]
    simp only [Full]
    omega)
  refine ⟨(exec (poll now (unit s.world)) s).2, _, token, .poll s c now, ?_⟩
  rw [polled]
  exact ⟨rfl, overdue⟩

/-- A retry that is left is charged. -/
theorem exists_move_of_left (unit : W → UInt16) {origin : Endpoint H} {retries expired : Nat}
    {token : Expired} {s : Station W H} (c : Chronicle)
    (overdue : Overdue origin retries expired token s.endpoint)
    (left : retries < origin.settings.maxRetries.toNat) :
    ∃ t d, Move unit ⟨s, c⟩ ⟨t, d⟩ ∧ token ∈ d.pausing ∧ t.world = s.world ∧
      Overdue origin (retries + 1) expired token t.endpoint := by
  obtain ⟨retry, paid⟩ := overdue.judge_retry left
  have judged := (judge_overflows token s).exec_of_room (by
    rw [retry]
    exact fun large => absurd large.1 nofun)
  refine ⟨(exec (judge token) s).2, _, .judge s c token, ?_, ?_⟩
  · rw [retry]
    exact List.mem_cons_self
  · rw [judged]
    exact ⟨rfl, paid⟩

/-- The next attempt begins behind the pause. -/
theorem exists_move_of_paused (unit : W → UInt16) {origin : Endpoint H} {retries : Nat}
    {token : Expired} {s : Station W H} {c : Chronicle}
    (overdue : Overdue origin retries retries token s.endpoint)
    (uncounted : origin.counters = {}) (few : retries < 2 ^ 8) (paused : token ∈ c.pausing)
    (now : Nat) :
    ∃ t d, Move unit ⟨s, c⟩ ⟨t, d⟩ ∧ t.world = s.world ∧
      Attempt origin retries now t.endpoint := by
  have resumed := (resume_overflows token now s).exec_of_room (by
    rw [overdue.attempts, uncounted]
    simp only [Full]
    omega)
  refine ⟨(exec (resume token now) s).2, _, .resume s c token paused now, ?_⟩
  rw [resumed]
  exact ⟨rfl, (overdue.resume now).2⟩

/-- On a link with a small unit, an epoch comes to an attempt after any number of retries that
are allowed. -/
theorem exists_run_of_retries (settings : Settings) {world : W} (small : Small (unit world))
    {retries : Nat} (allowed : retries ≤ settings.maxRetries.toNat) :
    ∃ (s : Station W H) (c : Chronicle) (since : Nat), Run unit (.fresh settings world) ⟨s, c⟩ ∧
      s.world = world ∧ Attempt (.fresh settings) retries since s.endpoint := by
  induction retries with
  | zero =>
    let fresh : Station W H := ⟨.fresh settings, world⟩
    have room : ¬Full 0 := by decide
    have begun := (restart_overflows 0 fresh).exec_of_room room
    refine ⟨(exec (restart 0) fresh).2, _, 0, .single (.restart fresh {} 0), ?_⟩
    rw [begun]
    exact ⟨rfl, .first _ 0⟩
  | succ retries ih =>
    obtain ⟨s, c, since, run, there, attempt⟩ := ih (Nat.le_of_lt allowed)
    have most := settings.maxRetries.toNat_lt
    obtain ⟨now, late⟩ := s.endpoint.exists_late since
    obtain ⟨t, d, token, expired, still, overdue⟩ :=
      exists_move_of_late unit c attempt rfl (by omega) (there ▸ small) late
    obtain ⟨u, e, charged, paused, kept, paid⟩ := exists_move_of_left unit d overdue allowed
    obtain ⟨v, f, begun, same, next⟩ := exists_move_of_paused unit paid rfl (by omega) paused now
    exact ⟨v, f, now, ((run.tail expired).tail charged).tail begun,
      same.trans (kept.trans (still.trans there)), next⟩

/-! ## Resolving an attempt -/

/-- Numbers that are drawn below a bound are below it. -/
def DrawsBelow (ports : Ports W H) : Prop :=
  ∀ bound drawn s t, 0 < bound → exec (ports.randomBelow bound) s = (.ok drawn, t) → drawn < bound

variable (ports : Ports W H)

/-- Pause before attempt number `attempt` of the retries; returns for how long. -/
def backOff (attempt : Nat) : Act W H Nat := do
  let settings := (← endpoint).settings
  let jitter ←
    ports.randomBelow (min (settings.backoffJitter.toNat + 1) (Settings.Width.word.limit - 1))
  let delay ← demand overflow.message (backoff? settings.backoffBase.toNat attempt jitter)
  ports.sleep delay
  return delay

/-- Try again after a pause, or give up. -/
def resolve (token : Expired) : Act W H Resolution := do
  match ← judge token with
  | .stale => return .stale
  | .failed => return .failed (← endpoint).settings.fallbackUnit
  | .retry attempt =>
    let delay ← backOff ports attempt
    let now := ports.now (← world)
    if ← resume token now then
      requestUnit ports token.epoch
      return .retrying attempt delay
    else
      return .stale

/-- The first procedure does the same as the second, unless it crashes at a number that is too
large and leaves what `left` says. -/
def Unless (left : Station W H → Prop) (narrow wide : Act W H α) (s : Station W H) : Prop :=
  exec narrow s = exec wide s ∨ ∃ t, left t ∧ exec narrow s = (.error overflow, t)

/-- What a resolution leaves that crashed at a full counter: the decision is made, or the next
attempt has begun. -/
def Stopped (token : Expired) (t : Station W H) : Prop :=
  (∃ s, Full s.endpoint.counters.negotiationFailures ∧ t = uncounted (·.judge token) s) ∨
    ∃ s now, Full s.endpoint.counters.negotiationAttempts ∧ t = uncounted (·.resume token now) s

theorem Unless.bind {left : Station W H → Prop} {narrow wide : Act W H α}
    {next other : α → Act W H β} {s : Station W H} (first : Unless left narrow wide s)
    (second : ∀ a t, Unless left (next a) (other a) t) :
    Unless left (narrow >>= next) (wide >>= other) s := by
  rcases first with same | ⟨t, there, crash⟩
  · simp only [Unless, exec_bind, same]
    rcases exec wide s with ⟨result, t⟩
    cases result with
    | ok a => exact second a t
    | error crash => exact .inl rfl
  · right
    exact ⟨t, there, by rw [exec_bind, crash]⟩

theorem OverflowsIff.unless {large : Prop} {narrow : Act W H α}
    {change : Endpoint H → α × Endpoint H} {s : Station W H} {left : Station W H → Prop}
    (overflows : OverflowsIff large narrow change s) (leaves : large → left (uncounted change s)) :
    Unless left narrow (step change) s := by
  by_cases large
  next overflow => exact .inr ⟨_, leaves overflow, overflows.crash overflow⟩
  next fit => exact .inl (overflows.whole fit)

variable {ports}

/-- No pause is too long for its word. -/
theorem exec_backOff (draws : DrawsBelow ports) (attempt : Nat) (s : Station W H) :
    exec (backOff ports attempt) s = exec (CommandLink.backOff ports attempt) s := by
  obtain ⟨bound, cut⟩ : ∃ bound, bound = min (s.endpoint.settings.backoffJitter.toNat + 1)
    (Settings.Width.word.limit - 1) := ⟨_, rfl⟩
  have room : 0 < bound ∧ bound < 2 ^ 32 := by
    simp only [Settings.Width.limit] at cut
    omega
  change exec (ports.randomBelow _ >>= _) s = exec (ports.randomBelow _ >>= _) s
  rw [exec_bind, exec_bind, ← cut]
  cases draw : exec (ports.randomBelow bound) s with
  | mk result t =>
    cases result with
    | error crash => rfl
    | ok drawn =>
      have random : drawn < 2 ^ 32 := Nat.lt_trans (draws bound drawn s t room.1 draw) room.2
      have short := s.endpoint.settings.backoffBase.toNat_lt
      dsimp only
      rw [backoff?_eq short random]
      rfl

theorem resolve_unless (draws : DrawsBelow ports) (token : Expired) (s : Station W H) :
    Unless (Stopped token) (resolve ports token) (CommandLink.resolve ports token) s := by
  have judged : Unless (Stopped token) (judge token) (step (·.judge token)) s :=
    (judge_overflows token s).unless fun large => .inl ⟨s, large.2, rfl⟩
  apply judged.bind
  intro decision t
  cases decision with
  | stale => exact .inl rfl
  | failed => exact .inl rfl
  | retry attempt =>
    have paused : Unless (Stopped token) (backOff ports attempt)
        (CommandLink.backOff ports attempt) t := .inl (exec_backOff draws attempt t)
    apply paused.bind
    intro delay u
    have resumed : Unless (Stopped token) (resume token (ports.now u.world))
        (step (·.resume token (ports.now u.world))) u :=
      (resume_overflows token _ u).unless fun large => .inr ⟨u, _, large.2, rfl⟩
    exact resumed.bind fun again v => .inl rfl

end Narrow

/-! ## The last attempt -/

open Narrow

/-- However the procedures were interleaved and wherever they crashed, no more retries are spent
than there are. A check crashes at the number of the attempt only when it finds one expired after
all of 255 retries. Whoever counts crashes when the counter is full. Everything else goes as it
does with wide numbers: a retry has a number and a pause that fit, and a resolution crashes at
its counters only. -/
theorem numbers_fit_until_last_attempt {unit : W → UInt16} (settings : Settings) (world : W)
    {scene : Scene W H} (run : Narrow.Run unit (.fresh settings world) scene) :
    let s := scene.station
    let counters := s.endpoint.counters
    scene.control.retries ≤ settings.maxRetries.toNat ∧
      (∀ now, OverflowsIff (Full counters.negotiationAttempts)
        (Narrow.restart now) (·.restart now) s) ∧
      (∀ now mtu, OverflowsIff
        (s.endpoint.expires now mtu = true ∧
          (settings.maxRetries = 255 ∧ scene.control.retries = 255 ∨
            Full counters.negotiationTimeouts))
        (Narrow.poll now mtu) (·.poll now mtu) s) ∧
      (∀ token attempt, (s.endpoint.judge token).1 = .retry attempt →
        attempt < 2 ^ 8 ∧ ∀ jitter < 2 ^ 32,
          backoff settings.backoffBase.toNat attempt jitter < 2 ^ 64) ∧
      ∀ ports : Ports W H, DrawsBelow ports → ∀ token,
        Unless (Stopped token)
          (Narrow.resolve ports token) (CommandLink.resolve ports token) s := by
  intro s counters
  have retries := run.retries_le
  have most := settings.maxRetries.toNat_lt
  refine ⟨retries, fun now => restart_overflows now s, fun now mtu => ?_, ?_, ?_⟩
  · -- The number is too large only when all retries are spent, and there are as many as can be.
    have last : 2 ^ 8 ≤ scene.control.retries + 1 ↔
        settings.maxRetries = 255 ∧ scene.control.retries = 255 := by
      rw [← UInt8.toNat_inj]
      have value : (255 : UInt8).toNat = 255 := rfl
      omega
    rw [← last]
    exact poll_overflows now mtu s
  · intro token attempt retry
    refine ⟨(attempt_lt_of_judge_retry retry).2, fun jitter random => ?_⟩
    exact backoff_lt settings.backoffBase.toNat_lt random attempt
  · exact fun ports draws token => resolve_unless draws token s

/-- With one retry less the last attempt expires as any other one does. -/
theorem numbers_fit_until_last_attempt_of_254_retries :
    ∃ (scene : Scene Nat Empty) (now : Nat),
      Narrow.Run Bench.clockPorts.mtu (.fresh { maxRetries := 254 } 0) scene ∧
      scene.control.retries = 254 ∧ scene.station.endpoint.expires now 23 = true ∧
      exec (Narrow.poll now 23) scene.station = exec (step (·.poll now 23)) scene.station ∧
      ∀ token, Unless (Stopped token) (Narrow.resolve Bench.clockPorts token)
        (CommandLink.resolve Bench.clockPorts token) scene.station := by
  have small : Small (Bench.clockPorts.mtu 0) := by decide
  obtain ⟨s, c, since, run, -, attempt⟩ :=
    exists_run_of_retries (H := Empty) { maxRetries := 254 } small (Nat.le_refl 254)
  obtain ⟨-, -, polled, -, resolved⟩ := numbers_fit_until_last_attempt _ _ run
  obtain ⟨now, late⟩ := s.endpoint.exists_late since
  have fits : ¬((254 : UInt8) = 255 ∧ s.endpoint.negotiation.retries = 255 ∨
      Full s.endpoint.counters.negotiationTimeouts) := by
    have room : ¬Full 254 := by decide
    rintro (⟨more, -⟩ | full)
    · exact absurd more (by decide)
    · rw [attempt.timeouts] at full
      exact room full
  exact ⟨⟨s, c⟩, now, run, attempt.spent, attempt.expires small late,
    (polled now 23).whole fun large => fits large.2,
    resolved Bench.clockPorts fun bound drawn s t positive drew => by
      cases drew
      exact positive⟩

/-- Settings that make sense allow 255 retries. Then an epoch comes to its last attempt, and the
number of this one is too large for the word of the retries: the check that finds it expired
crashes. -/
theorem last_attempt_outgrows_byte :
    let settings : Settings := { maxRetries := 255 }
    settings.Valid ∧ ∃ (scene : Scene Nat Empty) (now : Nat) (left : Station Nat Empty),
      Narrow.Run Bench.clockPorts.mtu (.fresh settings 0) scene ∧
      scene.control.retries = 255 ∧
      exec (Narrow.poll now 23) scene.station =
        (.error ⟨"attempt to add with overflow"⟩, left) := by
  intro settings
  refine ⟨by decide, ?_⟩
  have small : Small (Bench.clockPorts.mtu 0) := by decide
  obtain ⟨s, c, since, run, -, attempt⟩ :=
    exists_run_of_retries (H := Empty) settings small (Nat.le_refl 255)
  obtain ⟨now, late⟩ := s.endpoint.exists_late since
  have number : 2 ^ 8 ≤ s.endpoint.negotiation.retries + 1 := by
    rw [attempt.spent]
    decide
  have crash := (poll_overflows now 23 s).crash ⟨attempt.expires small late, .inl number⟩
  exact ⟨⟨s, c⟩, now, _, run, attempt.spent, crash⟩

end CommandLink
