import CommandLink.Proofs.Epochs

/-!
# What an epoch may come to

An epoch that begins with a start has one attempt, and one more for each retry. This module
says in which states a negotiation is found, how it came there, and what takes it on from
there; and that the link is asked for no more attempts than an epoch has.

A request belongs to the epoch that granted its attempt, by its start or by the retry that was
charged to it. The number of the epoch does not tell which one that was, since numbers recur
for who pauses long enough; an `Account` does. That the requests of an account are the calls of
the port is shown in `Proofs.Requests`.
-/

namespace CommandLink.Negotiation

variable {W H : Type} {unit : W → UInt16}

/-! ## What a move comes to -/

/-- A check at a unit with which the negotiation is complete. -/
inductive Completes (unit : W → UInt16) (mtu : UInt16) : Scene W H → Scene W H → Prop where
  | poll (s c) (now : Nat) (read : unit s.world = mtu)
    (verdict : (s.endpoint.poll now mtu).1 = .completed mtu) :
    Completes unit mtu ⟨s, c⟩ ⟨{ s with endpoint := (s.endpoint.poll now mtu).2 },
      c.checked mtu s.endpoint.state (s.endpoint.poll now mtu).2.state⟩

/-- A token is judged, or the pause of one who resolves it ends. -/
inductive Resolves (token : Expired) : Scene W H → Scene W H → Prop where
  | judge (s c) :
    Resolves token ⟨s, c⟩ ⟨{ s with endpoint := (s.endpoint.judge token).2 },
      c.judged token (s.endpoint.judge token).1⟩
  | resume (s c) (now : Nat) :
    Resolves token ⟨s, c⟩ ⟨{ s with endpoint := (s.endpoint.resume token now).2 },
      c.resumed token (s.endpoint.resume token now).1⟩

/-- All that a move can do to the control block. -/
inductive Effect (unit : W → UInt16) (a b : Scene W H) : Prop where
  | unchanged (control : b.control = a.control)
    (epochs : b.chronicle.epochs = a.chronicle.epochs)
  | started (now : Nat) (control : b.control = a.control.restart now)
    (chronicle : b.chronicle = a.chronicle.started)
  | stopped (control : b.control = a.control.stop)
    (chronicle : b.chronicle = a.chronicle.stopped)
  | completed (mtu : UInt16) (negotiating : a.control.state.negotiating = true)
    (large : defaultMtu < mtu.toNat) (check : Completes unit mtu a b)
    (control : b.control = { a.control with state := .completed mtu })
    (epochs : b.chronicle.epochs = a.chronicle.epochs)
  | expired (negotiating : a.control.state.negotiating = true)
    (control : b.control = { a.control with state := .timeout })
    (epochs : b.chronicle.epochs = a.chronicle.epochs)
  | failed (token : Expired) (resolves : Resolves token a b)
    (honoured : a.control.honours token = true)
    (spent : a.station.endpoint.settings.maxRetries.toNat ≤ a.control.retries)
    (control : b.control =
      { a.control with state := .failed a.station.endpoint.settings.fallbackUnit })
    (epochs : b.chronicle.epochs = a.chronicle.epochs)
  | charged (token : Expired) (honoured : a.control.honours token = true)
    (left : a.control.retries < a.station.endpoint.settings.maxRetries.toNat)
    (control : b.control = { a.control with retries := a.control.retries + 1 })
    (epochs : b.chronicle.epochs = a.chronicle.epochs)
  | resumed (token : Expired) (resolves : Resolves token a b)
    (honoured : a.control.honours token = true) (now : Nat)
    (control : b.control = { a.control with state := .initiating now })
    (epochs : b.chronicle.epochs = a.chronicle.epochs)
  | requested (since : Nat) (begun : a.control.state = .initiating since)
    (control : b.control = { a.control with state := .inProgress since })
    (epochs : b.chronicle.epochs = a.chronicle.epochs)

/-- An attempt under way is complete at any unit above the default one. -/
theorem Control.poll_of_large {control : Control} (negotiating : control.state.negotiating = true)
    {mtu : UInt16} (large : defaultMtu < mtu.toNat) (now timeout : Nat) :
    control.poll now timeout mtu = (.completed mtu, { control with state := .completed mtu }) := by
  simp [Control.poll, LinkState.observe, negotiating, large]

theorem Chronicle.epochs_judged (token : Expired) (decision : Control.Decision) (c : Chronicle) :
    (c.judged token decision).epochs = c.epochs := by
  cases decision <;> rfl

theorem Move.effect {a b : Scene W H} (move : Move unit a b) : Effect unit a b := by
  cases move with
  | apart c negotiation => exact .unchanged negotiation rfl
  | restart s c now => exact .started now rfl rfl
  | stop s c => exact .stopped rfl rfl
  | poll s c now =>
    rcases s.endpoint.negotiation.poll_cases now s.endpoint.settings.attemptTimeout.toNat
      (unit s.world) with ⟨negotiating, large, completed⟩ | ⟨negotiating, expired⟩ | same
    · have verdict : (s.endpoint.poll now (unit s.world)).1 = .completed (unit s.world) := by
        rw [s.endpoint.poll_verdict, Control.poll_of_large negotiating large]
      rw [← s.endpoint.poll_negotiation] at completed
      exact .completed (unit s.world) negotiating large (.poll s c now rfl verdict) completed rfl
    · rw [← s.endpoint.poll_negotiation] at expired
      exact .expired negotiating expired rfl
    · rw [← s.endpoint.poll_negotiation] at same
      exact .unchanged same rfl
  | judge s c token =>
    have epochs := c.epochs_judged token (s.endpoint.judge token).1
    by_cases honoured : s.endpoint.negotiation.honours token = true
    · have judged := Control.judge_of_honoured honoured s.endpoint.settings.maxRetries.toNat
        s.endpoint.settings.fallbackUnit
      have decided := congrArg Prod.snd judged
      rw [← s.endpoint.judge_negotiation] at decided
      split at decided
      next spent => exact .failed token (.judge s c) honoured spent decided epochs
      next left => exact .charged token honoured (Nat.not_le.mp left) decided epochs
    · -- A token that is void changes nothing.
      have stale := s.endpoint.judge_of_stale (Bool.eq_false_iff.mpr honoured)
      have same := congrArg (fun judged => judged.2.negotiation) stale
      exact .unchanged same epochs
  | resume s c token _ now =>
    by_cases honoured : s.endpoint.negotiation.honours token = true
    · obtain ⟨-, attempt⟩ := s.endpoint.resume_of_honoured honoured now
      exact .resumed token (.resume s c now) honoured now attempt rfl
    · have stale := s.endpoint.resume_of_stale (Bool.eq_false_iff.mpr honoured) now
      have same := congrArg (fun resumed => resumed.2.negotiation) stale
      exact .unchanged same rfl
  | requested s c epoch =>
    rcases s.endpoint.negotiation.requested_cases epoch with ⟨since, begun, moved⟩ | same
    · exact .requested since begun moved rfl
    · exact .unchanged same rfl

/-! ## In which states a negotiation is found -/

/-- No more retries are spent than there are, and all of them before the negotiation fails. -/
structure Scene.Frugal (scene : Scene W H) : Prop where
  retries : scene.control.retries ≤ scene.station.endpoint.settings.maxRetries.toNat
  failed : ∀ fallback, scene.control.state = .failed fallback →
    fallback = scene.station.endpoint.settings.fallbackUnit ∧
      scene.control.retries = scene.station.endpoint.settings.maxRetries.toNat

theorem frugal_fresh (settings : Settings) (world : W) :
    (Scene.fresh settings world : Scene W H).Frugal where
  retries := Nat.zero_le _
  failed := nofun

theorem Scene.Frugal.move {a b : Scene W H} (frugal : a.Frugal) (move : Move unit a b) :
    b.Frugal := by
  have settings := move.settings
  have retries := frugal.retries
  -- Only where it is judged does a token cost a retry, or end the negotiation.
  cases move.effect with
  | unchanged control =>
    constructor
    · rw [control, settings]
      exact retries
    · rw [control, settings]
      exact frugal.failed
  | started now control =>
    rw [← settings] at retries
    constructor
    · simp [control, Control.restart]
    · simp [control, Control.restart]
  | stopped control =>
    constructor
    · simp [control, Control.stop]
    · simp [control, Control.stop]
  | completed mtu _ _ _ control =>
    constructor
    · simpa [control, settings] using retries
    · simp [control]
  | expired _ control =>
    constructor
    · simpa [control, settings] using retries
    · simp [control]
  | failed token _ _ spent control =>
    constructor
    · simpa [control, settings] using retries
    · intro fallback state
      rw [control] at state
      rw [settings, ← LinkState.failed.inj state, control]
      exact ⟨rfl, Nat.le_antisymm retries spent⟩
  | charged token honoured left control =>
    have timeout := (Control.honours_iff.mp honoured).2
    constructor
    · rw [control, settings]
      exact left
    · simp [control, timeout]
  | resumed _ _ _ now control =>
    constructor
    · simpa [control, settings] using retries
    · simp [control]
  | requested since _ control =>
    constructor
    · simpa [control, settings] using retries
    · simp [control]

theorem Scene.Frugal.run {a b : Scene W H} (frugal : a.Frugal) (run : Interleaved unit a b) :
    b.Frugal := by
  induction run with
  | refl => exact frugal
  | tail _ move ih => exact ih.move move

/-- The negotiation of this epoch was completed by a check at this unit. -/
def CompletedBy (unit : W → UInt16) (origin : Scene W H) (mtu : UInt16) (scene : Scene W H) :
    Prop :=
  ∃ before after, Interleaved unit origin before ∧ Completes unit mtu before after ∧
    Interleaved unit after scene ∧ scene.chronicle.epochs = after.chronicle.epochs

theorem Interleaved.completedBy {origin scene : Scene W H} (run : Interleaved unit origin scene)
    (incomplete : ∀ mtu, origin.control.state ≠ .completed mtu) {mtu : UInt16}
    (completed : scene.control.state = .completed mtu) :
    defaultMtu < mtu.toNat ∧ CompletedBy unit origin mtu scene := by
  induction run with
  | refl => exact absurd completed (incomplete mtu)
  | @tail a b run move ih =>
    cases move.effect with
    | unchanged control epochs =>
      -- It was complete before, and the check that completed it stays the same.
      rw [control] at completed
      obtain ⟨large, before, after, first, check, rest, same⟩ := ih completed
      exact ⟨large, before, after, first, check, rest.tail move, epochs.trans same⟩
    | started now control => simp [control, Control.restart] at completed
    | stopped control => simp [control, Control.stop] at completed
    | completed agreed _ large check control =>
      rw [control] at completed
      obtain rfl := LinkState.completed.inj completed
      exact ⟨large, a, b, run, check, .refl, rfl⟩
    | expired _ control => simp [control] at completed
    | failed _ _ _ _ control => simp [control] at completed
    | charged _ honoured _ control =>
      simp [control, (Control.honours_iff.mp honoured).2] at completed
    | resumed _ _ _ now control => simp [control] at completed
    | requested since _ control => simp [control] at completed

/-! ## How states are left -/

/-- The ways in which a move may leave a state. -/
structure Permitted (a b : Scene W H) : Prop where
  /-- By a start. -/
  idle : a.control.state = .idle →
    b.control.state = .idle ∨ b.chronicle.starts = a.chronicle.starts + 1
  /-- By a start or a stop. -/
  completed : ∀ mtu, a.control.state = .completed mtu →
    b.control.state = .completed mtu ∨ b.chronicle.epochs = a.chronicle.epochs + 1
  /-- By a start or a stop. -/
  failed : ∀ fallback, a.control.state = .failed fallback →
    b.control.state = .failed fallback ∨ b.chronicle.epochs = a.chronicle.epochs + 1
  /-- By a start or a stop, or by one who resolves a token of this epoch. -/
  timeout : a.control.state = .timeout →
    b.control.state = .timeout ∨ b.chronicle.epochs = a.chronicle.epochs + 1 ∨
      ∃ token, token.epoch = a.control.epoch ∧ Resolves token a b

namespace Permitted

variable {a b : Scene W H}

theorem of_same (same : b.control.state = a.control.state) : Permitted a b where
  idle state := .inl (same.trans state)
  completed _ state := .inl (same.trans state)
  failed _ state := .inl (same.trans state)
  timeout state := .inl (same.trans state)

theorem of_epoch (epochs : b.chronicle.epochs = a.chronicle.epochs + 1)
    (idle : b.control.state = .idle ∨ b.chronicle.starts = a.chronicle.starts + 1) :
    Permitted a b where
  idle _ := idle
  completed _ _ := .inr epochs
  failed _ _ := .inr epochs
  timeout _ := .inr (.inl epochs)

/-- A start, a stop or a token is needed only where no attempt is under way. -/
theorem of_negotiating (negotiating : a.control.state.negotiating = true) : Permitted a b where
  idle state := by simp [state, LinkState.negotiating] at negotiating
  completed _ state := by simp [state, LinkState.negotiating] at negotiating
  failed _ state := by simp [state, LinkState.negotiating] at negotiating
  timeout state := by simp [state, LinkState.negotiating] at negotiating

theorem of_honoured {token : Expired} (honoured : a.control.honours token = true)
    (resolves : Resolves token a b) : Permitted a b := by
  obtain ⟨epoch, timeout⟩ := Control.honours_iff.mp honoured
  constructor
  · simp [timeout]
  · simp [timeout]
  · simp [timeout]
  · intro
    exact .inr (.inr ⟨token, epoch.symm, resolves⟩)

end Permitted

theorem Move.permitted {a b : Scene W H} (move : Move unit a b) : Permitted a b := by
  cases move.effect with
  | unchanged control => exact .of_same (congrArg Control.state control)
  | started now control chronicle =>
    apply Permitted.of_epoch
    · simp only [chronicle, Chronicle.epochs, Chronicle.started]
      omega
    · exact .inr (congrArg Chronicle.starts chronicle)
  | stopped control chronicle =>
    apply Permitted.of_epoch
    · simp only [chronicle, Chronicle.epochs, Chronicle.stopped]
      omega
    · exact .inl (congrArg Control.state control)
  | completed _ negotiating => exact .of_negotiating negotiating
  | expired negotiating => exact .of_negotiating negotiating
  | failed token resolves honoured => exact .of_honoured honoured resolves
  | charged token honoured _ control =>
    apply Permitted.of_same
    rw [control]
  | resumed token resolves honoured => exact .of_honoured honoured resolves
  | requested since begun =>
    apply Permitted.of_negotiating
    rw [begun]
    rfl

/-! ## On whose behalf the link is asked -/

/-- Who is to answer for the requests, each epoch known by its place in the run. -/
structure Account where
  /-- The tokens that are being resolved, each with the epoch that was charged for it. -/
  pausing : List (Expired × Nat) := []
  /-- The epochs on whose behalf the link was asked. -/
  requests : List Nat := []

namespace Account

/-- The attempts that an epoch granted so far: the link was asked for them, or will be
behind a pause. -/
def granted (account : Account) (epoch : Nat) : Nat :=
  account.requests.count epoch + (account.pausing.map Prod.snd).count epoch

/-- An epoch begins with an attempt. -/
def started (epoch : Nat) (account : Account) : Account :=
  { account with requests := epoch :: account.requests }

/-- An epoch was charged for one more. -/
def charged (token : Expired) (epoch : Nat) (account : Account) : Account :=
  { account with pausing := (token, epoch) :: account.pausing }

/-- A pause ended, with another attempt or with none. -/
def resumed (token : Expired) (epoch : Nat) (again : Bool) (account : Account) : Account :=
  { pausing := account.pausing.erase (token, epoch)
    requests := if again then epoch :: account.requests else account.requests }

theorem count_le_granted (account : Account) (epoch : Nat) :
    account.requests.count epoch ≤ account.granted epoch := Nat.le_add_right _ _

theorem granted_started (account : Account) (began epoch : Nat) :
    (account.started began).granted epoch =
      account.granted epoch + if began = epoch then 1 else 0 := by
  simp only [granted, started, List.count_cons, beq_iff_eq]
  omega

theorem granted_charged (account : Account) (token : Expired) (payer epoch : Nat) :
    (account.charged token payer).granted epoch =
      account.granted epoch + if payer = epoch then 1 else 0 := by
  simp only [granted, charged, List.map_cons, List.count_cons, beq_iff_eq]
  omega

/-- An attempt behind a pause was granted when it was paid for. -/
theorem granted_resumed_le {account : Account} {token : Expired} {payer : Nat}
    (paused : (token, payer) ∈ account.pausing) (again : Bool) (epoch : Nat) :
    (account.resumed token payer again).granted epoch ≤ account.granted epoch := by
  have crossed := ((List.perm_cons_erase paused).map Prod.snd).count_eq epoch
  simp only [List.map_cons, List.count_cons, beq_iff_eq] at crossed
  cases again with
  | false =>
    simp only [granted, resumed, Bool.false_eq_true, if_false]
    omega
  | true =>
    simp only [granted, resumed, if_true, List.count_cons, beq_iff_eq]
    omega

end Account

/-- A move, and the account that is kept of it. Only one who paused asks again, on behalf of
the epoch that was charged before the pause. -/
inductive Accounted (unit : W → UInt16) : Scene W H × Account → Scene W H × Account → Prop where
  /-- Whatever begins no attempt and no pause, and ends none. -/
  | aside {a b} (account) (move : Move unit a b)
      (starts : b.chronicle.starts = a.chronicle.starts)
      (pausing : b.chronicle.pausing = a.chronicle.pausing) :
    Accounted unit (a, account) (b, account)
  | restart (s c account) (now : Nat) :
    Accounted unit (⟨s, c⟩, account) (⟨{ s with endpoint := (s.endpoint.restart now).2 },
      c.started⟩, account.started c.started.epochs)
  | pause (s c account) (token : Expired) {attempt}
      (retry : (s.endpoint.judge token).1 = .retry attempt) :
    Accounted unit (⟨s, c⟩, account) (⟨{ s with endpoint := (s.endpoint.judge token).2 },
      c.judged token (.retry attempt)⟩, account.charged token c.epochs)
  | resume (s c account) (token : Expired) (epoch : Nat) (paused : (token, epoch) ∈ account.pausing)
      (listed : token ∈ c.pausing) (now : Nat) :
    Accounted unit (⟨s, c⟩, account) (⟨{ s with endpoint := (s.endpoint.resume token now).2 },
      c.resumed token (s.endpoint.resume token now).1⟩,
      account.resumed token epoch (s.endpoint.resume token now).1)

/-- Any number of moves with the account that is kept of them. -/
def AccountedRun (unit : W → UInt16) : Scene W H × Account → Scene W H × Account → Prop :=
  Relation.ReflTransGen (Accounted unit)

/-- Every run has an account: who pauses in it was charged before. -/
theorem Interleaved.accounted {origin scene : Scene W H} (run : Interleaved unit origin scene)
    (still : origin.chronicle.pausing = []) :
    ∃ account, AccountedRun unit (origin, {}) (scene, account) ∧
      (account.pausing.map Prod.fst).Perm scene.chronicle.pausing := by
  induction run with
  | refl => exact ⟨{}, .refl, by simp [still]⟩
  | tail _ move ih =>
    obtain ⟨account, kept, paired⟩ := ih
    have aside := fun starts pausing => kept.tail (.aside account move starts pausing)
    cases move with
    | apart => exact ⟨account, aside rfl rfl, paired⟩
    | restart s c now => exact ⟨_, kept.tail (.restart s c account now), paired⟩
    | stop s c => exact ⟨account, aside rfl rfl, paired⟩
    | poll => exact ⟨account, aside rfl rfl, paired⟩
    | requested => exact ⟨account, aside rfl rfl, paired⟩
    | judge s c token =>
      cases decision : (s.endpoint.judge token).1 with
      | stale =>
        rw [decision] at aside
        exact ⟨account, aside rfl rfl, paired⟩
      | failed =>
        rw [decision] at aside
        exact ⟨account, aside rfl rfl, paired⟩
      | retry attempt => exact ⟨_, kept.tail (.pause s c account token decision), paired.cons token⟩
    | resume s c token listed now =>
      obtain ⟨⟨same, epoch⟩, paused, equal⟩ := List.mem_map.mp (paired.mem_iff.mpr listed)
      obtain rfl : same = token := equal
      refine ⟨_, kept.tail (.resume s c account same epoch paused listed now), ?_⟩
      -- Of several with this token, which one is crossed out makes no difference to the tokens.
      have left := ((List.perm_cons_erase paused).map Prod.fst).symm.trans paired
      have erased := left.erase same
      rwa [List.map_cons, List.erase_cons_head] at erased

/-- Only an attempt that expired and a retry that is left lead to a pause. -/
theorem Control.judge_retry {control : Control} {token : Expired} {maxRetries attempt : Nat}
    {fallback : UInt16} (retry : (control.judge token maxRetries fallback).1 = .retry attempt) :
    control.honours token = true ∧ control.retries < maxRetries ∧
      (control.judge token maxRetries fallback).2 =
        { control with retries := control.retries + 1 } := by
  by_cases honoured : control.honours token = true
  · rw [judge_of_honoured honoured] at retry ⊢
    split at retry
    next => cases retry
    next left =>
      rw [if_neg left]
      exact ⟨honoured, Nat.not_le.mp left, rfl⟩
  · rw [judge_of_stale (Bool.eq_false_iff.mpr honoured)] at retry
    cases retry

/-- What the epochs granted until some retries of the latest are spent. -/
structure Granted (maxRetries retries epochs : Nat) (account : Account) : Prop where
  limit : ∀ epoch, account.granted epoch ≤ maxRetries + 1
  /-- All but the first attempt of the latest epoch were charged. -/
  paid : account.granted epochs ≤ retries + 1
  ahead : ∀ epoch, epochs < epoch → account.granted epoch = 0

namespace Granted

variable {maxRetries retries epochs : Nat} {account : Account}

theorem empty : Granted maxRetries retries epochs {} where
  limit _ := Nat.zero_le _
  paid := Nat.zero_le _
  ahead _ _ := rfl

theorem mono (granted : Granted maxRetries retries epochs account) {more : Nat}
    (le : retries ≤ more) : Granted maxRetries more epochs account where
  limit := granted.limit
  paid := Nat.le_trans granted.paid (Nat.succ_le_succ le)
  ahead := granted.ahead

/-- An epoch that begins has granted nothing so far. -/
theorem next (granted : Granted maxRetries retries epochs account) (fresh : Nat) :
    Granted maxRetries fresh (epochs + 1) account where
  limit := granted.limit
  paid := by
    rw [granted.ahead (epochs + 1) (Nat.lt_succ_self epochs)]
    exact Nat.zero_le _
  ahead epoch later := granted.ahead epoch (Nat.lt_of_succ_lt later)

/-- For an epoch to come the link was not asked. -/
theorem unasked (granted : Granted maxRetries retries epochs account) {epoch : Nat}
    (later : epochs < epoch) : account.requests.count epoch = 0 :=
  Nat.eq_zero_of_le_zero (granted.ahead epoch later ▸ account.count_le_granted epoch)

theorem started (granted : Granted maxRetries retries epochs account) :
    Granted maxRetries 0 (epochs + 1) (account.started (epochs + 1)) := by
  have none := granted.ahead (epochs + 1) (Nat.lt_succ_self epochs)
  constructor
  · intro epoch
    rw [account.granted_started]
    split
    next same =>
      rw [← same, none]
      exact Nat.le_add_left 1 _
    next => exact granted.limit epoch
  · exact Nat.le_of_eq (by rw [account.granted_started, none, if_pos rfl])
  · intro epoch later
    rw [account.granted_started, granted.ahead epoch (Nat.lt_of_succ_lt later),
      if_neg (Nat.ne_of_lt later)]

/-- A retry that is left pays for one more attempt. -/
theorem charged (granted : Granted maxRetries retries epochs account) (left : retries < maxRetries)
    (token : Expired) :
    Granted maxRetries (retries + 1) epochs (account.charged token epochs) := by
  have paid := granted.paid
  constructor
  · intro epoch
    rw [account.granted_charged]
    split
    next same =>
      rw [← same]
      omega
    next => exact granted.limit epoch
  · rw [account.granted_charged, if_pos rfl]
    exact Nat.succ_le_succ paid
  · intro epoch later
    rw [account.granted_charged, granted.ahead epoch later, if_neg (Nat.ne_of_lt later)]

theorem resumed (granted : Granted maxRetries retries epochs account) {token : Expired}
    {payer : Nat} (paused : (token, payer) ∈ account.pausing) (again : Bool) :
    Granted maxRetries retries epochs (account.resumed token payer again) := by
  have less := Account.granted_resumed_le paused again
  constructor
  · intro epoch
    exact Nat.le_trans (less epoch) (granted.limit epoch)
  · exact Nat.le_trans (less epochs) granted.paid
  · intro epoch later
    exact Nat.eq_zero_of_le_zero (granted.ahead epoch later ▸ less epoch)

end Granted

/-- What is known of a scene and its account. -/
def Scene.Granted (scene : Scene W H) (account : Account) : Prop :=
  Negotiation.Granted scene.station.endpoint.settings.maxRetries.toNat scene.control.retries
    scene.chronicle.epochs account

/-- Within its epoch no retry is given back. -/
theorem Move.retries_le {a b : Scene W H} (move : Move unit a b) :
    (b.chronicle.epochs = a.chronicle.epochs ∧ a.control.retries ≤ b.control.retries) ∨
      b.chronicle.epochs = a.chronicle.epochs + 1 := by
  have kept {state : LinkState} (control : b.control = { a.control with state }) :
      a.control.retries ≤ b.control.retries := Nat.le_of_eq (by rw [control])
  cases move.effect with
  | unchanged control epochs => exact .inl ⟨epochs, Nat.le_of_eq (by rw [control])⟩
  | started now _ chronicle =>
    right
    simp only [chronicle, Chronicle.epochs, Chronicle.started]
    omega
  | stopped _ chronicle =>
    right
    simp only [chronicle, Chronicle.epochs, Chronicle.stopped]
    omega
  | completed _ _ _ _ control epochs => exact .inl ⟨epochs, kept control⟩
  | expired _ control epochs => exact .inl ⟨epochs, kept control⟩
  | failed _ _ _ _ control epochs => exact .inl ⟨epochs, kept control⟩
  | charged _ _ _ control epochs =>
    left
    rw [control]
    exact ⟨epochs, Nat.le_succ _⟩
  | resumed _ _ _ _ control epochs => exact .inl ⟨epochs, kept control⟩
  | requested _ _ control epochs => exact .inl ⟨epochs, kept control⟩

theorem Scene.Granted.step {a b : Scene W H} {before after : Account}
    (granted : a.Granted before) (step : Accounted unit (a, before) (b, after)) :
    b.Granted after := by
  cases step with
  | aside _ move =>
    simp only [Scene.Granted, move.settings]
    rcases move.retries_le with ⟨epochs, retries⟩ | epochs
    · rw [epochs]
      exact granted.mono retries
    · rw [epochs]
      exact granted.next _
  | restart s c _ now =>
    have epochs : c.started.epochs = c.epochs + 1 := by
      simp only [Chronicle.epochs, Chronicle.started]
      omega
    simp only [Scene.Granted, epochs]
    exact granted.started
  | pause s c _ token retry =>
    obtain ⟨-, left, control⟩ := Control.judge_retry retry
    simp only [Scene.Granted, Scene.control, s.endpoint.judge_settings,
      s.endpoint.judge_negotiation, control]
    exact granted.charged left token
  | resume s c _ token epoch paused listed now =>
    have retries : (s.endpoint.resume token now).2.negotiation.retries =
        s.endpoint.negotiation.retries := by
      by_cases honoured : s.endpoint.negotiation.honours token = true
      · rw [(s.endpoint.resume_of_honoured honoured now).2]
      · rw [s.endpoint.resume_of_stale (Bool.eq_false_iff.mpr honoured)]
    simp only [Scene.Granted, Scene.control, s.endpoint.resume_settings, retries]
    exact granted.resumed paused _

/-- As long as numbers of epochs do not recur, the requests since the last start or stop are
those that were made on behalf of the epoch that it began. -/
structure Scene.Numbered (scene : Scene W H) (account : Account) : Prop where
  charges : ∀ token payer, (token, payer) ∈ account.pausing →
    token.epoch = UInt32.ofNat payer ∧ payer ≤ scene.chronicle.epochs
  own : scene.chronicle.epochs < UInt32.size →
    scene.chronicle.requests = account.requests.count scene.chronicle.epochs

theorem epoch_inj {epoch other : Nat} (same : UInt32.ofNat epoch = UInt32.ofNat other)
    (valid : epoch < UInt32.size) (validOther : other < UInt32.size) : epoch = other := by
  have numbers := congrArg UInt32.toNat same
  rwa [UInt32.toNat_ofNat', UInt32.toNat_ofNat', Nat.mod_eq_of_lt valid,
    Nat.mod_eq_of_lt validOther] at numbers

theorem Move.requests_of_aside {a b : Scene W H} (move : Move unit a b)
    (starts : b.chronicle.starts = a.chronicle.starts)
    (pausing : b.chronicle.pausing = a.chronicle.pausing) :
    (b.chronicle.requests = 0 ∧ b.chronicle.epochs = a.chronicle.epochs + 1) ∨
      b.chronicle.requests = a.chronicle.requests ∧ b.chronicle.epochs = a.chronicle.epochs := by
  cases move with
  | apart => exact .inr ⟨rfl, rfl⟩
  | restart s c => exact absurd starts (Nat.succ_ne_self c.starts)
  | stop s c =>
    left
    refine ⟨rfl, ?_⟩
    simp only [Chronicle.epochs, Chronicle.stopped]
    omega
  | poll => exact .inr ⟨rfl, rfl⟩
  | judge s c token => cases decision : (s.endpoint.judge token).1 <;> exact .inr ⟨rfl, rfl⟩
  | resume s c token paused =>
    -- A pause that ends is crossed out.
    have shorter := List.length_erase_of_mem paused
    have same : (c.pausing.erase token).length = c.pausing.length := congrArg _ pausing
    have some := List.length_pos_of_mem paused
    omega
  | requested => exact .inr ⟨rfl, rfl⟩

theorem Scene.Numbered.step {a b : Scene W H} {before after : Account}
    (numbered : a.Numbered before) (granted : a.Granted before)
    (number : a.control.epoch = UInt32.ofNat a.chronicle.epochs)
    (step : Accounted unit (a, before) (b, after)) : b.Numbered after := by
  obtain ⟨charges, own⟩ := numbered
  cases step with
  | aside _ move starts pausing =>
    obtain ⟨begun, epochs, -⟩ := move.epoch
    constructor
    · intro token payer paused
      obtain ⟨number, past⟩ := charges token payer paused
      exact ⟨number, by omega⟩
    · intro few
      rcases move.requests_of_aside starts pausing with ⟨none, next⟩ | ⟨requests, same⟩
      · rw [none, granted.unasked (next ▸ Nat.lt_succ_self _)]
      · rw [requests, same]
        exact own (same ▸ few)
  | restart s c _ now =>
    have later : c.epochs < c.started.epochs := by
      simp only [Chronicle.epochs, Chronicle.started]
      omega
    constructor
    · intro token payer paused
      obtain ⟨number, past⟩ := charges token payer paused
      exact ⟨number, Nat.le_of_lt (Nat.lt_of_le_of_lt past later)⟩
    · intro
      simp only [Account.started, List.count_cons_self, granted.unasked later]
      rfl
  | pause s c _ token retry =>
    obtain ⟨honoured, -⟩ := Control.judge_retry retry
    obtain ⟨epoch, -⟩ := Control.honours_iff.mp honoured
    constructor
    · intro other payer paused
      rcases List.mem_cons.mp paused with this | before
      · obtain ⟨rfl, rfl⟩ := Prod.mk.inj this
        exact ⟨epoch.symm.trans number, Nat.le_refl _⟩
      · exact charges other payer before
    · exact own
  | resume s c _ token payer paused listed now =>
    constructor
    · intro other charged waiting
      exact charges other charged (List.mem_of_mem_erase waiting)
    · intro few
      obtain ⟨recorded, past⟩ := charges token payer paused
      have requests := own few
      by_cases honoured : s.endpoint.negotiation.honours token = true
      · -- The epoch that paid has the number of this one, so it is this one.
        have again := (s.endpoint.resume_of_honoured honoured now).1
        have epoch := (Control.honours_iff.mp honoured).1
        have same : payer = c.epochs :=
          epoch_inj (recorded.symm.trans (epoch.symm.trans number))
            (Nat.lt_of_le_of_lt past few) few
        have grown : (c.epochs :: before.requests).count c.epochs =
            before.requests.count c.epochs + 1 := List.count_cons_self
        simp only [again, same, Account.resumed, Chronicle.resumed, if_true]
        exact (congrArg (· + 1) requests).trans grown.symm
      · have stale := s.endpoint.resume_of_stale (Bool.eq_false_iff.mpr honoured) now
        simp only [stale]
        exact requests

theorem Accounted.move {a b : Scene W H} {before after : Account}
    (step : Accounted unit (a, before) (b, after)) : Move unit a b := by
  cases step with
  | aside _ move => exact move
  | restart s c _ now => exact .restart s c now
  | pause s c _ token retry =>
    rw [← retry]
    exact .judge s c token
  | resume s c _ token _ _ listed now => exact .resume s c token listed now

/-- The number of the epoch is the count of those that began, as far as numbers go. -/
theorem Interleaved.number {settings : Settings} {world : W} {scene : Scene W H}
    (run : Interleaved unit (.fresh settings world) scene) :
    scene.control.epoch = UInt32.ofNat scene.chronicle.epochs := by
  obtain ⟨begun, epochs, epoch⟩ := run.epoch
  rw [epoch, epochs]
  simp [Scene.fresh, Scene.control, Endpoint.fresh, Chronicle.epochs]

/-- Along a run from the start, no epoch grants more than its retries pay for, and the requests
of this one are on its own account. -/
theorem AccountedRun.requests {settings : Settings} {world : W} {scene : Scene W H}
    {account : Account} (kept : AccountedRun unit (.fresh settings world, {}) (scene, account)) :
    Interleaved unit (.fresh settings world) scene ∧ scene.Granted account ∧
      scene.Numbered account := by
  generalize reached : (scene, account) = entry at kept
  induction kept generalizing scene account with
  | refl =>
    cases reached
    refine ⟨.refl, .empty, ⟨?_, ?_⟩⟩
    · intro token payer paused
      cases paused
    · intro
      rfl
  | @tail before _ _ step ih =>
    subst reached
    obtain ⟨run, granted, numbered⟩ := ih rfl
    exact ⟨run.tail step.move, granted.step step, numbered.step granted run.number step⟩

/-- In every state that is reached, however starts, stops, checks and the halves of resolving
tokens are interleaved: the retries that are spent are among those there are; the negotiation
is complete only with a large unit, at which a check of this epoch completed it, and failed
only with the fallback unit and without retries; a state is left only as `Permitted` says; and
no epoch had the link asked for more attempts than one and its retries. -/
theorem attempts_within_retries (settings : Settings) (world : W) {scene : Scene W H}
    (run : Interleaved unit (.fresh settings world) scene) :
    scene.control.retries ≤ settings.maxRetries.toNat ∧
      (∀ mtu, scene.control.state = .completed mtu →
        23 < mtu.toNat ∧ CompletedBy unit (.fresh settings world) mtu scene) ∧
      (∀ fallback, scene.control.state = .failed fallback →
        fallback = max settings.fallbackMtu 100 ∧
          scene.control.retries = settings.maxRetries.toNat) ∧
      (∀ next, Move unit scene next → Permitted scene next) ∧
      (∃ account, AccountedRun unit (.fresh settings world, {}) (scene, account)) ∧
      (∀ account, AccountedRun unit (.fresh settings world, {}) (scene, account) →
        ∀ epoch, account.requests.count epoch ≤ settings.maxRetries.toNat + 1) ∧
      (scene.chronicle.epochs < UInt32.size →
        scene.chronicle.requests ≤ settings.maxRetries.toNat + 1) := by
  have same : scene.station.endpoint.settings = settings := run.settings
  obtain ⟨account, kept, -⟩ := run.accounted rfl
  have within : ∀ account, AccountedRun unit (.fresh settings world, {}) (scene, account) →
      ∀ epoch, account.requests.count epoch ≤ settings.maxRetries.toNat + 1 := by
    intro account kept epoch
    have limit := kept.requests.2.1.limit epoch
    rw [same] at limit
    exact Nat.le_trans (account.count_le_granted epoch) limit
  obtain ⟨retries, failed⟩ := (frugal_fresh settings world).run run
  rw [same] at retries failed
  refine ⟨retries, fun mtu => ?_, failed, fun next => Move.permitted, ⟨account, kept⟩, within, ?_⟩
  · exact run.completedBy (by intro mtu; simp [Scene.fresh, Scene.control, Endpoint.fresh])
  · intro few
    rw [kept.requests.2.2.own few]
    exact within account kept _

/-- The first attempt expires; behind a pause the second one is completed by a larger unit. -/
theorem attempts_within_retries_of_second_attempt :
    ∃ scene : Scene UInt16 Empty, Interleaved id (.fresh { maxRetries := 1 } 23) scene ∧
      scene.control.state = .completed 100 ∧ scene.control.retries = 1 ∧
      CompletedBy id (.fresh { maxRetries := 1 } 23) 100 scene ∧
      (∀ next, Move id scene next → Permitted scene next) ∧ scene.chronicle.requests ≤ 2 := by
  have first : Interleaved id (.fresh { maxRetries := 1 } 23 : Scene UInt16 Empty) _ :=
    (Relation.ReflTransGen.single (.restart _ _ 0)).tail (.poll _ _ 5001)
  have pause := first.tail (.judge _ _ ⟨1⟩)
  have second := pause.tail (.resume _ _ ⟨1⟩ (by decide) 5101)
  have run := (second.tail (.apart (t := ⟨_, 100⟩) _ rfl rfl)).tail (.poll _ _ 5102)
  obtain ⟨-, completed, -, left, -, -, requests⟩ := attempts_within_retries _ _ run
  exact ⟨_, run, rfl, rfl, (completed 100 rfl).2, left, requests (by decide)⟩

end CommandLink.Negotiation
