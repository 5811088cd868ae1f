import CommandLink.Proofs.Attempts

/-!
# What the link is asked for

An attempt begins with a step of the endpoint, and behind the step the link is asked for a
unit. Chronicles and accounts count the steps. Here they are compared with the calls of the
port: whoever begins an attempt asks once, in the epoch of the attempt, and nobody else asks,
whatever goes on while ports are called. So the requests of an account are the calls, and those
of a chronicle are the calls in its epoch.
-/

namespace CommandLink

open Act Negotiation

variable {W H α : Type}

namespace Negotiation

/-- A call that asks the link for a unit, with the epoch of the control block at that time. -/
structure Request where
  mtu : UInt16
  epoch : UInt32
  deriving DecidableEq

/-- The request for an attempt of an epoch, which is known by its place in the run. -/
def Request.of (settings : Settings) (epoch : Nat) : Request :=
  ⟨settings.preferredMtu, UInt32.ofNat epoch⟩

/-- An account that was kept from the start, and lists what the link was asked for. -/
structure Accurate (unit : W → UInt16) (asked : W → List Request) (scene : Scene W H)
    (account : Account) : Prop where
  kept : ∃ settings world, AccountedRun unit (.fresh settings world, {}) (scene, account)
  paired : account.pausing.map Prod.fst = scene.chronicle.pausing
  requests : asked scene.station.world =
    account.requests.map (Request.of scene.station.endpoint.settings)

/-- From one station to another, with an account that stays accurate. Every pause that begins
on the way ends on it. -/
def StaysAccurate (unit : W → UInt16) (asked : W → List Request) (s t : Station W H) : Prop :=
  ∀ c account, Accurate unit asked ⟨s, c⟩ account →
    ∃ d after, AccountedRun unit (⟨s, c⟩, account) (⟨t, d⟩, after) ∧
      Accurate unit asked ⟨t, d⟩ after ∧ after.pausing = account.pausing

/-- From one station to another by one request, and whatever goes on behind it. -/
def AsksOnce (unit : W → UInt16) (asked : W → List Request) (s t : Station W H) : Prop :=
  ∃ world, asked world =
      ⟨s.endpoint.settings.preferredMtu, s.endpoint.negotiation.epoch⟩ :: asked s.world ∧
    StaysAccurate unit asked { s with world } t

variable {unit : W → UInt16} {asked : W → List Request} {s t : Station W H}

theorem Accurate.of_fresh (settings : Settings) {world : W} (unasked : asked world = []) :
    Accurate unit asked (.fresh settings world : Scene W H) {} where
  kept := ⟨settings, world, .refl⟩
  paired := rfl
  requests := unasked

/-- A step that begins no attempt, and no pause. -/
theorem StaysAccurate.of_aside {change : Chronicle → Chronicle}
    (move : ∀ c, Move unit ⟨s, c⟩ ⟨t, change c⟩) (starts : ∀ c, (change c).starts = c.starts)
    (pausing : ∀ c, (change c).pausing = c.pausing) (silent : asked t.world = asked s.world) :
    StaysAccurate unit asked s t := by
  intro c account accurate
  obtain ⟨⟨settings, world, kept⟩, paired, requests⟩ := accurate
  have step : Accounted unit (⟨s, c⟩, account) (⟨t, change c⟩, account) :=
    .aside account (move c) (starts c) (pausing c)
  have same : t.endpoint.settings = s.endpoint.settings := (move c).settings
  refine ⟨change c, account, .single step, ⟨⟨settings, world, kept.tail step⟩, ?_, ?_⟩, rfl⟩
  · exact paired.trans (pausing c).symm
  · rw [silent, same]
    exact requests

theorem staysAccurate_bookless (unit : W → UInt16) (asked : W → List Request) :
    Bookless (StaysAccurate unit asked (H := H)) where
  refl _ c account accurate := ⟨c, account, .refl, accurate, rfl⟩
  trans s t u there further c account accurate := by
    obtain ⟨d, middle, first, still, kept⟩ := there c account accurate
    obtain ⟨e, after, second, done, same⟩ := further d middle still
    exact ⟨e, after, first.trans second, done, same.trans kept⟩
  books s endpoint same := by
    have negotiation := congrArg Endpoint.negotiation same
    have settings := congrArg Endpoint.settings same
    exact .of_aside (fun c => .apart c negotiation settings) (fun _ => rfl) (fun _ => rfl) rfl

theorem Accurate.numbered {scene : Scene W H} {account : Account}
    (accurate : Accurate unit asked scene account) : scene.Numbered account := by
  obtain ⟨settings, world, kept⟩ := accurate.kept
  exact kept.requests.2.2

/-- A retry is charged before its pause, and asked for behind it. -/
theorem Accurate.charged {c : Chronicle} {account : Account} {token : Expired} {attempt : Nat}
    (accurate : Accurate unit asked ⟨s, c⟩ account)
    (retry : (s.endpoint.judge token).1 = .retry attempt) :
    Accurate unit asked ⟨{ s with endpoint := (s.endpoint.judge token).2 },
      c.judged token (.retry attempt)⟩ (account.charged token c.epochs) := by
  obtain ⟨⟨settings, world, kept⟩, paired, requests⟩ := accurate
  refine ⟨⟨settings, world, kept.tail (.pause s c account token retry)⟩, ?_, ?_⟩
  · exact congrArg (token :: ·) paired
  · rw [s.endpoint.judge_settings]
    exact requests

/-- The pause that ends is the latest one, for the account as for the chronicle. -/
theorem Accurate.ended {c : Chronicle} {account : Account} {token : Expired} {payer : Nat}
    {earlier : List (Expired × Nat)} (accurate : Accurate unit asked ⟨s, c⟩ account)
    (pausing : account.pausing = (token, payer) :: earlier) (now : Nat) :
    let resumed := s.endpoint.resume token now
    let after := account.resumed token payer resumed.1
    Accounted unit (⟨s, c⟩, account)
        (⟨{ s with endpoint := resumed.2 }, c.resumed token resumed.1⟩, after) ∧
      after.pausing = earlier ∧
      after.pausing.map Prod.fst = (c.resumed token resumed.1).pausing := by
  intro resumed after
  have waiting : c.pausing = token :: earlier.map Prod.fst := by
    rw [← accurate.paired, pausing]
    rfl
  have left : after.pausing = earlier := by
    simp only [after, Account.resumed, pausing, List.erase_cons_head]
  refine ⟨.resume s c account token payer ?_ ?_ now, left, ?_⟩
  · rw [pausing]
    exact List.mem_cons_self
  · rw [waiting]
    exact List.mem_cons_self
  · rw [left, Chronicle.resumed, waiting, List.erase_cons_head]

/-- A step that begins an attempt, and the request behind it. -/
theorem AsksOnce.accurate {c begun : Chronicle} {account grown : Account} {epoch : Nat}
    {start : Station W H} (asks : AsksOnce unit asked s t)
    (accurate : Accurate unit asked ⟨start, c⟩ account)
    (step : Accounted unit (⟨start, c⟩, account) (⟨s, begun⟩, grown))
    (still : s.world = start.world) (paired : grown.pausing.map Prod.fst = begun.pausing)
    (granted : grown.requests = epoch :: account.requests)
    (number : s.endpoint.negotiation.epoch = UInt32.ofNat epoch) :
    ∃ d after, AccountedRun unit (⟨start, c⟩, account) (⟨t, d⟩, after) ∧
      Accurate unit asked ⟨t, d⟩ after ∧ after.pausing = grown.pausing := by
  obtain ⟨world, called, behind⟩ := asks
  obtain ⟨⟨settings, origin, kept⟩, -, requests⟩ := accurate
  have same : s.endpoint.settings = start.endpoint.settings := step.move.settings
  -- The account was ahead of the calls by this step, until the call is made.
  have call : Accounted unit (⟨s, begun⟩, grown) (⟨{ s with world }, begun⟩, grown) :=
    .aside grown (.apart begun rfl rfl) rfl rfl
  have even : Accurate unit asked ⟨{ s with world }, begun⟩ grown := by
    refine ⟨⟨settings, origin, (kept.tail step).tail call⟩, paired, ?_⟩
    rw [called, granted, still, requests, number, same]
    rfl
  obtain ⟨d, after, run, done, kept⟩ := behind begun grown even
  exact ⟨d, after, .head step (.head call run), done, kept⟩

end Negotiation

/-- The ports list each request before anything else goes on in it, and apart from that they do
what keeps an account accurate. -/
structure Ports.Asking (ports : Ports W H) (asked : W → List Request) : Prop
    extends ports.Within (StaysAccurate ports.mtu asked) where
  requestMtu : ∀ mtu s, Returns (ports.requestMtu mtu) s fun _ t => ∃ world,
    asked world = ⟨mtu, s.endpoint.negotiation.epoch⟩ :: asked s.world ∧
      StaysAccurate ports.mtu asked { s with world } t
  randomBelow : ∀ bound, Act.Within (StaysAccurate ports.mtu asked) (ports.randomBelow bound)
  restartAdvertising : Act.Within (StaysAccurate ports.mtu asked) ports.restartAdvertising

namespace Ports.Asking

variable {ports : Ports W H} {asked : W → List Request} (asking : ports.Asking asked)

include asking

/-! ## Procedures -/

theorem requestUnit_asks (epoch : UInt32) (s : Station W H) :
    Returns (requestUnit ports epoch) s fun _ t => AsksOnce ports.mtu asked s t := by
  have bookless := staysAccurate_bookless (H := H) ports.mtu asked
  apply returns_endpoint
  apply (asking.requestMtu _ s).bind
  intro answer t ⟨world, called, behind⟩
  cases answer with
  | ok =>
    have requested : StaysAccurate ports.mtu asked t
        { t with endpoint := t.endpoint.requested epoch } :=
      .of_aside (fun c => .requested t c epoch) (fun _ => rfl) (fun _ => rfl) rfl
    exact ⟨(), _, rfl, world, called, bookless.trans _ _ _ behind requested⟩
  | error error => exact returns_pure ⟨world, called, behind⟩

/-- A start asks once, in the epoch that it begins. -/
theorem restartNegotiation_accurate :
    Act.Within (StaysAccurate ports.mtu asked) (restartNegotiation ports) := by
  intro s
  apply returns_world
  apply returns_step
  apply (asking.requestUnit_asks _ _).mono
  intro _ t asks c account accurate
  have step : Accounted ports.mtu (⟨s, c⟩, account) _ :=
    .restart s c account (ports.now s.world)
  obtain ⟨settings, world, kept⟩ := accurate.kept
  have number := (AccountedRun.requests (kept.tail step)).1.number
  exact (asks.accurate accurate step rfl accurate.paired rfl number :)

theorem backOff_accurate (attempt : Nat) :
    Act.Within (StaysAccurate ports.mtu asked) (backOff ports attempt) := by
  have bookless := staysAccurate_bookless (H := H) ports.mtu asked
  apply bookless.bind bookless.endpoint
  intro endpoint
  apply bookless.bind (asking.randomBelow _)
  intro jitter
  exact bookless.bind (asking.sleep _) fun _ => bookless.pure _

/-- What follows a pause: an attempt that begins asks once, in the epoch that was charged. -/
theorem resume_accurate (token : Expired) (attempt delay : Nat) (s : Station W H) :
    Returns (do
      let now := ports.now (← world)
      if ← step (·.resume token now) then
        requestUnit ports token.epoch
        return Resolution.retrying attempt delay
      else
        return Resolution.stale) s fun _ t =>
      ∀ c account payer earlier, Accurate ports.mtu asked ⟨s, c⟩ account →
        account.pausing = (token, payer) :: earlier →
        ∃ d after, AccountedRun ports.mtu (⟨s, c⟩, account) (⟨t, d⟩, after) ∧
          Accurate ports.mtu asked ⟨t, d⟩ after ∧ after.pausing = earlier := by
  apply returns_world
  apply returns_step
  cases resumed : s.endpoint.resume token (ports.now s.world) with
  | mk again endpoint =>
    cases again with
    | false =>
      apply returns_pure
      intro c account payer earlier accurate pausing
      obtain ⟨step, left, paired⟩ := accurate.ended pausing (ports.now s.world)
      rw [resumed] at step left paired
      obtain ⟨settings, world, kept⟩ := accurate.kept
      refine ⟨_, _, .single step, ⟨⟨settings, world, kept.tail step⟩, paired, ?_⟩, left⟩
      have same : endpoint.settings = s.endpoint.settings := step.move.settings
      rw [same]
      exact accurate.requests
    | true =>
      apply (asking.requestUnit_asks token.epoch _).bind
      intro _ t asks
      apply returns_pure
      intro c account payer earlier accurate pausing
      obtain ⟨step, left, paired⟩ := accurate.ended pausing (ports.now s.world)
      rw [resumed] at step left paired
      -- The token is of the epoch that was charged, and of this one.
      have charged : (token, payer) ∈ account.pausing := by
        rw [pausing]
        exact List.mem_cons_self
      have number := (epoch_of_resume resumed).symm.trans (accurate.numbered.charges _ _ charged).1
      rw [← left]
      exact asks.accurate accurate step rfl paired rfl number

theorem resolve_accurate (token : Expired) :
    Act.Within (StaysAccurate ports.mtu asked) (resolve ports token) := by
  intro s
  have judged : ∀ c, Move ports.mtu ⟨s, c⟩ _ := fun c => .judge s c token
  apply returns_step
  cases decision : (s.endpoint.judge token).1 with
  | stale =>
    rw [decision] at judged
    apply returns_pure
    exact .of_aside judged (fun _ => rfl) (fun _ => rfl) rfl
  | failed =>
    rw [decision] at judged
    apply returns_endpoint
    apply returns_pure
    exact .of_aside judged (fun _ => rfl) (fun _ => rfl) rfl
  | retry attempt =>
    apply (asking.backOff_accurate attempt _).bind
    intro delay u paused
    apply (asking.resume_accurate token attempt delay u).mono
    intro _ t resumed c account accurate
    have step : Accounted ports.mtu (⟨s, c⟩, account) _ := .pause s c account token decision
    have waiting : Accurate ports.mtu asked _ _ := accurate.charged decision
    obtain ⟨d, between, pause, still, waits⟩ := paused _ _ waiting
    obtain ⟨e, after, rest, done, left⟩ := resumed d between _ _ still waits
    exact ⟨e, after, .head step (pause.trans rest), done, left⟩

theorem monitorTick_accurate :
    Act.Within (StaysAccurate ports.mtu asked) (monitorTick ports) := by
  have bookless := staysAccurate_bookless (H := H) ports.mtu asked
  intro s
  apply returns_world
  apply returns_step
  have polled : StaysAccurate ports.mtu asked s _ :=
    .of_aside (fun c => .poll s c (ports.now s.world)) (fun _ => rfl) (fun _ => rfl) rfl
  split
  next token _ =>
    apply (asking.resolve_accurate token _).bind
    intro resolution t further
    exact returns_pure (bookless.trans _ _ _ polled further)
  next => exact returns_pure polled

theorem onConnect_accurate : Act.Within (StaysAccurate ports.mtu asked) (onConnect ports) := by
  have bookless := staysAccurate_bookless (H := H) ports.mtu asked
  apply bookless.bind asking.restartNegotiation_accurate
  intro _
  apply bookless.bind bookless.endpoint
  intro endpoint
  apply bookless.bind (asking.sleep _)
  intro _
  exact asking.monitorTick_accurate.discard

theorem onDisconnect_accurate :
    Act.Within (StaysAccurate ports.mtu asked) (onDisconnect ports) := by
  have bookless := staysAccurate_bookless (H := H) ports.mtu asked
  apply bookless.bind _ fun _ => asking.restartAdvertising
  apply within_modifyEndpoint
  intro s
  have streamless : StaysAccurate ports.mtu asked s
      { s with endpoint := { s.endpoint with streaming := false } } :=
    .of_aside (fun c => .apart c rfl rfl) (fun _ => rfl) (fun _ => rfl) rfl
  have stopped : StaysAccurate ports.mtu asked
      { s with endpoint := { s.endpoint with streaming := false } }
      { s with endpoint := { s.endpoint with streaming := false }.stop } :=
    .of_aside (fun c => .stop _ c) (fun _ => rfl) (fun _ => rfl) rfl
  exact bookless.trans _ _ _ streamless stopped

end Ports.Asking

/-! ## Requests and calls -/

namespace Negotiation

variable {unit : W → UInt16} {asked : W → List Request} {scene : Scene W H} {account : Account}

/-- As long as numbers of epochs do not recur, the calls in an epoch are the requests that were
made on its behalf. -/
theorem Accurate.count_of_epoch (accurate : Accurate unit asked scene account)
    (few : scene.chronicle.epochs < UInt32.size) {epoch : Nat}
    (past : epoch ≤ scene.chronicle.epochs) :
    (asked scene.station.world).count (.of scene.station.endpoint.settings epoch) =
      account.requests.count epoch := by
  obtain ⟨settings, world, kept⟩ := accurate.kept
  have granted := kept.requests.2.1
  have begun : ∀ other ∈ account.requests, other < UInt32.size := by
    intro other listed
    rw [← Nat.not_le]
    intro later
    exact List.count_eq_zero.mp (granted.unasked (Nat.lt_of_lt_of_le few later)) listed
  rw [accurate.requests, List.count, List.countP_map, List.count]
  apply List.countP_congr
  intro other listed
  simp only [Function.comp_apply, beq_iff_eq, Request.of, Request.mk.injEq, true_and]
  constructor
  · intro same
    exact epoch_inj same (begun other listed) (Nat.lt_of_le_of_lt past few)
  · rintro rfl
    rfl

/-- No epoch asks more often than once, and once for each retry. -/
theorem Accurate.count_le (accurate : Accurate unit asked scene account)
    (few : scene.chronicle.epochs < UInt32.size) {epoch : Nat}
    (past : epoch ≤ scene.chronicle.epochs) :
    (asked scene.station.world).count (.of scene.station.endpoint.settings epoch) ≤
      scene.station.endpoint.settings.maxRetries.toNat + 1 := by
  obtain ⟨settings, world, kept⟩ := accurate.kept
  rw [accurate.count_of_epoch few past]
  exact Nat.le_trans (account.count_le_granted epoch) (kept.requests.2.1.limit epoch)

/-- The requests of a chronicle are the calls in its epoch. -/
theorem Accurate.requests_of_chronicle (accurate : Accurate unit asked scene account)
    (few : scene.chronicle.epochs < UInt32.size) :
    scene.chronicle.requests = (asked scene.station.world).count
      ⟨scene.station.endpoint.settings.preferredMtu, scene.control.epoch⟩ := by
  obtain ⟨settings, world, kept⟩ := accurate.kept
  have calls := accurate.count_of_epoch few (Nat.le_refl _)
  rw [Request.of, ← kept.requests.1.number] at calls
  rw [calls, accurate.numbered.own few]

end Negotiation

/-- A procedure that keeps accounts accurate has one from its start. Whatever was interleaved,
its requests are the calls; those of the chronicle are the calls in the epoch that is reached;
and no epoch asks more often than once, and once for each retry. -/
theorem requests_are_calls {unit : W → UInt16} {asked : W → List Request} {act : Act W H α}
    (within : Act.Within (StaysAccurate unit asked) act) (settings : Settings) {world : W}
    (unasked : asked world = []) :
    Returns act ⟨.fresh settings, world⟩ fun _ t => ∃ chronicle account,
      AccountedRun unit (.fresh settings world, {}) (⟨t, chronicle⟩, account) ∧
        asked t.world = account.requests.map (.of settings) ∧
        (chronicle.epochs < UInt32.size →
          chronicle.requests =
            (asked t.world).count ⟨settings.preferredMtu, t.endpoint.negotiation.epoch⟩ ∧
          ∀ epoch ≤ chronicle.epochs,
            (asked t.world).count (.of settings epoch) ≤ settings.maxRetries.toNat + 1) := by
  apply (within ⟨.fresh settings, world⟩).mono
  intro _ t stays
  obtain ⟨chronicle, account, run, accurate, -⟩ := stays {} {} (.of_fresh settings unasked)
  have same : t.endpoint.settings = settings := run.requests.1.settings
  have listed := accurate.requests
  have since := accurate.requests_of_chronicle
  have limit := accurate.count_le
  simp only [same] at listed since limit
  exact ⟨chronicle, account, run, listed, fun few => ⟨since few, fun _ => limit few⟩⟩

/-- Ports of a link that takes every request. The world is a clock and what was asked for, and
something goes on inside each pause. -/
def listingPorts (inside : Act (Nat × List Request) H Unit) : Ports (Nat × List Request) H where
  notify _ := return .error .notConnected
  requestMtu mtu := do
    let request := ⟨mtu, (← endpoint).negotiation.epoch⟩
    modifyWorld fun (clock, asked) => (clock, request :: asked)
    return .ok ()
  restartAdvertising := pure ()
  mtu _ := UInt16.ofNat defaultMtu
  now := Prod.fst
  sleep time := do
    modifyWorld fun (clock, asked) => (clock + time, asked)
    inside
  randomBelow _ := return 0
  freeBytes := return 0
  minFreeBytes _ := 0
  allocate _ _ := return false
  handle _ _ := pure ()
  hasTelemetry _ := false
  nextTelemetry := return none
  rounds := 0

theorem listingPorts_asking {inside : Act (Nat × List Request) H Unit}
    (within : Act.Within (StaysAccurate (listingPorts inside).mtu Prod.snd) inside) :
    (listingPorts inside).Asking Prod.snd where
  notify _ := (staysAccurate_bookless _ _).pure _
  requestMtu mtu s := ⟨_, _, rfl, _, rfl, (staysAccurate_bookless _ _).refl _⟩
  restartAdvertising := (staysAccurate_bookless _ _).pure _
  sleep time s := by
    have later : StaysAccurate (listingPorts inside).mtu Prod.snd s
        { s with world := (s.world.1 + time, s.world.2) } :=
      .of_aside (fun c => .apart c rfl rfl) (fun _ => rfl) (fun _ => rfl) rfl
    obtain ⟨_, t, returned, further⟩ := within { s with world := (s.world.1 + time, s.world.2) }
    exact ⟨(), t, returned, (staysAccurate_bookless _ _).trans _ _ _ later further⟩
  randomBelow _ := (staysAccurate_bookless _ _).pure _
  freeBytes := (staysAccurate_bookless _ _).pure _
  allocate _ _ := (staysAccurate_bookless _ _).pure _

/-- The peer connects, and in the first pause of this it connects anew, some levels deep. -/
def reconnecting : Nat → Act (Nat × List Request) H Unit
  | 0 => pure ()
  | levels + 1 => onConnect (listingPorts (reconnecting levels))

theorem reconnecting_accurate (levels : Nat) :
    Act.Within (StaysAccurate (fun _ => UInt16.ofNat defaultMtu) Prod.snd)
      (reconnecting levels : Act _ H Unit) := by
  induction levels with
  | zero => exact (staysAccurate_bookless _ _).pure ()
  | succ levels ih => exact (listingPorts_asking ih).onConnect_accurate

/-- Each connection asks once, the one in the innermost pause last. -/
example : (exec (reconnecting 3) (⟨.fresh {}, (0, [])⟩ : Station _ Empty)).2.world.2 =
    [⟨517, 3⟩, ⟨517, 2⟩, ⟨517, 1⟩] := by decide +kernel

end CommandLink
