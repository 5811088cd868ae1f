import CommandLink.Bench.Inbound
import CommandLink.Proofs.Interleaving

/-!
# Nothing outlives its connection

Every start and every stop of the negotiation begins an epoch. Tokens and requests carry the
epoch they come from, and numbers of epochs do not recur before all others were used. So work
that was overtaken by another epoch finds the control block of that epoch and leaves it as it
is, at whichever of its gaps it was overtaken.
-/

namespace CommandLink

open Act

variable {W H : Type} {unit : W → UInt16}

namespace Negotiation

/-! ## Epochs -/

theorem Move.epoch {a b : Scene W H} (move : Move unit a b) :
    ∃ begun : Nat, b.chronicle.epochs = a.chronicle.epochs + begun ∧
      b.control.epoch = a.control.epoch + UInt32.ofNat begun := by
  cases move with
  | apart c negotiation => exact ⟨0, rfl, by simp [Scene.control, negotiation]⟩
  | restart s c now => exact ⟨1, by simp [Chronicle.epochs, Chronicle.started]; omega, rfl⟩
  | stop s c => exact ⟨1, by simp [Chronicle.epochs, Chronicle.stopped]; omega, rfl⟩
  | poll s c now => exact ⟨0, rfl, by simp [Scene.control]⟩
  | judge s c token =>
    refine ⟨0, ?_, by simp [Scene.control]⟩
    cases decision : (s.endpoint.judge token).1 <;> rfl
  | resume s c token _ now => exact ⟨0, rfl, by simp [Scene.control]⟩
  | requested s c epoch => exact ⟨0, rfl, by simp [Scene.control, Endpoint.requested]⟩

/-- The number of the epoch grows with the starts and stops, and wraps. -/
theorem Interleaved.epoch {a b : Scene W H} (run : Interleaved unit a b) :
    ∃ begun : Nat, b.chronicle.epochs = a.chronicle.epochs + begun ∧
      b.control.epoch = a.control.epoch + UInt32.ofNat begun := by
  -- The count of epochs does not wrap, so it says how far the number went.
  induction run with
  | refl => exact ⟨0, rfl, by simp⟩
  | tail _ move ih =>
    obtain ⟨begun, epochs, epoch⟩ := ih
    obtain ⟨more, moreEpochs, moreEpoch⟩ := move.epoch
    refine ⟨begun + more, by omega, ?_⟩
    rw [moreEpoch, epoch, UInt32.add_assoc, UInt32.ofNat_add]

theorem Move.starts_le {a b : Scene W H} (move : Move unit a b) :
    a.chronicle.starts ≤ b.chronicle.starts := by
  cases move with
  | apart => exact Nat.le_refl _
  | restart => exact Nat.le_succ _
  | stop => exact Nat.le_refl _
  | poll => exact Nat.le_refl _
  | judge s c token => cases decision : (s.endpoint.judge token).1 <;> exact Nat.le_refl _
  | resume => exact Nat.le_refl _
  | requested => exact Nat.le_refl _

/-- Idle is left by a start only. -/
theorem Move.idle {a b : Scene W H} (move : Move unit a b) (idle : a.control.state = .idle) :
    (b.chronicle.starts = a.chronicle.starts ∧ b.control.state = .idle) ∨
      b.chronicle.starts = a.chronicle.starts + 1 := by
  -- While it is idle no token is honoured, and a check finds no attempt under way.
  have stale : ∀ token, a.control.honours token = false := by
    simp [Control.honours, idle]
  have calm : ¬a.control.state.negotiating = true := by
    simp [idle, LinkState.negotiating]
  cases move with
  | apart c negotiation =>
    left
    simp only [Scene.control, negotiation]
    exact ⟨trivial, idle⟩
  | restart s c now => exact .inr rfl
  | stop s c => exact .inl ⟨rfl, rfl⟩
  | poll s c now =>
    left
    refine ⟨rfl, ?_⟩
    simp only [Scene.control, Endpoint.poll_negotiation]
    rcases s.endpoint.negotiation.poll_cases now s.endpoint.settings.attemptTimeout.toNat
      (unit s.world) with ⟨negotiating, -⟩ | ⟨negotiating, -⟩ | same
    · exact absurd negotiating calm
    · exact absurd negotiating calm
    · rw [same]
      exact idle
  | judge s c token =>
    left
    rw [s.endpoint.judge_of_stale (stale token)]
    exact ⟨rfl, idle⟩
  | resume s c token _ now =>
    left
    rw [s.endpoint.resume_of_stale (stale token)]
    exact ⟨rfl, idle⟩
  | requested s c epoch =>
    left
    refine ⟨rfl, ?_⟩
    rcases s.endpoint.negotiation.requested_cases epoch with ⟨since, begun, -⟩ | same
    · have both := idle.symm.trans begun
      cases both
    · show (s.endpoint.negotiation.requested epoch).state = .idle
      rw [same]
      exact idle

theorem Interleaved.idle {a b : Scene W H} (run : Interleaved unit a b)
    (idle : a.control.state = .idle) :
    (b.chronicle.starts = a.chronicle.starts ∧ b.control.state = .idle) ∨
      a.chronicle.starts < b.chronicle.starts := by
  induction run with
  | refl => exact .inl ⟨rfl, idle⟩
  | tail _ move ih =>
    rcases ih with ⟨same, still⟩ | started
    · exact (move.idle still).imp (fun kept => ⟨kept.1.trans same, kept.2⟩) (by omega)
    · exact .inr (Nat.lt_of_lt_of_le started move.starts_le)

/-- Other epochs began on the way from one station to another, but not so many that their
numbers recur. -/
def Overtaken (unit : W → UInt16) (s t : Station W H) : Prop :=
  ∃ c d : Chronicle, Interleaved unit ⟨s, c⟩ ⟨t, d⟩ ∧
    c.epochs < d.epochs ∧ d.epochs < c.epochs + UInt32.size

theorem Overtaken.epoch_ne {s t : Station W H} (overtaken : Overtaken unit s t) :
    t.endpoint.negotiation.epoch ≠ s.endpoint.negotiation.epoch := by
  obtain ⟨c, d, run, some, few⟩ := overtaken
  obtain ⟨begun, epochs, epoch⟩ := run.epoch
  simp only at epochs
  intro same
  -- The same number would mean that a multiple of all numbers was used.
  have none : UInt32.ofNat begun = 0 := by
    have sum : t.endpoint.negotiation.epoch =
      s.endpoint.negotiation.epoch + UInt32.ofNat begun := epoch
    rw [same] at sum
    simpa using sum.symm
  have wrapped : begun % UInt32.size = 0 := congrArg UInt32.toNat none
  rw [Nat.mod_eq_of_lt (by omega)] at wrapped
  omega

/-- What belongs to the epoch before is not honoured. -/
theorem Overtaken.stale {s t : Station W H} (overtaken : Overtaken unit s t) {token : Expired}
    (epoch : token.epoch = s.endpoint.negotiation.epoch) :
    t.endpoint.negotiation.honours token = false := by
  rw [← Bool.not_eq_true, Control.honours_iff]
  rintro ⟨same, -⟩
  exact overtaken.epoch_ne (same.trans epoch)

end Negotiation

open Negotiation

/-! ## Overtaken work -/

variable {ports : Ports W H}

/-- A token of another epoch changes nothing, and asks the link for nothing. -/
theorem exec_resolve_of_stale {token : Expired} {t : Station W H}
    (stale : t.endpoint.negotiation.honours token = false) :
    exec (resolve ports token) t = (.ok .stale, t) := by
  rw [resolve, exec_bind, exec_step, t.endpoint.judge_of_stale stale]
  rfl

/-- A token that costs a retry is of the epoch in which it is judged. -/
theorem epoch_of_judge_retry {token : Expired} {endpoint judged : Endpoint H} {attempt : Nat}
    (retry : endpoint.judge token = (.retry attempt, judged)) :
    token.epoch = judged.negotiation.epoch := by
  have decision : (endpoint.judge token).1 ≠ .stale := by
    rw [retry]
    exact nofun
  have honoured : endpoint.negotiation.honours token = true := by
    rw [← Bool.not_eq_false]
    exact fun stale => decision ((Control.judge_stale_iff _ _).mpr stale)
  have kept : judged.negotiation.epoch = endpoint.negotiation.epoch := by
    rw [← show (endpoint.judge token).2 = judged from congrArg Prod.snd retry]
    simp
  rw [kept]
  exact (Control.honours_iff.mp honoured).1.symm

/-- A token with which another attempt begins is of the epoch of that attempt. -/
theorem epoch_of_resume {token : Expired} {endpoint resumed : Endpoint H} {now : Nat}
    (resume : endpoint.resume token now = (true, resumed)) :
    token.epoch = resumed.negotiation.epoch := by
  have honoured : endpoint.negotiation.honours token = true := by
    rw [← Bool.not_eq_false]
    intro stale
    rw [endpoint.resume_of_stale stale] at resume
    cases resume
  have kept : resumed.negotiation.epoch = endpoint.negotiation.epoch := by
    rw [← show (endpoint.resume token now).2 = resumed from congrArg Prod.snd resume]
    simp
  rw [kept]
  exact (Control.honours_iff.mp honoured).1.symm

/-- What follows a pause that was overtaken. -/
theorem exec_resolve_of_overtaken_pause {token : Expired} {s t : Station W H} {attempt : Nat}
    {judged : Endpoint H} {delay : Nat} (retry : s.endpoint.judge token = (.retry attempt, judged))
    (pause : exec (backOff ports attempt) { s with endpoint := judged } = (.ok delay, t))
    (overtaken : Overtaken unit { s with endpoint := judged } t) :
    exec (resolve ports token) s = (.ok .stale, t) := by
  -- The token is of the epoch in which it was judged, and that one is over.
  have stale := overtaken.stale (epoch_of_judge_retry retry)
  rw [resolve, exec_bind, exec_step, retry]
  dsimp only
  rw [exec_bind_of_ok pause, exec_bind, exec_world]
  dsimp only
  rw [exec_bind, exec_step, t.endpoint.resume_of_stale stale]
  rfl

/-- The answer to a request that was overtaken is ignored. -/
theorem exec_requestUnit_of_overtaken {s t : Station W H} {answer : Except LinkError Unit}
    (request : exec (ports.requestMtu s.endpoint.settings.preferredMtu) s = (.ok answer, t))
    (overtaken : Overtaken unit s t) :
    exec (requestUnit ports s.endpoint.negotiation.epoch) s = (.ok (), t) := by
  change exec (ports.requestMtu s.endpoint.settings.preferredMtu >>= _) s = _
  rw [exec_bind_of_ok request]
  cases answer with
  | ok =>
    change (Except.ok (), { t with endpoint := t.endpoint.requested _ }) = _
    rw [t.endpoint.requested_of_other overtaken.epoch_ne]
  | error error => rfl

theorem exec_restartNegotiation_of_overtaken {s t : Station W H} {begun : Endpoint H}
    {epoch : UInt32} {answer : Except LinkError Unit}
    (restart : s.endpoint.restart (ports.now s.world) = (epoch, begun))
    (request : exec (ports.requestMtu begun.settings.preferredMtu) { s with endpoint := begun } =
      (.ok answer, t))
    (overtaken : Overtaken unit { s with endpoint := begun } t) :
    exec (restartNegotiation ports) s = (.ok (), t) := by
  -- The request goes out under the number that the start gave to its epoch.
  have number : epoch = begun.negotiation.epoch := by
    rw [← show (s.endpoint.restart _).1 = epoch from congrArg Prod.fst restart,
      ← show (s.endpoint.restart _).2 = begun from congrArg Prod.snd restart]
    rfl
  change exec (requestUnit ports (s.endpoint.restart (ports.now s.world)).1)
    { s with endpoint := (s.endpoint.restart (ports.now s.world)).2 } = _
  rw [restart]
  dsimp only
  rw [number]
  exact exec_requestUnit_of_overtaken (s := { s with endpoint := begun }) request overtaken

/-- A retry that is overtaken while it asks the link reports the attempt it began, and
leaves the negotiation as it is. -/
theorem exec_resolve_of_overtaken_request {token : Expired} {s t u : Station W H} {attempt : Nat}
    {judged resumed : Endpoint H} {delay : Nat} {answer : Except LinkError Unit}
    (retry : s.endpoint.judge token = (.retry attempt, judged))
    (pause : exec (backOff ports attempt) { s with endpoint := judged } = (.ok delay, t))
    (resume : t.endpoint.resume token (ports.now t.world) = (true, resumed))
    (request : exec (ports.requestMtu resumed.settings.preferredMtu)
      { t with endpoint := resumed } = (.ok answer, u))
    (overtaken : Overtaken unit { t with endpoint := resumed } u) :
    exec (resolve ports token) s = (.ok (.retrying attempt delay), u) := by
  -- The pause ended in time, so that only the request of the new attempt is overtaken.
  have epoch := epoch_of_resume resume
  rw [resolve, exec_bind, exec_step, retry]
  dsimp only
  rw [exec_bind_of_ok pause, exec_bind, exec_world]
  dsimp only
  rw [exec_bind, exec_step, resume]
  dsimp only
  rw [if_pos rfl, epoch, exec_bind_of_ok (exec_requestUnit_of_overtaken request overtaken)]
  rfl

/-- Work that is overtaken by a start or a stop leaves station and negotiation as it finds
them: a token that was handed out before, a resolution in its pause, and a start or a
resolution in its request. And only a start leaves idle. -/
theorem overtaken_work_changes_nothing (unit : W → UInt16) (ports : Ports W H) :
    (∀ (s t : Station W H) (now : Nat) (mtu : UInt16) (token : Expired) (polled : Endpoint H),
      s.endpoint.poll now mtu = (.expired token, polled) →
      Overtaken unit { s with endpoint := polled } t →
      exec (resolve ports token) t = (.ok .stale, t)) ∧
    (∀ (s t : Station W H) (token : Expired) (attempt delay : Nat) (judged : Endpoint H),
      s.endpoint.judge token = (.retry attempt, judged) →
      exec (backOff ports attempt) { s with endpoint := judged } = (.ok delay, t) →
      Overtaken unit { s with endpoint := judged } t →
      exec (resolve ports token) s = (.ok .stale, t)) ∧
    (∀ (s t : Station W H) (epoch : UInt32) (begun : Endpoint H) (answer : Except LinkError Unit),
      s.endpoint.restart (ports.now s.world) = (epoch, begun) →
      exec (ports.requestMtu begun.settings.preferredMtu) { s with endpoint := begun } =
        (.ok answer, t) →
      Overtaken unit { s with endpoint := begun } t →
      exec (restartNegotiation ports) s = (.ok (), t)) ∧
    (∀ (s t u : Station W H) (token : Expired) (attempt delay : Nat) (judged resumed : Endpoint H)
        (answer : Except LinkError Unit),
      s.endpoint.judge token = (.retry attempt, judged) →
      exec (backOff ports attempt) { s with endpoint := judged } = (.ok delay, t) →
      t.endpoint.resume token (ports.now t.world) = (true, resumed) →
      exec (ports.requestMtu resumed.settings.preferredMtu) { t with endpoint := resumed } =
        (.ok answer, u) →
      Overtaken unit { t with endpoint := resumed } u →
      exec (resolve ports token) s = (.ok (.retrying attempt delay), u)) ∧
    (∀ a b : Scene W H, Interleaved unit a b → a.control.state = .idle →
      b.chronicle.starts = a.chronicle.starts → b.control.state = .idle) := by
  refine ⟨?_, ?_, ?_, ?_, ?_⟩
  · intro s t now mtu token polled expired overtaken
    have epoch : token.epoch = s.endpoint.negotiation.epoch :=
      Control.epoch_of_poll_expired (congrArg Prod.fst expired)
    have kept : polled.negotiation.epoch = s.endpoint.negotiation.epoch := by
      rw [← show (s.endpoint.poll now mtu).2 = polled from congrArg Prod.snd expired]
      simp
    exact exec_resolve_of_stale (overtaken.stale (epoch.trans kept.symm))
  · intro s t token attempt delay judged retry pause overtaken
    exact exec_resolve_of_overtaken_pause retry pause overtaken
  · intro s t epoch begun answer restart request overtaken
    exact exec_restartNegotiation_of_overtaken restart request overtaken
  · intro s t u token attempt delay judged resumed answer retry pause resume request overtaken
    exact exec_resolve_of_overtaken_request retry pause resume request overtaken
  · intro a b run idle unstarted
    rcases run.idle idle with ⟨-, still⟩ | started
    · exact still
    · omega

/-- Ports of a device whose peer goes and comes back during every pause. -/
def reconnectingPorts : Ports Nat Empty :=
  { Bench.clockPorts with
    sleep := fun _ => do
      modifyEndpoint (·.stop)
      modifyEndpoint fun endpoint => (endpoint.restart 7).2 }

/-- The pause of a retry is overtaken by a disconnect and a connect: the attempt of the new
connection stands. -/
theorem overtaken_work_changes_nothing_in_pause :
    let expired : Endpoint Empty :=
      { Endpoint.fresh {} with negotiation := ⟨.timeout, 0, 1⟩ }
    ∃ t, exec (resolve reconnectingPorts ⟨1⟩) ⟨expired, 5001⟩ = (.ok .stale, t) ∧
      t.endpoint.negotiation = ⟨.initiating 7, 0, 3⟩ := by
  intro expired
  let judged : Endpoint Empty := { expired with negotiation := ⟨.timeout, 1, 1⟩ }
  have reconnect : Interleaved reconnectingPorts.mtu ⟨⟨judged, 5001⟩, {}⟩ _ :=
    (Relation.ReflTransGen.single (.stop _ _)).tail (.restart _ _ 7)
  have overtaken : Overtaken reconnectingPorts.mtu ⟨judged, 5001⟩ _ :=
    ⟨_, _, reconnect, by decide, by decide⟩
  obtain ⟨-, pause, -⟩ := overtaken_work_changes_nothing reconnectingPorts.mtu reconnectingPorts
  exact ⟨_, pause ⟨expired, 5001⟩ _ ⟨1⟩ 1 100 judged rfl rfl overtaken, rfl⟩

end CommandLink
