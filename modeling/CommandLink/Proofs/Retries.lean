import CommandLink.Bench.Negotiation
import CommandLink.Proofs.Interleaving

/-!
# What a retry is charged for

A retry is spent when a token is honoured, and a token is honoured whenever an attempt of
its epoch expired and no other one was begun yet. While one who resolves it pauses, that is
still so, and a further check hands out the same token again. As long as nobody resolves it
then, each expired attempt costs one retry, and the negotiation fails only when all its
attempts were made and expired. An attempt is made with one request to the link, as
`Proofs.Requests` shows of the procedures.
-/

namespace CommandLink.Negotiation

variable {W H : Type} {unit : W → UInt16}

/-- What the attempts of the epoch say about the retries. -/
structure Charged (maxRetries : Nat) (control : Control) (c : Chronicle) : Prop where
  retries : control.retries ≤ c.timeouts
  /-- All attempts before the one under way expired. -/
  underway : control.state.negotiating = true → c.requests = c.timeouts + 1
  /-- The last attempt expired too, and is paid for only if someone pauses for it. -/
  expired : control.state = .timeout → c.requests = c.timeouts ∧
    (control.retries < c.timeouts ∨ ⟨control.epoch⟩ ∈ c.pausing)
  given_up : ∀ fallback, control.state = .failed fallback →
    c.requests = c.timeouts ∧ maxRetries < c.timeouts

namespace Charged

variable {maxRetries : Nat} {control : Control} {c : Chronicle}

theorem started (now : Nat) : Charged maxRetries (control.restart now) c.started where
  retries := Nat.le_refl 0
  underway _ := rfl
  expired := nofun
  given_up := nofun

theorem stopped : Charged maxRetries control.stop c.stopped where
  retries := Nat.le_refl 0
  underway := nofun
  expired := nofun
  given_up := nofun

/-- A check does not touch the retries; when it finds the attempt expired, one more may
be spent. -/
theorem checked (charged : Charged maxRetries control c) (now timeout : Nat) (mtu : UInt16) :
    Charged maxRetries (control.poll now timeout mtu).2
      (c.checked mtu control.state (control.poll now timeout mtu).2.state) := by
  rcases control.poll_cases now timeout mtu with ⟨-, -, completed⟩ | ⟨negotiating, expired⟩ | same
  · rw [completed]
    refine ⟨?_, ?_, ?_, ?_⟩
    · simpa [Chronicle.checked] using charged.retries
    · simp [LinkState.negotiating]
    · simp
    · simp
  · -- The state was another one until now, so this is one more timeout.
    have entered : control.state ≠ .timeout := by
      intro timeout
      simp [timeout, LinkState.negotiating] at negotiating
    have attempts := charged.underway negotiating
    have retries := charged.retries
    rw [expired]
    refine ⟨?_, ?_, ?_, ?_⟩
    · simp [Chronicle.checked, entered]
      omega
    · simp [LinkState.negotiating]
    · -- The retries stay below the timeouts, since this one is not paid for.
      simp [Chronicle.checked, entered]
      omega
    · simp
  · have unentered : ¬(control.state ≠ .timeout ∧ control.state = .timeout) :=
      fun both => both.1 both.2
    rw [same]
    simp only [Chronicle.checked, if_neg unentered]
    exact ⟨charged.retries, charged.underway, charged.expired, charged.given_up⟩

theorem requested (charged : Charged maxRetries control c) (epoch : UInt32) :
    Charged maxRetries (control.requested epoch) c := by
  rcases control.requested_cases epoch with ⟨since, begun, moved⟩ | same
  · have attempts := charged.underway (by rw [begun]; rfl)
    rw [moved]
    exact ⟨charged.retries, fun _ => attempts, nofun, nofun⟩
  · rw [same]
    exact charged

/-- A token that is honoured while nobody pauses for it was not charged yet. -/
theorem judged (charged : Charged maxRetries control c) (token : Expired) (fallback : UInt16)
    (apart : control.honours token = true → token ∉ c.pausing) :
    Charged maxRetries (control.judge token maxRetries fallback).2
      (c.judged token (control.judge token maxRetries fallback).1) := by
  by_cases honoured : control.honours token = true
  · obtain ⟨epoch, timeout⟩ := Control.honours_iff.mp honoured
    have same : (⟨control.epoch⟩ : Expired) = token := by rw [epoch]
    obtain ⟨attempts, uncharged⟩ := charged.expired timeout
    rw [same] at uncharged
    have unpaid : control.retries < c.timeouts := uncharged.resolve_right (apart honoured)
    rw [Control.judge_of_honoured honoured]
    by_cases spent : maxRetries ≤ control.retries
    · -- All retries are spent, and this timeout is one more than they paid for.
      rw [if_pos spent]
      exact ⟨charged.retries, nofun, nofun, fun _ _ => ⟨attempts, Nat.lt_of_le_of_lt spent unpaid⟩⟩
    · rw [if_neg spent]
      refine ⟨unpaid, ?_, fun _ => ⟨attempts, .inr ?_⟩, ?_⟩
      · intro negotiating
        simp [timeout, LinkState.negotiating] at negotiating
      · -- From here on it is paid for, and the one who resolves it pauses.
        rw [← same]
        exact List.mem_cons_self
      · intro fallback failed
        simp [timeout] at failed
  · rw [Control.judge_of_stale (Bool.eq_false_iff.mpr honoured)]
    exact charged

/-- The attempt that begins behind a pause makes one more request. -/
theorem resumed (charged : Charged maxRetries control c) {token : Expired}
    (honoured : control.honours token = true) (now : Nat) :
    Charged maxRetries { control with state := .initiating now } (c.resumed token true) where
  retries := charged.retries
  underway _ := by
    have attempts := (charged.expired (Control.honours_iff.mp honoured).2).1
    simp [Chronicle.resumed, attempts]
  expired := nofun
  given_up := nofun

/-- A pause that ends in vain is no pause for the attempt that expired now. -/
theorem overtaken (charged : Charged maxRetries control c) {token : Expired}
    (stale : control.honours token = false) :
    Charged maxRetries control (c.resumed token false) where
  retries := charged.retries
  underway := charged.underway
  expired timeout := by
    obtain ⟨attempts, paid⟩ := charged.expired timeout
    -- Were it the token of this epoch, it would be honoured.
    have other : (⟨control.epoch⟩ : Expired) ≠ token := by
      rintro rfl
      exact Bool.false_ne_true (stale.symm.trans (Control.honours_iff.mpr ⟨rfl, timeout⟩))
    refine ⟨attempts, paid.imp_right fun waiting => ?_⟩
    exact (List.mem_erase_of_ne other).mpr waiting
  given_up := charged.given_up

end Charged

/-- What is known of a scene: as long as pauses do not crowd, the retries are charged. -/
def Scene.Charged (scene : Scene W H) : Prop :=
  scene.chronicle.crowded = false →
    Negotiation.Charged scene.station.endpoint.settings.maxRetries.toNat scene.control
      scene.chronicle

theorem charged_fresh (settings : Settings) (world : W) :
    (Scene.fresh settings world : Scene W H).Charged := by
  intro
  exact ⟨Nat.le_refl 0, nofun, nofun, nofun⟩

/-- A decision about a token leaves the pauses uncrowded only if nobody paused for it. -/
theorem Chronicle.apart_of_judged {c : Chronicle} {token : Expired} {decision : Control.Decision}
    (uncrowded : (c.judged token decision).crowded = false) :
    c.crowded = false ∧ (decision ≠ .stale → token ∉ c.pausing) := by
  cases decision with
  | stale => exact ⟨uncrowded, fun honoured => absurd rfl honoured⟩
  | failed => simpa [Chronicle.judged] using uncrowded
  | retry attempt => simpa [Chronicle.judged] using uncrowded

theorem Scene.Charged.move {a b : Scene W H} (charged : a.Charged) (move : Move unit a b) :
    b.Charged := by
  -- Pauses that were crowded once stay so until the next start or stop.
  intro uncrowded
  cases move with
  | apart c negotiation settings =>
    simp only [Scene.control, negotiation, settings]
    exact charged uncrowded
  | restart s c now => exact .started now
  | stop s c => exact .stopped
  | poll s c now =>
    have checked := (charged uncrowded).checked now s.endpoint.settings.attemptTimeout.toNat
      (unit s.world)
    simpa [Scene.control, Endpoint.state] using checked
  | judge s c token =>
    obtain ⟨before, apart⟩ := Chronicle.apart_of_judged uncrowded
    have judged := (charged before).judged token s.endpoint.settings.fallbackUnit
      fun honoured => apart fun void =>
        Bool.false_ne_true (((Control.judge_stale_iff _ _).mp void).symm.trans honoured)
    simpa [Scene.control] using judged
  | resume s c token _ now =>
    by_cases honoured : s.endpoint.negotiation.honours token = true
    · obtain ⟨again, attempt⟩ := s.endpoint.resume_of_honoured honoured now
      have resumed := (charged uncrowded).resumed honoured now
      simpa [Scene.control, again, attempt] using resumed
    · have stale := Bool.eq_false_iff.mpr honoured
      have overtaken := (charged uncrowded).overtaken stale
      simpa [Scene.control, Endpoint.resume_of_stale _ stale] using overtaken
  | requested s c epoch => exact (charged uncrowded).requested epoch

theorem Scene.Charged.run {a b : Scene W H} (charged : a.Charged) (run : Interleaved unit a b) :
    b.Charged := by
  induction run with
  | refl => exact charged
  | tail _ move ih => exact ih.move move

/-- As long as no token is honoured while the same one pauses, whatever else is interleaved:
an epoch never spent more retries than it saw attempts expire, and it failed only after all
its attempts were requested and expired. -/
theorem retries_within_timeouts (settings : Settings) (world : W) {scene : Scene W H}
    (run : Interleaved unit (.fresh settings world) scene)
    (uncrowded : scene.chronicle.crowded = false) :
    scene.control.retries ≤ scene.chronicle.timeouts ∧
      ∀ fallback, scene.control.state = .failed fallback →
        settings.maxRetries.toNat + 1 ≤ scene.chronicle.requests ∧
          scene.chronicle.timeouts = scene.chronicle.requests := by
  have charged := (charged_fresh settings world).run run uncrowded
  have kept : scene.station.endpoint.settings = settings := run.settings
  rw [kept] at charged
  refine ⟨charged.retries, fun fallback failed => ?_⟩
  obtain ⟨attempts, exhausted⟩ := charged.given_up fallback failed
  omega

/-- Two attempts that expire one after the other, with a pause between them. -/
theorem retries_within_timeouts_of_two_attempts :
    ∃ scene : Scene UInt16 Empty,
      Interleaved id (.fresh { maxRetries := 1 } 23) scene ∧ scene.chronicle.crowded = false ∧
        scene.control.retries ≤ scene.chronicle.timeouts ∧
        scene.control.state = .failed 185 ∧ 2 ≤ scene.chronicle.requests ∧
        scene.chronicle.timeouts = scene.chronicle.requests := by
  have first : Interleaved id (.fresh { maxRetries := 1 } 23 : Scene UInt16 Empty) _ :=
    (Relation.ReflTransGen.single (.restart _ _ 0)).tail (.poll _ _ 5001)
  have pause := first.tail (.judge _ _ ⟨1⟩)
  have second := (pause.tail (.resume _ _ ⟨1⟩ (by decide) 5101)).tail (.poll _ _ 10102)
  have run := second.tail (.judge _ _ ⟨1⟩)
  obtain ⟨charged, exhausted⟩ := retries_within_timeouts _ _ run rfl
  obtain ⟨requests, expired⟩ := exhausted 185 rfl
  exact ⟨_, run, rfl, charged, rfl, requests, expired⟩

open Bench in
/-- A check in the middle of a pause hands out the token again. The one attempt of this
epoch that was requested and expired is charged a second time, and the negotiation fails. -/
theorem attempt_charged_twice_in_pause :
    (negotiationBench { maxRetries := 1 } 0 [
        .mk .restart none none,
        .mk (.advance 5001) none none,
        .mk (.poll 23 "first") none none,
        .mk (.resolve "first")
          (some [.mk (.poll 23 "second") none none, .mk (.resolve "second") none none])
          none]).map (fun report => (report.state, report.requests, report.inner)) = [
      (.inProgress 0, [517], []),
      (.inProgress 0, [], []),
      (.timeout, [], []),
      (.failed 185, [], [.verdict (.expired ⟨1⟩), .resolution (.failed 185)])] := by
  decide +kernel

end CommandLink.Negotiation
