import CommandLink.Bench.Inbound
import CommandLink.Endpoint.Processing
import CommandLink.Proofs.Inbound
import CommandLink.Proofs.Running

/-!
# Waiting for a command

The worker looks at the queue, and naps when it is empty. Others work in the naps, and the queue
is looked at only between them. So a wait is known by the stations at which it looks: it ends at
the first of them where a command is queued, and otherwise at the first that is not in front of
the deadline.

At each station the queue is looked at before the clock. So what is queued in the nap that takes
the wait beyond its deadline is still found.
-/

namespace CommandLink

open Act

variable {W H : Type}

/-- Time passes while somebody sleeps, as much as is slept. Others may do anything meanwhile. -/
def Ports.Paced (ports : Ports W H) : Prop :=
  ∀ time s, Returns (ports.sleep time) s fun _ t =>
    ports.now t.world = ports.now s.world + time

/-- The station behind so many naps. -/
def Station.napped (ports : Ports W H) (s : Station W H) : Nat → Station W H
  | 0 => s
  | naps + 1 => (exec (ports.sleep nap) s).2.napped ports naps

/-- Nothing is queued. -/
def Station.Idle (s : Station W H) : Prop := s.endpoint.commands.items = []

/-- The queue of a station is looked at, and its oldest command is taken off. -/
inductive Looked (s : Station W H) : Option Command → Station W H → Prop where
  | found {command} {commands : Bounded Command commandDepth}
    (oldest : s.endpoint.commands.items = command :: commands.items) :
    Looked s (some command) { s with endpoint := { s.endpoint with commands } }
  | idle (idle : s.Idle) : Looked s none s

/-- A wait with so many naps at most: it ends at the first look that finds a command, or else at
the last one. -/
structure Awaited (ports : Ports W H) (s : Station W H) (naps : Nat) (found : Option Command)
    (t : Station W H) (last : Nat) : Prop where
  within : last ≤ naps
  early : ∀ before < last, (s.napped ports before).Idle
  looked : Looked (s.napped ports last) found t
  whole : found = none → last = naps

namespace Awaited

variable {ports : Ports W H} {s t : Station W H} {naps last : Nat} {found : Option Command}

/-- Nothing is found just when nothing is queued wherever the wait could look. -/
theorem found_eq_none_iff (awaited : Awaited ports s naps found t last) :
    found = none ↔ ∀ place ≤ naps, (s.napped ports place).Idle := by
  constructor
  · intro none place within
    have whole := awaited.whole none
    have looked := awaited.looked
    subst none whole
    cases looked with
    | idle idle =>
      rcases Nat.lt_or_eq_of_le within with before | rfl
      · exact awaited.early place before
      · exact idle
  · intro idle
    cases awaited.looked with
    | found oldest => rw [idle last awaited.within] at oldest; cases oldest
    | idle => rfl

/-- If nothing is queued before, the wait gets as far as it can. -/
theorem last_eq (awaited : Awaited ports s naps found t last)
    (early : ∀ before < naps, (s.napped ports before).Idle) : last = naps := by
  cases awaited.looked with
  | found oldest =>
    apply Nat.le_antisymm awaited.within
    apply Nat.not_lt.mp
    intro before
    rw [early last before] at oldest
    cases oldest
  | idle => exact awaited.whole rfl

/-- What is queued at the last look and not before is found. -/
theorem found_of_last (awaited : Awaited ports s naps found t last)
    (early : ∀ before < naps, (s.napped ports before).Idle) {command : Command}
    {commands : List Command}
    (oldest : (s.napped ports naps).endpoint.commands.items = command :: commands) :
    found = some command := by
  rw [← awaited.last_eq early] at oldest
  cases awaited.looked with
  | found there =>
    obtain ⟨rfl, -⟩ := List.cons.inj (there.symm.trans oldest)
    rfl
  | idle idle =>
    rw [idle] at oldest
    cases oldest

end Awaited

/-! ## The loop -/

theorem takeCommand_looked (s : Station W H) : Returns takeCommand s (Looked s) := by
  cases taken : s.endpoint.commands.take? with
  | none =>
    have idle := (Bounded.take?_eq_none_iff _).mp taken
    refine ⟨none, s, ?_, .idle idle⟩
    simp only [takeCommand, exec_step, taken]
  | some pair =>
    obtain ⟨command, commands⟩ := pair
    refine ⟨some command, _, ?_, .found (Bounded.items_take? _ _ _ taken)⟩
    simp only [takeCommand, exec_step, taken]

section Loop

variable {ports : Ports W H} (paced : ports.Paced)

include paced

/-- Nobody but the naps moves the clock. -/
theorem now_napped (s : Station W H) (naps : Nat) :
    ports.now (s.napped ports naps).world = ports.now s.world + nap * naps := by
  induction naps generalizing s with
  | zero => rfl
  | succ naps ih =>
    obtain ⟨_, t, slept, later⟩ := paced nap s
    rw [Station.napped, slept, ih, later, Nat.mul_succ]
    omega

/-- By induction on the naps up to the deadline. The loop may be allowed any number of rounds
above that. -/
theorem awaitUntil_awaited {deadline naps rounds : Nat} {s : Station W H} (enough : naps < rounds)
    (reached : deadline ≤ ports.now s.world + nap * naps)
    (ahead : ports.now s.world + nap * naps < deadline + nap) :
    Returns (awaitUntil ports deadline rounds) s fun found t =>
      ∃ last, Awaited ports s naps found t last := by
  induction naps generalizing s rounds with
  | zero =>
    obtain ⟨rounds, rfl⟩ := Nat.exists_eq_succ_of_ne_zero (Nat.ne_of_gt enough)
    apply (takeCommand_looked s).bind
    intro found t looked
    cases looked with
    | found oldest => exact returns_pure ⟨0, Nat.le_refl 0, nofun, .found oldest, nofun⟩
    | idle idle =>
      apply returns_world
      rw [if_pos (show deadline ≤ ports.now s.world from reached)]
      exact returns_pure ⟨0, Nat.le_refl 0, nofun, .idle idle, fun _ => rfl⟩
  | succ naps ih =>
    obtain ⟨rounds, rfl⟩ := Nat.exists_eq_succ_of_ne_zero (Nat.ne_of_gt (Nat.zero_lt_of_lt enough))
    apply (takeCommand_looked s).bind
    intro found t looked
    cases looked with
    | found oldest => exact returns_pure ⟨0, Nat.zero_le _, nofun, .found oldest, nofun⟩
    | idle idle =>
      rw [Nat.mul_succ] at reached ahead
      apply returns_world
      rw [if_neg (by omega)]
      obtain ⟨_, u, slept, later⟩ := paced nap s
      have onward : (exec (ports.sleep nap) s).2 = u := by rw [slept]
      have rest := @ih rounds u (Nat.lt_of_succ_lt_succ enough) (by omega) (by omega)
      apply (show Returns (ports.sleep nap) s fun _ v => v = u from ⟨_, u, slept, rfl⟩).bind
      rintro _ _ rfl
      apply rest.mono
      rintro found t ⟨last, awaited⟩
      -- Every look of the rest lies one nap further on.
      refine ⟨last + 1, Nat.succ_le_succ awaited.within, ?_, ?_, ?_⟩
      · intro before earlier
        cases before with
        | zero => exact idle
        | succ before =>
          rw [Station.napped, onward]
          exact awaited.early before (Nat.lt_of_succ_lt_succ earlier)
      · rw [Station.napped, onward]
        exact awaited.looked
      · exact fun none => congrArg Nat.succ (awaited.whole none)

end Loop

/-! ## The theorem -/

/-- The endpoint finds room for a command when nothing is queued. -/
theorem Endpoint.dispatch_of_idle {endpoint : Endpoint H} (idle : endpoint.commands.items = [])
    (command : Command) : (endpoint.dispatch command).2.commands.items = [command] := by
  have queued := congrArg Inbound.commands (inbound_dispatch command endpoint)
  have room : endpoint.inbound.commands.length < commandDepth := by
    change endpoint.commands.items.length < commandDepth
    rw [idle]
    decide
  rw [Inbound.dispatch_of_room room] at queued
  change (endpoint.dispatch command).2.commands.items =
    endpoint.commands.items ++ [command] at queued
  rw [queued, idle, List.nil_append]

/-- Whatever is queued, however long the wait is, and whatever others do in the naps: the wait
ends, at the first look that finds a command, and the oldest one is taken off. It ends without a
command only if nothing is queued at any look, and then behind as many naps as it takes to reach
the deadline, the last of which ends less than one nap behind it. A command that is queued in this
nap is found. So many rounds are enough for the loop, and more of them make no difference. -/
theorem command_awaited_until_deadline {ports : Ports W H} (paced : ports.Paced) (wait : Nat)
    (s : Station W H) :
    let naps := (wait + nap - 1) / nap
    (wait ≤ nap * naps ∧ nap * naps < wait + nap) ∧
    (∀ rounds, naps < rounds →
      Returns (awaitUntil ports (ports.now s.world + wait) rounds) s fun found t =>
        ∃ last, Awaited ports s naps found t last) ∧
    Returns (awaitCommand ports wait) s fun found t => ∃ last,
      Awaited ports s naps found t last ∧
      ports.now t.world = ports.now s.world + nap * last ∧
      (found = none ↔ ∀ place ≤ naps, (s.napped ports place).Idle) ∧
      (found = none → ports.now t.world = ports.now s.world + nap * naps) ∧
      ∀ (endpoint : Endpoint H) (command : Command), endpoint.commands.items = [] →
        (s.napped ports naps).endpoint = (endpoint.dispatch command).2 →
        (∀ before < naps, (s.napped ports before).Idle) → found = some command ∧ last = naps := by
  intro naps
  have bounds : wait ≤ nap * naps ∧ nap * naps < wait + nap := by
    have rounded := Nat.div_add_mod (wait + nap - 1) nap
    have left := Nat.mod_lt (wait + nap - 1) (show nap > 0 by decide)
    change nap * naps + _ = _ at rounded
    omega
  have ends (rounds : Nat) (enough : naps < rounds) :
      Returns (awaitUntil ports (ports.now s.world + wait) rounds) s fun found t =>
        ∃ last, Awaited ports s naps found t last :=
    awaitUntil_awaited paced enough (by omega) (by omega)
  refine ⟨bounds, ends, ?_⟩
  apply returns_world
  apply (ends (naps + 1) (Nat.lt_succ_self naps)).mono
  rintro found t ⟨last, awaited⟩
  have clock : ports.now t.world = ports.now s.world + nap * last := by
    have same : t.world = (s.napped ports last).world := by
      cases awaited.looked <;> rfl
    rw [same, now_napped paced]
  refine ⟨last, awaited, clock, awaited.found_eq_none_iff, ?_, ?_⟩
  · intro none
    rw [clock, awaited.whole none]
  · intro endpoint command idle late early
    have queued := endpoint.dispatch_of_idle idle command
    rw [← late] at queued
    exact ⟨awaited.found_of_last early queued, awaited.last_eq early⟩

/-- Ports on a device where a command is queued in the nap that begins at 1010. -/
def latePorts : Ports Nat Empty :=
  { Bench.clockPorts with
    sleep := fun time => do
      let clock ← world
      modifyWorld (· + time)
      modifyEndpoint fun endpoint =>
        if clock = 1010 then (endpoint.dispatch ⟨[49]⟩).2 else endpoint }

theorem latePorts_paced : latePorts.Paced := fun _ _ => ⟨(), _, rfl, rfl⟩

/-- A wait of 12 that begins at 1000 looks four times, and the command that is queued in front of
the last look is found there, at 1015. A wait of 10 has ended without it by then. -/
theorem command_awaited_until_deadline_in_last_nap :
    let s : Station Nat Empty := ⟨.fresh {}, 1000⟩
    latePorts.Paced ∧ (∀ before < 3, (s.napped latePorts before).Idle) ∧
      Returns (awaitCommand latePorts 12) s (fun found t =>
        found = some ⟨[49]⟩ ∧ latePorts.now t.world = 1015) ∧
      Returns (awaitCommand latePorts 10) s fun found t =>
        found = none ∧ latePorts.now t.world = 1010 := by
  intro s
  have early : ∀ before < 3, (s.napped latePorts before).Idle := by
    intro before short
    have idle : ∀ place : Fin 3, (s.napped latePorts place).endpoint.commands.items = [] := by
      decide +kernel
    exact idle ⟨before, short⟩
  refine ⟨latePorts_paced, early, ?_, ?_⟩
  · obtain ⟨-, -, ends⟩ := command_awaited_until_deadline latePorts_paced 12 s
    apply ends.mono
    rintro found t ⟨last, awaited, clock, -, -, late⟩
    -- The station in front of the last nap is the one where the command is queued.
    obtain ⟨queued, whole⟩ :=
      late (s.napped latePorts 2).endpoint ⟨[49]⟩ (early 2 (by decide)) rfl early
    rw [whole] at clock
    exact ⟨queued, clock⟩
  · obtain ⟨-, -, ends⟩ := command_awaited_until_deadline latePorts_paced 10 s
    apply ends.mono
    rintro found t ⟨last, awaited, clock, idle, elapsed, -⟩
    have nothing : found = none := idle.mpr fun place within =>
      early place (Nat.lt_succ_of_le within)
    exact ⟨nothing, elapsed nothing⟩

end CommandLink
