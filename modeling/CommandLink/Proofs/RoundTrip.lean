import CommandLink.Bench.Inbound
import CommandLink.Endpoint.Lifecycle
import CommandLink.Proofs.Inbound
import CommandLink.Proofs.Running
import Mathlib.Data.List.Chain

/-!
# What becomes of a command

A command arrives as a start marker, fragments without a marker among them, and
an end marker, with no silence in between that is too long. Then what comes of
it depends on its bytes only, not on how they are cut and not on what came
before: it is queued, or it is too large and reported once, or it is empty and
ignored.

While the fragments arrive, either all bytes so far fit and are held, or they
do not and the rest is being rejected. This is `Gathering`, and every fragment
keeps it.
-/

namespace CommandLink

namespace Inbound

/-- `payload` has arrived behind a start marker, the last of it at `time`. -/
structure Gathering (start : Inbound) (payload : Bytes) (time : Nat) (inbound : Inbound) :
    Prop where
  wired : inbound.Wired
  lastFragment : inbound.reassembly.lastFragment = some time
  /-- All of it is held, or it has outgrown the buffer and was reported. -/
  progress :
    payload.length < start.settings.reassemblyCapacity.toNat ∧
        inbound.reassembly.rejecting = false ∧ inbound.reassembly.held = payload ∧
        inbound = { start with reassembly := inbound.reassembly } ∨
      start.settings.reassemblyCapacity.toNat ≤ payload.length ∧
        inbound.reassembly.rejecting = true ∧ inbound.reassembly.cursor = 0 ∧
        inbound = { start.overflow with reassembly := inbound.reassembly }

/-- What the end marker makes of a payload. -/
def conclude (refuses : Nat → Bool) (payload : Bytes) (start : Inbound) : Inbound :=
  if start.settings.reassemblyCapacity.toNat ≤ payload.length then start.overflow
  else if payload = [] then start
  else if refuses (payload.length + 1) then start.report .noMemory
  else start.dispatch ⟨payload⟩

variable {start inbound : Inbound} {payload : Bytes} {time : Nat}

theorem overflow_settings (inbound : Inbound) : inbound.overflow.settings = inbound.settings := by
  simp only [overflow, report]
  split <;> rfl

theorem overflow_with_reassembly (inbound : Inbound) (reassembly : Reassembly) :
    { inbound with reassembly }.overflow = { inbound.overflow with reassembly } := by
  simp only [overflow, report]
  split <;> rfl

/-- Without too long a silence, a fragment is taken up by the state as it is. -/
theorem receive_of_awake {now : Nat} (awake : inbound.reassembly.idle now = false)
    (refuses : Nat → Bool) (fragment : Bytes) :
    inbound.receive refuses fragment now =
      let accepted := { inbound.reassembly with lastFragment := some now }.accept refuses fragment
      { inbound with reassembly := accepted.2 }.settle accepted.1 := by
  simp only [receive, Reassembly.push, Reassembly.expire, awake, Bool.false_eq_true, if_false]

theorem conclude_of_complete {refuses : Nat → Bool}
    (fits : payload.length < start.settings.reassemblyCapacity.toNat)
    (some : 1 ≤ payload.length) (granted : refuses (payload.length + 1) = false) :
    start.conclude refuses payload = start.dispatch ⟨payload⟩ := by
  have nonempty : payload ≠ [] := List.length_pos_iff.mp some
  simp [conclude, Nat.not_le.mpr fits, nonempty, granted]

theorem conclude_of_empty {refuses : Nat → Bool}
    (roomy : 0 < start.settings.reassemblyCapacity.toNat) (none : payload.length = 0) :
    start.conclude refuses payload = start := by
  have empty : payload = [] := List.length_eq_zero_iff.mp none
  subst empty
  simp [conclude, Nat.ne_of_gt roomy]

theorem conclude_of_outgrown {refuses : Nat → Bool}
    (outgrown : start.settings.reassemblyCapacity.toNat ≤ payload.length) :
    start.conclude refuses payload = start.overflow := if_pos outgrown

namespace Gathering

theorem settings (gathering : Gathering start payload time inbound) :
    inbound.settings = start.settings := by
  rcases gathering.progress with ⟨_, _, _, same⟩ | ⟨_, _, _, same⟩
  · rw [same]
  · rw [same]
    exact overflow_settings start

theorem awake (gathering : Gathering start payload time inbound) {now : Nat}
    (prompt : now - time ≤ start.settings.reassemblyIdle.toNat) :
    inbound.reassembly.idle now = false := by
  rw [← gathering.settings, ← gathering.wired.idleTimeout] at prompt
  simp only [Reassembly.idle, gathering.lastFragment, decide_eq_false_iff_not]
  omega

/-- Behind payload that fits, more is appended, unless it is too much. -/
theorem fragment_of_held (gathering : Gathering start payload time inbound) {now : Nat}
    (prompt : now - time ≤ start.settings.reassemblyIdle.toNat) {more : Bytes}
    (unmarked : Marker.classify more = none) (refuses : Nat → Bool)
    (calm : inbound.reassembly.rejecting = false) (held : inbound.reassembly.held = payload)
    (same : inbound = { start with reassembly := inbound.reassembly }) :
    Gathering start (payload ++ more) now (inbound.receive refuses more now) := by
  have wired := gathering.wired.receive refuses more now
  rw [receive_of_awake (gathering.awake prompt)] at wired ⊢
  obtain ⟨state, timed⟩ : ∃ state, state = { inbound.reassembly with lastFragment := some now } :=
    ⟨_, rfl⟩
  rw [← timed] at wired ⊢
  have sound : state.Sound := timed ▸ gathering.wired.sound.transfer rfl rfl rfl
  have holds : state.held = payload := by rw [← held, timed]; rfl
  have length : state.length = payload.length := by rw [← holds, sound.length_held]
  have quiet : state.rejecting = false := by rw [timed]; exact calm
  have limit : state.capacity = start.settings.reassemblyCapacity.toNat := by
    rw [timed, ← gathering.settings]
    exact gathering.wired.capacity
  rw [Reassembly.accept_payload unmarked quiet] at wired ⊢
  by_cases outgrown : state.capacity ≤ state.length + more.length
  · -- This fragment is the one that is too much, and the overflow is reported now.
    rw [Reassembly.append_of_full outgrown] at wired ⊢
    refine ⟨wired, ?_, Or.inr ⟨?_, ?_, ?_, ?_⟩⟩
    · rw [settle_reassembly, timed]
    · rw [← limit, List.length_append, ← length]
      exact outgrown
    · rw [settle_reassembly]
    · rw [settle_reassembly]
    · rw [settle_reassembly, settle, same]
      exact overflow_with_reassembly start _
  · have room : state.length + more.length < state.capacity := Nat.not_le.mp outgrown
    have appended := Reassembly.held_append_of_room sound room
    rw [Reassembly.append_of_room room] at wired appended ⊢
    refine ⟨wired, ?_, Or.inl ⟨?_, quiet, appended.trans (by rw [holds]), ?_⟩⟩
    · simp only [settle, timed]
    · rw [← limit, List.length_append, ← length]
      exact room
    · simp only [settle]
      rw [same]

/-- Behind too much payload, more is dropped without another report. -/
theorem fragment_of_outgrown (gathering : Gathering start payload time inbound) {now : Nat}
    (prompt : now - time ≤ start.settings.reassemblyIdle.toNat) {more : Bytes}
    (unmarked : Marker.classify more = none) (refuses : Nat → Bool)
    (full : start.settings.reassemblyCapacity.toNat ≤ payload.length)
    (rejecting : inbound.reassembly.rejecting = true) (none : inbound.reassembly.cursor = 0)
    (same : inbound = { start.overflow with reassembly := inbound.reassembly }) :
    Gathering start (payload ++ more) now (inbound.receive refuses more now) := by
  have wired := gathering.wired.receive refuses more now
  rw [receive_of_awake (gathering.awake prompt)] at wired ⊢
  have closed :
      { inbound.reassembly with lastFragment := some now }.rejecting = true := rejecting
  rw [Reassembly.accept_payload_of_rejecting unmarked closed] at wired ⊢
  refine ⟨wired, ?_, Or.inr ⟨?_, closed, ?_, ?_⟩⟩
  · simp only [settle]
  · rw [List.length_append]
    omega
  · simp only [settle, none]
  · simp only [settle]
    rw [same]

theorem fragment (gathering : Gathering start payload time inbound) {now : Nat}
    (prompt : now - time ≤ start.settings.reassemblyIdle.toNat) {more : Bytes}
    (unmarked : Marker.classify more = none) (refuses : Nat → Bool) :
    Gathering start (payload ++ more) now (inbound.receive refuses more now) := by
  rcases gathering.progress with ⟨-, calm, held, same⟩ | ⟨full, rejecting, none, same⟩
  · exact gathering.fragment_of_held prompt unmarked refuses calm held same
  · exact gathering.fragment_of_outgrown prompt unmarked refuses full rejecting none same

/-- The end marker settles what becomes of the payload, and leaves nothing behind. -/
theorem finish (gathering : Gathering start payload time inbound) {now : Nat}
    (prompt : now - time ≤ start.settings.reassemblyIdle.toNat) (refuses : Nat → Bool) :
    ∃ reassembly : Reassembly,
      inbound.receive refuses endMarker now = { start.conclude refuses payload with reassembly } ∧
        reassembly.isEmpty = true ∧ reassembly.rejecting = false := by
  rw [receive_of_awake (gathering.awake prompt)]
  obtain ⟨state, timed⟩ : ∃ state, state = { inbound.reassembly with lastFragment := some now } :=
    ⟨_, rfl⟩
  rw [← timed]
  rcases gathering.progress with ⟨fits, calm, held, same⟩ | ⟨full, rejecting, none, same⟩
  · have sound : state.Sound := timed ▸ gathering.wired.sound.transfer rfl rfl rfl
    have holds : state.held = payload := by rw [← held, timed]; rfl
    have quiet : state.rejecting = false := by rw [timed]; exact calm
    obtain ⟨cells, after⟩ := Reassembly.finish_state state refuses
    refine ⟨(state.finish refuses).2, ?_, by rw [after]; rfl, by rw [after]; exact quiet⟩
    simp only [Reassembly.accept_finish quiet, Reassembly.finish_outcome refuses sound, holds,
      conclude, if_neg (Nat.not_le.mpr fits)]
    rw [same]
    split
    next => rfl
    next =>
      split
      next => simp only [settle, report]; split <;> rfl
      next => simp only [settle, dispatch]; split <;> rfl
  · have closed : state.rejecting = true := by rw [timed]; exact rejecting
    refine ⟨{ state with rejecting := false }, ?_, ?_, rfl⟩
    · simp only [Reassembly.accept_finish_of_rejecting closed, settle, conclude, if_pos full]
      rw [same]
    · simp [Reassembly.isEmpty, timed, none]

end Gathering

/-- Whatever was going on, a start marker begins an empty payload. -/
theorem gathering_start (wired : start.Wired)
    (roomy : 0 < start.settings.reassemblyCapacity.toNat) (refuses : Nat → Bool) (now : Nat) :
    Gathering start [] now (start.receive refuses startMarker now) where
  wired := wired.receive refuses startMarker now
  lastFragment := by
    simp [receive, Reassembly.push, Reassembly.accept, Reassembly.classify_startMarker,
      Reassembly.reset]
  progress := by
    refine Or.inl ⟨roomy, ?_, Reassembly.held_of_cursor_eq_zero ?_, ?_⟩
    all_goals simp [receive, Reassembly.push, Reassembly.accept, Reassembly.classify_startMarker,
      Reassembly.reset, settle]

end Inbound

/-! ## Arrivals -/

/-- A fragment that arrives in a world. What happens to the endpoint between it
and the fragment before is arbitrary, as long as the inbound half stays as it is. -/
structure Arrival (W H : Type) where
  meanwhile : Endpoint H → Endpoint H
  apart : ∀ endpoint, (meanwhile endpoint).inbound = endpoint.inbound
  world : W
  refuses : Nat → Bool
  fragment : Bytes

/-- A fragment that arrives in a world, with nothing else going on. -/
def Arrival.plain {W H : Type} (world : W) (fragment : Bytes) : Arrival W H :=
  ⟨id, fun _ => rfl, world, fun _ => false, fragment⟩

variable {W H : Type} (ports : Ports W H)

/-- The endpoint when it has taken a fragment. -/
def Arrival.land (endpoint : Endpoint H) (arrival : Arrival W H) : Endpoint H :=
  (Act.exec (onFragment ports arrival.refuses arrival.fragment)
    ⟨arrival.meanwhile endpoint, arrival.world⟩).2.endpoint

/-- The endpoint when it has taken one fragment after the other. -/
def landAll (arrivals : List (Arrival W H)) (endpoint : Endpoint H) : Endpoint H :=
  arrivals.foldl (Arrival.land ports) endpoint

/-- What the inbound half makes of an arrival. -/
def Inbound.take (inbound : Inbound) (arrival : Arrival W H) : Inbound :=
  inbound.receive arrival.refuses arrival.fragment (ports.now arrival.world)

/-- Notifying an acknowledgement leaves the inbound half of the endpoint alone. -/
def Ports.AcknowledgesApart : Prop :=
  ∀ s, (Act.exec (ports.notify ackMarker) s).2.endpoint.inbound = s.endpoint.inbound

variable {ports}

theorem inbound_acknowledge (apart : ports.AcknowledgesApart) (s : Station W H) :
    (Act.exec (deliver ports ackMarker) s).2.endpoint.inbound = s.endpoint.inbound := by
  rw [← apart s, deliver, Act.exec_bind]
  rcases Act.exec (ports.notify ackMarker) s with ⟨_ | _ | _, _⟩ <;> rfl

theorem inbound_onFragment (apart : ports.AcknowledgesApart) (refuses : Nat → Bool)
    (fragment : Bytes) (s : Station W H) :
    (Act.exec (onFragment ports refuses fragment) s).2.endpoint.inbound =
      s.endpoint.inbound.receive refuses fragment (ports.now s.world) := by
  rw [← Endpoint.inbound_receive]
  simp only [onFragment, Act.exec_bind, Act.exec_world, Act.exec_step]
  split
  next => rw [Act.exec_discard]; exact inbound_acknowledge apart _
  next => rfl

theorem inbound_land (apart : ports.AcknowledgesApart) (endpoint : Endpoint H)
    (arrival : Arrival W H) :
    (arrival.land ports endpoint).inbound = endpoint.inbound.take ports arrival := by
  rw [Arrival.land, inbound_onFragment apart, arrival.apart]
  rfl

theorem inbound_landAll (apart : ports.AcknowledgesApart) (arrivals : List (Arrival W H))
    (endpoint : Endpoint H) :
    (landAll ports arrivals endpoint).inbound =
      arrivals.foldl (Inbound.take ports) endpoint.inbound := by
  induction arrivals generalizing endpoint with
  | nil => rfl
  | cons arrival rest ih => rw [landAll, List.foldl_cons, List.foldl_cons, ← inbound_land apart,
      ← ih, landAll]

namespace Inbound

theorem Wired.takeAll {inbound : Inbound} (wired : inbound.Wired)
    (arrivals : List (Arrival W H)) : (arrivals.foldl (take ports) inbound).Wired := by
  induction arrivals generalizing inbound with
  | nil => exact wired
  | cons arrival rest ih => exact ih (wired.receive _ _ _)

theorem take_settings (inbound : Inbound) (arrivals : List (Arrival W H)) :
    (arrivals.foldl (take ports) inbound).settings = inbound.settings := by
  induction arrivals generalizing inbound with
  | nil => rfl
  | cons arrival rest ih => rw [List.foldl_cons, ih, take, receive_settings]

/-- The fragments of a payload and the end marker, one after the other. -/
theorem Gathering.run {start inbound : Inbound} {payload : Bytes} {previous last : Arrival W H}
    (gathering : Gathering start payload (ports.now previous.world) inbound)
    (middle : List (Arrival W H)) (closes : last.fragment = endMarker)
    (unmarked : ∀ arrival ∈ middle, Marker.classify arrival.fragment = none)
    (prompt : (previous :: (middle ++ [last])).IsChain fun a b =>
      ports.now b.world - ports.now a.world ≤ start.settings.reassemblyIdle.toNat) :
    ∃ reassembly : Reassembly,
      (middle ++ [last]).foldl (take ports) inbound =
          { start.conclude last.refuses (payload ++ middle.flatMap Arrival.fragment) with
            reassembly } ∧
        reassembly.isEmpty = true ∧ reassembly.rejecting = false := by
  induction middle generalizing previous inbound payload with
  | nil =>
    have gap := (List.isChain_cons_cons.mp prompt).1
    simpa [take, closes] using gathering.finish gap last.refuses
  | cons arrival rest ih =>
    obtain ⟨gap, later⟩ := List.isChain_cons_cons.mp prompt
    have next := gathering.fragment gap (unmarked arrival List.mem_cons_self) arrival.refuses
    have done := ih next (fun other member => unmarked other (List.mem_cons_of_mem _ member)) later
    simpa [take, List.append_assoc] using done

end Inbound

/-- Settings of an endpoint that was created leave room for a byte and its terminator. -/
theorem Settings.Valid.capacity {settings : Settings} (valid : settings.Valid) :
    2 ≤ settings.reassemblyCapacity.toNat := by
  have kept := settings.valid_iff.mp valid .capacityTooSmall
  simp only [Settings.breaks, decide_eq_false_iff_not] at kept
  omega

theorem Endpoint.eq_fresh_of_create {settings : Settings} {endpoint : Endpoint H}
    (made : Endpoint.create settings = .ok endpoint) :
    settings.Valid ∧ endpoint = Endpoint.fresh settings := by
  unfold Endpoint.create Settings.check at made
  cases broken : settings.violation? with
  | some violation => simp [broken] at made
  | none =>
    simp only [broken, Except.ok.injEq] at made
    exact ⟨broken, made.symm⟩

/-- A command that is cut in whatever way comes out whole, behind everything
that was queued before, and is shed when the queue is full. A command of no
bytes is ignored. One that outgrows the buffer is reported once, whole as it
is. Nothing of what came before matters to it, and nothing of it is left. -/
theorem command_round_trip (ports : Ports W H) (apart : ports.AcknowledgesApart)
    {settings : Settings} {fresh : Endpoint H} (made : Endpoint.create settings = .ok fresh)
    (earlier : List (Arrival W H)) (first last : Arrival W H) (middle : List (Arrival W H))
    (payload : Bytes) (opens : first.fragment = startMarker)
    (cut : middle.flatMap Arrival.fragment = payload) (closes : last.fragment = endMarker)
    (unmarked : ∀ arrival ∈ middle, ∀ marker : Marker, arrival.fragment ≠ marker.bytes)
    (prompt : (first :: (middle ++ [last])).IsChain fun a b =>
      ports.now b.world - ports.now a.world ≤ settings.reassemblyIdle.toNat) :
    let before := landAll ports earlier fresh
    let after := landAll ports (first :: (middle ++ [last])) before
    (1 ≤ payload.length → payload.length < settings.reassemblyCapacity.toNat →
        last.refuses (payload.length + 1) = false →
      after.faults.items = before.faults.items ∧
      after.counters.framingErrors = before.counters.framingErrors ∧
      (before.commands.size < commandDepth →
        after.commands.items = before.commands.items ++ [⟨payload⟩] ∧
        after.counters.commandsQueued = before.counters.commandsQueued + 1 ∧
        after.counters.queueDrops = before.counters.queueDrops) ∧
      (before.commands.size = commandDepth →
        after.commands.items = before.commands.items ∧
        after.counters.commandsQueued = before.counters.commandsQueued ∧
        after.counters.queueDrops = before.counters.queueDrops + 1)) ∧
    (payload.length = 0 →
      after.commands.items = before.commands.items ∧
      after.counters.queueDrops = before.counters.queueDrops ∧
      after.faults.items = before.faults.items ∧
      after.counters.framingErrors = before.counters.framingErrors ∧
      after.counters.reportsDropped = before.counters.reportsDropped) ∧
    (settings.reassemblyCapacity.toNat ≤ payload.length →
      after.commands.items = before.commands.items ∧
      after.counters.queueDrops = before.counters.queueDrops ∧
      after.counters.framingErrors = before.counters.framingErrors + 1 ∧
      (before.faults.size < faultDepth →
        after.faults.items = before.faults.items ++ [.overflow] ∧
        after.counters.reportsDropped = before.counters.reportsDropped) ∧
      (before.faults.size = faultDepth →
        after.faults.items = before.faults.items ∧
        after.counters.reportsDropped = before.counters.reportsDropped + 1)) ∧
    after.reassembly.isEmpty = true ∧ after.reassembly.rejecting = false := by
  intro before after
  obtain ⟨valid, rfl⟩ := Endpoint.eq_fresh_of_create made
  have settled : before.inbound = earlier.foldl (Inbound.take ports) _ :=
    inbound_landAll apart earlier _
  have wired : before.inbound.Wired := by
    rw [settled]
    exact (Inbound.wired_fresh settings).takeAll earlier
  have same : before.inbound.settings = settings := by
    rw [settled]
    exact Inbound.take_settings _ earlier
  have roomy := valid.capacity
  rw [← same] at prompt roomy ⊢
  have begun := Inbound.gathering_start wired (by omega) first.refuses (ports.now first.world)
  obtain ⟨reassembly, concluded, empty, calm⟩ := begun.run middle closes
    (fun arrival member => Marker.classify_eq_none (unmarked arrival member)) prompt
  have landed : after.inbound =
      { before.inbound.conclude last.refuses payload with reassembly } := by
    rw [inbound_landAll apart, List.foldl_cons, Inbound.take, opens, concluded, List.nil_append,
      cut]
  have commands := congrArg Inbound.commands landed
  have faults := congrArg Inbound.faults landed
  have queued := congrArg Inbound.commandsQueued landed
  have drops := congrArg Inbound.queueDrops landed
  have errors := congrArg Inbound.framingErrors landed
  have shed := congrArg Inbound.reportsDropped landed
  have rest : after.reassembly = reassembly := congrArg Inbound.reassembly landed
  refine ⟨?_, ?_, ?_, by rw [rest]; exact empty, by rw [rest]; exact calm⟩
  · intro some fits granted
    rw [Inbound.conclude_of_complete fits some granted] at commands faults queued drops errors
    refine ⟨?_, ?_, ?_, ?_⟩
    · exact faults.trans (Inbound.dispatch_faults _ _).1
    · exact errors.trans (Inbound.dispatch_faults _ _).2
    · intro (room : before.inbound.commands.length < commandDepth)
      rw [Inbound.dispatch_of_room room] at commands queued drops
      exact ⟨commands, queued, drops⟩
    · intro (full : before.inbound.commands.length = commandDepth)
      rw [Inbound.dispatch_of_full full] at commands queued drops
      exact ⟨commands, queued, drops⟩
  · intro none
    rw [Inbound.conclude_of_empty (by omega) none] at commands faults drops errors shed
    exact ⟨commands, drops, faults, errors, shed⟩
  · intro outgrown
    rw [Inbound.conclude_of_outgrown outgrown] at commands faults drops errors shed
    refine ⟨commands.trans (Inbound.overflow_commands _).1,
      drops.trans (Inbound.overflow_commands _).2,
      errors.trans (Inbound.overflow_framingErrors _), ?_, ?_⟩
    · intro (room : before.inbound.faults.length < faultDepth)
      rw [Inbound.overflow_of_room room] at faults shed
      exact ⟨faults, shed⟩
    · intro (full : before.inbound.faults.length = faultDepth)
      rw [Inbound.overflow_of_full full] at faults shed
      exact ⟨faults, shed⟩

/-- Behind half a command that was broken off, a command in two fragments with the
longest silence between them is the only one queued. -/
theorem command_round_trip_two_fragments :
    (landAll Bench.clockPorts
      [.plain 20000 startMarker, .plain 25000 (Bytes.ofText "\x7b\"type\":"),
        .plain 30000 (Bytes.ofText "1\x7d"), .plain 35000 endMarker]
      (landAll Bench.clockPorts
        [.plain 1 startMarker, .plain 2 (Bytes.ofText "half"), .plain 3 cancelMarker]
        (Endpoint.fresh {}))).commands.items =
      [⟨Bytes.ofText "\x7b\"type\":1\x7d"⟩] := by
  have unmarked : ∀ fragment ∈ [Bytes.ofText "\x7b\"type\":", Bytes.ofText "1\x7d"],
      ∀ marker ∈ [Marker.start, .cancel, .finish], fragment ≠ marker.bytes := by decide
  have made : Endpoint.create {} = .ok (Endpoint.fresh {} : Endpoint Empty) := rfl
  have trip := command_round_trip Bench.clockPorts (fun _ => rfl) made
    [.plain 1 startMarker, .plain 2 (Bytes.ofText "half"), .plain 3 cancelMarker]
    (.plain 20000 startMarker) (.plain 35000 endMarker)
    [.plain 25000 (Bytes.ofText "\x7b\"type\":"), .plain 30000 (Bytes.ofText "1\x7d")]
    (Bytes.ofText "\x7b\"type\":1\x7d") rfl rfl rfl
    (by
      intro arrival member marker
      refine unmarked arrival.fragment ?_ marker (by cases marker <;> decide)
      exact List.mem_map_of_mem (f := Arrival.fragment) member)
    (by decide)
  exact ((trip.1 (by decide) (by decide) rfl).2.2.1 (by decide)).1

end CommandLink
