import CommandLink.Endpoint.Lifecycle
import CommandLink.Endpoint.Processing
import CommandLink.Proofs.RoundTrip
import CommandLink.Proofs.SendingAlike
import Mathlib.Logic.Relation

/-!
# Nothing outgrows the buffer

A buffer that looks before each write whether the place exists (`push?`) never finds a place
that does not, and so is the buffer as it is. What it completes has room for its terminator,
and the worker, which measures each command again, finds none too large.

What becomes of an endpoint is a run of `Inflow`s: fragments arrive with whatever times and
refusals, unfinished commands are discarded, queued ones are taken off, and the rest of the
endpoint may change in any way. Everything an endpoint does, and whatever its ports do while
they are called, is such a run, also when a handler crashes.
-/

namespace CommandLink

/-! ## A buffer that checks its bounds -/

namespace Reassembly

/-- Write one cell of a buffer with so many cells; `none` outside of it. -/
def write? (capacity : Nat) (cells : Array UInt8) (place : Nat) (byte : UInt8) :
    Option (Array UInt8) :=
  if place < capacity then some (write cells place byte) else none

def copy? (capacity : Nat) (cells : Array UInt8) (place : Nat) : Bytes → Option (Array UInt8)
  | [] => some cells
  | byte :: rest => do copy? capacity (← write? capacity cells place byte) (place + 1) rest

def append? (state : Reassembly) (fragment : Bytes) : Option (Outcome × Reassembly) :=
  let attempted := state.length + fragment.length
  if state.capacity ≤ attempted then
    some (.overflow (.overflow attempted state.capacity),
      { state with cursor := 0, rejecting := true })
  else do
    let cells ← copy? state.capacity state.cells state.cursor fragment
    return (.buffered, { state with cells, cursor := attempted })

def finish? (refuses : Nat → Bool) (state : Reassembly) : Option (Outcome × Reassembly) :=
  let after := { state with cursor := 0 }
  if state.isEmpty then
    some (.emptyCommand, after)
  else do
    let cells ← write? state.capacity state.cells state.cursor 0
    if refuses (state.length + 1) then
      return (.allocFailed state.length, { after with cells })
    else
      return (.complete ⟨(cells.extract 0 state.cursor).toList⟩, { after with cells })

def accept? (refuses : Nat → Bool) (fragment : Bytes) (state : Reassembly) :
    Option (Outcome × Reassembly) :=
  match Marker.classify fragment with
  | some .start => some (.started, state.reset)
  | some .cancel => some (.cancelled, state.reset)
  | some .finish =>
    if state.rejecting then
      some (.dropped, { state with rejecting := false })
    else
      state.finish? refuses
  | none => if state.rejecting then some (.dropped, state) else state.append? fragment

/-- Take a fragment that arrived at `now`; `none` when a byte has no place in the buffer. -/
def push? (refuses : Nat → Bool) (fragment : Bytes) (now : Nat) (state : Reassembly) :
    Option (Report × Reassembly) := do
  let (stale, awake) := state.expire now
  let (outcome, after) ← { awake with lastFragment := some now }.accept? refuses fragment
  return (⟨stale, outcome⟩, after)

theorem copy?_eq {capacity : Nat} (cells : Array UInt8) {place : Nat} {bytes : Bytes}
    (room : place + bytes.length ≤ capacity) :
    copy? capacity cells place bytes = some (copy cells place bytes) := by
  induction bytes generalizing cells place with
  | nil => rfl
  | cons byte rest ih =>
    rw [List.length_cons] at room
    have inside : place < capacity := by omega
    have onward : copy? capacity (write cells place byte) (place + 1) rest = _ :=
      ih (write cells place byte) (by omega)
    simp only [copy?, write?, if_pos inside, Option.bind_eq_bind, Option.bind_some, onward, copy]

theorem append?_eq (state : Reassembly) (fragment : Bytes) :
    state.append? fragment = some (state.append fragment) := by
  -- The append compares with `≤`, so that one place is left for the terminator.
  by_cases full : state.capacity ≤ state.length + fragment.length
  · rw [append_of_full full, append?, if_pos full]
  · have room : state.length + fragment.length < state.capacity := Nat.not_le.mp full
    have copied : copy? state.capacity state.cells state.cursor fragment = _ :=
      copy?_eq state.cells (Nat.le_of_lt room)
    rw [append_of_room room, append?, if_neg full, copied]
    rfl

/-- A partial command has left a place for the terminator. -/
theorem Sound.finish?_eq {state : Reassembly} (sound : state.Sound) (refuses : Nat → Bool) :
    state.finish? refuses = some (state.finish refuses) := by
  by_cases empty : state.isEmpty = true
  · simp only [finish?, Reassembly.finish, if_pos empty]
  · have room : state.cursor < state.capacity :=
      sound.room.resolve_left fun nothing => empty (by simp [isEmpty, nothing])
    simp only [finish?, Reassembly.finish, if_neg empty, write?, if_pos room, Option.bind_eq_bind,
      Option.bind_some]
    split <;> rfl

theorem Sound.accept?_eq {state : Reassembly} (sound : state.Sound) (refuses : Nat → Bool)
    (fragment : Bytes) : state.accept? refuses fragment = some (state.accept refuses fragment) := by
  cases marked : Marker.classify fragment with
  | none =>
    simp only [accept?, Reassembly.accept, marked]
    split
    next => rfl
    next => exact append?_eq state fragment
  | some marker =>
    cases marker with
    | start => simp only [accept?, Reassembly.accept, marked]
    | cancel => simp only [accept?, Reassembly.accept, marked]
    | finish =>
      simp only [accept?, Reassembly.accept, marked]
      split
      next => rfl
      next => exact sound.finish?_eq refuses

/-- No byte is written outside the buffer. -/
theorem Sound.push?_eq {state : Reassembly} (sound : state.Sound) (refuses : Nat → Bool)
    (fragment : Bytes) (now : Nat) :
    state.push? refuses fragment now = some (state.push refuses fragment now) := by
  have awake := sound.expire now
  have timed : { (state.expire now).2 with lastFragment := some now }.Sound :=
    awake.transfer rfl rfl rfl
  simp only [push?, timed.accept?_eq refuses fragment]
  rfl

theorem Sound.cursor_lt {state : Reassembly} (sound : state.Sound) (some : 0 < state.capacity) :
    state.cursor < state.capacity := by
  rcases sound.room with empty | room
  · omega
  · exact room

/-- The terminator of a command that filled the whole buffer would have no place. -/
example :
    ({ capacity := 2, idleTimeout := 1, cells := #[49, 50], cursor := 2 } : Reassembly).push?
      (fun _ => false) endMarker 0 = none := by decide

end Reassembly

/-! ## What flows into an endpoint -/

/-- Something stands in front of the terminator, and both have room in so many cells. -/
structure Command.Fits (capacity : Nat) (command : Command) : Prop where
  some : command.payload ≠ []
  within : command.terminated.length ≤ capacity

variable {W H : Type}

/-- One thing that becomes of an endpoint. -/
inductive Inflow : Endpoint H → Endpoint H → Prop where
  | fragment (endpoint) (refuses : Nat → Bool) (bytes : Bytes) (now : Nat) :
    Inflow endpoint (endpoint.receive refuses bytes now).2
  | discard (endpoint) : Inflow endpoint { endpoint with reassembly := endpoint.reassembly.discard.2 }
  | take {endpoint command rest} (taken : endpoint.commands.take? = some (command, rest)) :
    Inflow endpoint { endpoint with commands := rest }
  | apart {before after} (settings : after.settings = before.settings)
    (reassembly : after.reassembly = before.reassembly) (commands : after.commands = before.commands) :
    Inflow before after

/-- The buffer is as large as the settings say, and sound, and everything in the queue came
out of it. -/
structure Endpoint.Contained (settings : Settings) (endpoint : Endpoint H) : Prop where
  wired : endpoint.inbound.Wired
  fitting : ∀ command ∈ endpoint.commands.items,
    command.Fits settings.reassemblyCapacity.toNat
  settings : endpoint.settings = settings

namespace Endpoint.Contained

variable {settings : Settings} {endpoint after : Endpoint H}

theorem capacity (contained : endpoint.Contained settings) :
    endpoint.reassembly.capacity = settings.reassemblyCapacity.toNat := by
  rw [← contained.settings]
  exact contained.wired.capacity

/-- What a fragment completes fits, and so may be queued. -/
theorem complete_fits (contained : endpoint.Contained settings) {refuses : Nat → Bool}
    {bytes : Bytes} {now : Nat} {command : Command}
    (completed : (endpoint.reassembly.push refuses bytes now).1.outcome = .complete command) :
    command.Fits settings.reassemblyCapacity.toNat where
  some := contained.wired.sound.complete_ne_nil completed
  within := contained.capacity ▸ contained.wired.sound.complete_fits completed

theorem fragment (contained : endpoint.Contained settings) (refuses : Nat → Bool) (bytes : Bytes)
    (now : Nat) : (endpoint.receive refuses bytes now).2.Contained settings := by
  have received := Endpoint.inbound_receive refuses bytes now endpoint
  have same : (endpoint.receive refuses bytes now).2.settings = endpoint.settings :=
    (congrArg Inbound.settings received).trans (Inbound.receive_settings refuses bytes now _)
  have commands := congrArg Inbound.commands received
  refine ⟨?_, fun command member => ?_, same.trans contained.settings⟩
  · rw [received]
    exact contained.wired.receive refuses bytes now
  change command ∈ (endpoint.receive refuses bytes now).2.inbound.commands at member
  rw [received] at member
  -- The queue grows only by what this fragment completes, and only while it has room.
  by_cases completes : ∃ command,
      (endpoint.reassembly.push refuses bytes now).1.outcome = .complete command
  · obtain ⟨completed, outcome⟩ := completes
    rw [Inbound.receive_of_complete outcome] at member
    rcases Nat.lt_or_eq_of_le endpoint.commands.within with room | full
    · rw [Inbound.dispatch_of_room room] at member
      rcases List.mem_append.mp member with earlier | this
      · exact contained.fitting command earlier
      · rw [List.mem_singleton.mp this]
        exact contained.complete_fits outcome
    · rw [Inbound.dispatch_of_full full] at member
      exact contained.fitting command member
  · have waiting := (@Inbound.receive_of_incomplete endpoint.inbound refuses bytes now
      (not_exists.mp completes)).1
    rw [waiting] at member
    exact contained.fitting command member

theorem inflow (contained : endpoint.Contained settings) (inflow : Inflow endpoint after) :
    after.Contained settings := by
  obtain ⟨sound, capacity, idleTimeout⟩ := contained.wired
  cases inflow with
  | fragment refuses bytes now => exact contained.fragment refuses bytes now
  | discard =>
    exact ⟨⟨sound.discard, capacity, idleTimeout⟩, contained.fitting, contained.settings⟩
  | take taken =>
    have items := Bounded.items_take? _ _ _ taken
    refine ⟨⟨sound, capacity, idleTimeout⟩, fun command member => ?_, contained.settings⟩
    exact contained.fitting command (by rw [items]; exact List.mem_cons_of_mem _ member)
  | apart same reassembly commands =>
    have buffer : after.inbound.reassembly = endpoint.inbound.reassembly := reassembly
    have asked : after.inbound.settings = endpoint.inbound.settings := same
    refine ⟨⟨?_, ?_, ?_⟩, ?_, same.trans contained.settings⟩
    · rw [buffer]
      exact sound
    · rw [buffer, asked]
      exact capacity
    · rw [buffer, asked]
      exact idleTimeout
    · rw [commands]
      exact contained.fitting

end Endpoint.Contained

theorem contained_fresh (settings : Settings) :
    (Endpoint.fresh settings : Endpoint H).Contained settings where
  settings := rfl
  wired := Inbound.wired_fresh settings
  fitting _ member := nomatch member

/-- The endpoint of a station has become of a fresh one. -/
def Reached (fresh : Endpoint H) (s : Station W H) : Prop :=
  Relation.ReflTransGen Inflow fresh s.endpoint

theorem Reached.contained {settings : Settings} {s : Station W H}
    (reached : Reached (Endpoint.fresh settings) s) : s.endpoint.Contained settings := by
  obtain ⟨endpoint, world⟩ := s
  change Relation.ReflTransGen Inflow (Endpoint.fresh settings) endpoint at reached
  induction reached with
  | refl => exact contained_fresh settings
  | tail _ last ih => exact ih.inflow last

/-! ## What endpoints do -/

namespace Act

variable {α β : Type} {I : Station W H → Prop}

/-- Whatever becomes of a procedure, what held before it holds behind it, and this is known
of what it returns. -/
def Upholds (I : Station W H → Prop) (act : Act W H α) (known : α → Prop) : Prop :=
  ∀ s, I s → I (exec act s).2 ∧ ∀ a, (exec act s).1 = .ok a → known a

theorem Keeps.upholds {act : Act W H α} (keeps : Keeps I act) : Upholds I act fun _ => True :=
  fun s there => ⟨keeps s there, fun _ _ => trivial⟩

theorem Upholds.keeps {act : Act W H α} {known : α → Prop} (upholds : Upholds I act known) :
    Keeps I act := fun s there => (upholds s there).1

theorem upholds_pure {known : α → Prop} {a : α} (holds : known a) :
    Upholds I (pure a : Act W H α) known := by
  refine fun s there => ⟨there, fun b returned => ?_⟩
  obtain rfl : a = b := Except.ok.inj returned
  exact holds

theorem Upholds.bind {act : Act W H α} {next : α → Act W H β} {between : α → Prop}
    {known : β → Prop} (first : Upholds I act between)
    (second : ∀ a, between a → Upholds I (next a) known) : Upholds I (act >>= next) known := by
  intro s there
  obtain ⟨still, holds⟩ := first s there
  rw [exec_bind]
  cases ended : exec act s with
  | mk result after =>
    rw [ended] at still holds
    cases result with
    | ok a => exact second a (holds a rfl) after still
    | error crash =>
      -- Nothing comes behind a crash, so nothing is to be known of a result.
      exact ⟨still, nofun⟩

theorem Upholds.ensuring {change : Endpoint H → Endpoint H} {act : Act W H α}
    {known : α → Prop} (allowed : ∀ s, I s → I { s with endpoint := change s.endpoint })
    (upholds : Upholds I act known) : Upholds I (ensuring change act) known := by
  intro s there
  rw [exec_ensuring]
  exact ⟨allowed _ (upholds s there).1, (upholds s there).2⟩

theorem upholds_step {change : Endpoint H → α × Endpoint H} {known : α → Prop}
    (holds : ∀ s, I s → I { s with endpoint := (change s.endpoint).2 } ∧
      known (change s.endpoint).1) :
    Upholds I (step change) known := by
  refine fun s there => ⟨(holds s there).1, fun a returned => ?_⟩
  obtain rfl : (change s.endpoint).1 = a := Except.ok.inj returned
  exact (holds s there).2

theorem upholds_modify {change : Endpoint H → Endpoint H}
    (allowed : ∀ s, I s → I { s with endpoint := change s.endpoint }) :
    Upholds I (modifyEndpoint change : Act W H Unit) fun _ => True :=
  fun s there => ⟨allowed s there, fun _ _ => trivial⟩

theorem upholds_endpoint {next : Endpoint H → Act W H β} {known : β → Prop}
    (rest : ∀ s, I s → Upholds I (next s.endpoint) known) : Upholds I (endpoint >>= next) known :=
  fun s there => rest s there s there

theorem upholds_world {next : W → Act W H β} {known : β → Prop}
    (rest : ∀ world, Upholds I (next world) known) : Upholds I (world >>= next) known :=
  fun s there => rest s.world s there

theorem Upholds.discard {act : Act W H α} {known : α → Prop} (upholds : Upholds I act known) :
    Upholds I (discard act) fun _ => True :=
  upholds.bind fun _ _ => upholds_pure trivial

end Act

open Act

section Reached

variable {fresh : Endpoint H}

theorem Reached.inflow {s : Station W H} (reached : Reached fresh s) {endpoint : Endpoint H}
    (inflow : Inflow s.endpoint endpoint) : Reached fresh { s with endpoint } :=
  .tail reached inflow

theorem Reached.apart {s : Station W H} (reached : Reached fresh s) {endpoint : Endpoint H}
    (settings : endpoint.settings = s.endpoint.settings)
    (reassembly : endpoint.reassembly = s.endpoint.reassembly)
    (commands : endpoint.commands = s.endpoint.commands) : Reached fresh { s with endpoint } :=
  reached.inflow (.apart settings reassembly commands)

/-- The books of sending are apart from what flows in. -/
theorem reached_immune : Immune (Reached fresh : Station W H → Prop) := by
  intro s endpoint same there
  have settings := congrArg Endpoint.settings same
  have reassembly := congrArg Endpoint.reassembly same
  have commands := congrArg Endpoint.commands same
  exact there.apart settings reassembly commands

/-- Ports that change an endpoint only as it may change, also when they crash. -/
structure Ports.Flow (ports : Ports W H) (fresh : Endpoint H) : Prop
    extends ports.Keep (Reached fresh) where
  handle : ∀ handler parsed, Keeps (Reached fresh) (ports.handle handler parsed)

variable {ports : Ports W H} (flow : ports.Flow fresh)

include flow

theorem send_upholds (document : Document) (activity : Option Activity) :
    Upholds (Reached fresh) (send ports document activity) fun _ => True :=
  (flow.toKeep.send_keeps reached_immune document activity).upholds

/-- A fragment arrives, and a request to cancel is acknowledged. -/
theorem onFragment_upholds (refuses : Nat → Bool) (bytes : Bytes) :
    Upholds (Reached fresh) (onFragment ports refuses bytes) fun _ => True := by
  refine upholds_world fun world => ?_
  have arrived : Upholds (Reached fresh)
      (step (·.receive refuses bytes (ports.now world)) : Act W H Reassembly.Outcome)
      fun _ => True :=
    upholds_step fun s there => ⟨there.inflow (.fragment _ refuses bytes _), trivial⟩
  refine arrived.bind fun outcome _ => ?_
  split
  next => exact (deliver_alike flow.sendAlike.notify ackMarker).keeps.upholds.discard
  next => exact upholds_pure trivial

omit flow in
theorem Reached.linkDown {s : Station W H} (reached : Reached fresh s) :
    Reached fresh { s with endpoint := s.endpoint.linkDown } :=
  reached.inflow (.discard s.endpoint)

omit flow in
theorem Reached.linkUp {s : Station W H} (reached : Reached fresh s) :
    Reached fresh { s with endpoint := s.endpoint.linkUp } :=
  reached.linkDown.apart rfl rfl rfl

/-! ## The worker -/

theorem replyError_upholds (message kind : String) :
    Upholds (Reached fresh) (replyError ports message kind) fun _ => True :=
  (send_upholds flow _ _).discard

omit flow in
theorem takeFault_upholds :
    Upholds (Reached fresh) (takeFault : Act W H (Option Fault)) fun _ => True := by
  refine upholds_step fun s there => ⟨?_, trivial⟩
  split
  next => exact there
  next => exact there.apart rfl rfl rfl

theorem flushFaults_upholds :
    Upholds (Reached fresh) (flushFaults ports) fun _ => True := by
  -- By induction on the rounds that are left; the count of reports is carried along.
  have within : ∀ rounds reported,
      Upholds (Reached fresh) (flushFaultsWithin ports rounds reported) fun _ => True := by
    intro rounds
    induction rounds with
    | zero => exact fun reported => upholds_pure trivial
    | succ rounds ih =>
      intro reported
      refine takeFault_upholds.bind fun fault _ => ?_
      cases fault with
      | none => exact upholds_pure trivial
      | some fault => exact (replyError_upholds flow _ _).bind fun _ _ => ih (reported + 1)
  exact within ports.rounds 0

omit flow in
theorem count_upholds (change : Counters → Counters) :
    Upholds (Reached fresh) (count change : Act W H Unit) fun _ => True :=
  upholds_modify fun _ there => there.apart rfl rfl rfl

theorem respond_upholds (responder : Responder H) (parsed : Json) :
    Upholds (Reached fresh) (respond ports responder parsed) fun _ => True := by
  cases responder with
  | direct handler => exact (flow.handle handler parsed).upholds
  | diagnostics behind =>
    unfold respond answerDiagnostics
    dsimp only
    split
    next =>
      have shown : Upholds (Reached fresh) (diagnose ports) fun _ => True := by
        refine flow.freeBytes.upholds.bind fun free _ => ?_
        exact upholds_endpoint fun s _ => upholds_world fun world => upholds_pure trivial
      exact shown.bind fun diagnostics _ => (send_upholds flow _ _).discard
    next =>
      cases behind with
      | none => exact (send_upholds flow _ _).discard
      | some handler => exact (flow.handle handler parsed).upholds

end Reached

section Worker

variable {settings : Settings} {ports : Ports W H}

/-- What is taken off the queue once came out of the buffer. -/
theorem takeCommand_upholds :
    Upholds (Reached (Endpoint.fresh settings)) (takeCommand : Act W H (Option Command))
      fun taken => ∀ command ∈ taken, command.Fits settings.reassemblyCapacity.toNat := by
  refine upholds_step fun s there => ?_
  cases oldest : s.endpoint.commands.take? with
  | none => exact ⟨there, nofun⟩
  | some found =>
    obtain ⟨command, rest⟩ := found
    refine ⟨there.inflow (.take oldest), ?_⟩
    rintro _ ⟨⟩
    have items := Bounded.items_take? _ _ _ oldest
    exact there.contained.fitting command (by rw [items]; exact List.mem_cons_self)

variable (flow : ports.Flow (Endpoint.fresh settings))

include flow

theorem awaitUntil_upholds (deadline rounds : Nat) :
    Upholds (Reached (Endpoint.fresh settings)) (awaitUntil ports deadline rounds)
      fun taken => ∀ command ∈ taken, command.Fits settings.reassemblyCapacity.toNat := by
  induction rounds with
  | zero => exact upholds_pure nofun
  | succ rounds ih =>
    refine takeCommand_upholds.bind fun taken fits => ?_
    cases taken with
    | some command => exact upholds_pure fits
    | none =>
      refine upholds_world fun world => ?_
      split
      next => exact upholds_pure nofun
      next => exact (flow.sleep nap).upholds.bind fun _ _ => ih

theorem nextCommand_upholds (wait : Nat) :
    Upholds (Reached (Endpoint.fresh settings)) (nextCommand ports wait)
      fun taken => ∀ command ∈ taken, command.Fits settings.reassemblyCapacity.toNat := by
  refine (flushFaults_upholds flow).discard.bind fun _ _ => ?_
  refine Upholds.bind (upholds_world fun world => awaitUntil_upholds flow _ _) fun taken fits => ?_
  cases taken with
  | none => exact (flushFaults_upholds flow).discard.bind fun _ _ => upholds_pure nofun
  | some command =>
    refine (upholds_modify fun s there => ?_).bind fun _ _ => upholds_pure fits
    exact there.apart rfl rfl rfl

/-- The worker measures as the buffer does. -/
theorem execute_upholds {command : Command}
    (fits : command.Fits settings.reassemblyCapacity.toNat) :
    Upholds (Reached (Endpoint.fresh settings)) (execute ports command) (· ≠ .oversize) := by
  refine upholds_endpoint fun s there => ?_
  -- What the worker compares with are the settings that the buffer was made with.
  rw [there.contained.settings, if_neg (Nat.not_lt.mpr fits.within)]
  cases Json.read command.payload with
  | error problem =>
    refine (count_upholds _).bind fun _ _ => ?_
    exact (replyError_upholds flow _ _).bind fun _ _ => upholds_pure nofun
  | ok parsed =>
    refine upholds_endpoint fun t _ => ?_
    cases t.endpoint.responder with
    | none => exact (replyError_upholds flow _ _).bind fun _ _ => upholds_pure nofun
    | some responder =>
      exact (respond_upholds flow responder parsed).bind fun _ _ => upholds_pure nofun

theorem processCommand_upholds {command : Command}
    (fits : command.Fits settings.reassemblyCapacity.toNat) :
    Upholds (Reached (Endpoint.fresh settings)) (processCommand ports command) (· ≠ .oversize) := by
  refine (upholds_modify fun _ there => there.apart rfl rfl rfl).bind fun _ _ => ?_
  -- The worker is marked as idle again, also behind a handler that crashed.
  refine Upholds.ensuring (fun _ there => there.apart rfl rfl rfl) ?_
  refine (execute_upholds flow fits).bind fun disposition other => ?_
  exact (count_upholds _).bind fun _ _ => upholds_pure other

theorem processNext_upholds (wait : Nat) :
    Upholds (Reached (Endpoint.fresh settings)) (processNext ports wait) (· ≠ some .oversize) := by
  refine (nextCommand_upholds flow wait).bind fun taken fits => ?_
  cases taken with
  | none => exact upholds_pure nofun
  | some command =>
    refine (processCommand_upholds flow (fits command rfl)).bind fun disposition other => ?_
    exact upholds_pure fun same => other (Option.some.inj same)

end Worker

/-! ## The theorem -/

/-- Whatever arrives, at whatever times, is discarded, or finds no memory, and whatever else
becomes of an endpoint with sensible settings meanwhile: the cursor stands inside the buffer, no
fragment to come writes a byte outside of it, and a command that one completes is something, is
closed by a zero and fits the buffer with it. So the worker calls none too large, whatever it
waits for and whatever its ports do. -/
theorem inbound_within_capacity {settings : Settings} {fresh : Endpoint H}
    (made : Endpoint.create settings = .ok fresh) {ports : Ports W H} (flow : ports.Flow fresh)
    {s : Station W H} (reached : Reached fresh s) :
    let buffer := s.endpoint.reassembly
    buffer.capacity = settings.reassemblyCapacity.toNat ∧ buffer.cursor < buffer.capacity ∧
    (∀ refuses bytes now,
      buffer.push? refuses bytes now = some (buffer.push refuses bytes now)) ∧
    (∀ refuses bytes now command,
      (s.endpoint.receive refuses bytes now).1 = .complete command →
        command.payload ≠ [] ∧ command.terminated.getLast? = some 0 ∧
          command.terminated.length ≤ settings.reassemblyCapacity.toNat) ∧
    ∀ wait, (exec (processNext ports wait) s).1 ≠ .ok (some .oversize) ∧
      Reached fresh (exec (processNext ports wait) s).2 := by
  obtain ⟨valid, rfl⟩ := Endpoint.eq_fresh_of_create made
  have contained := reached.contained
  have sound := contained.wired.sound
  have some : 0 < s.endpoint.reassembly.capacity := by
    have two := valid.capacity
    have capacity := contained.capacity
    omega
  refine ⟨contained.capacity, sound.cursor_lt some, ?_, ?_, ?_⟩
  · exact fun refuses bytes now => sound.push?_eq refuses bytes now
  · intro refuses bytes now command completed
    rw [Endpoint.receive_outcome] at completed
    have fits := contained.complete_fits completed
    exact ⟨fits.some, by simp [Command.terminated], fits.within⟩
  · intro wait
    obtain ⟨still, other⟩ := processNext_upholds flow wait s reached
    exact ⟨fun returned => other _ returned rfl, still⟩

/-- Ports of a link that is down, on which one of the fragments to come arrived before, with
each nap, and whose handler crashes. -/
def feedingPorts : Ports (List Bytes) Unit where
  notify _ := return .error .notConnected
  requestMtu _ := return .error .notConnected
  restartAdvertising := pure ()
  mtu _ := UInt16.ofNat defaultMtu
  now _ := 0
  sleep _ := do
    match ← world with
    | [] => pure ()
    | fragment :: rest =>
      modifyWorld fun _ => rest
      modifyEndpoint fun endpoint => (endpoint.receive (fun _ => false) fragment 0).2
  randomBelow _ := return 0
  freeBytes := return 0
  minFreeBytes _ := 0
  allocate _ _ := return false
  handle _ _ := throw ⟨"no such command"⟩
  hasTelemetry _ := false
  nextTelemetry := return none
  rounds := 1

theorem feedingPorts_flow (fresh : Endpoint Unit) : feedingPorts.Flow fresh where
  notify _ := fun _ there => there
  sleep _ := by
    refine (upholds_world fun waiting => ?_ : Upholds _ _ fun _ => True).keeps
    cases waiting with
    | nil => exact upholds_pure trivial
    | cons fragment rest =>
      have passed : Keeps (Reached fresh) (modifyWorld fun _ => rest) := fun _ there => there
      refine passed.upholds.bind fun _ _ => ?_
      exact upholds_modify fun s there => there.inflow (.fragment _ _ fragment 0)
  freeBytes := fun _ there => there
  allocate _ _ := fun _ there => there
  handle _ _ := fun _ there => there

/-- A command of one byte fills the smallest buffer there is, and the worker takes it. -/
theorem inbound_within_capacity_smallest :
    let fresh : Endpoint Unit := .fresh { reassemblyCapacity := 2 }
    let waiting : Station (List Bytes) Unit := ⟨fresh, [Bytes.ofText "1", endMarker]⟩
    let after := exec (processNext feedingPorts 10) waiting
    after.1 = .ok (some .noHandler) ∧ after.2.endpoint.reassembly.capacity = 2 ∧
      after.2.endpoint.reassembly.push? (fun _ => false) (Bytes.ofText "12") 0 =
        some (after.2.endpoint.reassembly.push (fun _ => false) (Bytes.ofText "12") 0) := by
  intro fresh waiting after
  have made : Endpoint.create { reassemblyCapacity := 2 } = .ok fresh := rfl
  have flow := feedingPorts_flow fresh
  obtain ⟨-, -, -, -, processed⟩ := inbound_within_capacity made flow (s := waiting) .refl
  have still : Reached fresh after.2 := (processed 10).2
  have unhandled : after.1 = .ok (some .noHandler) := by decide +kernel
  -- Only what is known of the run is looked at from here on, not the run.
  clear_value after
  obtain ⟨capacity, -, inside, -⟩ := inbound_within_capacity made flow still
  exact ⟨unhandled, capacity, inside _ _ _⟩

end CommandLink
