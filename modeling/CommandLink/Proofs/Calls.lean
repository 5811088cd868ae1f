import CommandLink.Proofs.SendingApart
import Mathlib.Control.Monad.Basic

/-!
# The calls of ports

Ports can be logged: whenever one that sending uses comes back, the call is written into
the diary. A `Stretch` of a run is known by the calls that were made in it.

Statements about what sending achieves are about runs that go well, and whether one does
is read off its calls (`Favours`). `Smooth` says of a procedure that it always comes back,
and what it achieves when its calls go well.
-/

namespace CommandLink

/-- Whether a request to cancel is waiting, or a "busy" answer is owed. -/
def Endpoint.disturbed {H : Type} (endpoint : Endpoint H) : Bool :=
  endpoint.cancelRequested || endpoint.busyOwed

/-- A call of a port that came back, with its answer. A notification and a pause take time
in which others may disturb the endpoint. -/
inductive Call where
  | notified (bytes : Bytes) (answer : Except LinkError Unit) (disturbed : Bool)
  | slept (time : Nat) (disturbed : Bool)
  | readFree (bytes : Nat)
  | asked (pool : Pool) (size : Nat) (granted : Bool)
  deriving DecidableEq

namespace Call

/-- The notification goes out, the reading is no emergency, and nobody disturbs. -/
def Favours (emergency : Nat) : Call → Prop
  | .notified _ answer disturbed => answer = .ok () ∧ disturbed = false
  | .slept _ disturbed => disturbed = false
  | .readFree bytes => emergency ≤ bytes
  | .asked _ _ _ => True

instance (emergency : Nat) : DecidablePred (Call.Favours emergency)
  | .notified _ answer disturbed =>
    inferInstanceAs (Decidable (answer = .ok () ∧ disturbed = false))
  | .slept _ disturbed => inferInstanceAs (Decidable (disturbed = false))
  | .readFree bytes => inferInstanceAs (Decidable (emergency ≤ bytes))
  | .asked _ _ _ => inferInstanceAs (Decidable True)

def notified? : Call → Option Bytes
  | .notified bytes _ _ => some bytes
  | .slept _ _ => none
  | .readFree _ => none
  | .asked _ _ _ => none

def reading? : Call → Option Nat
  | .readFree bytes => some bytes
  | .notified _ _ _ => none
  | .slept _ _ => none
  | .asked _ _ _ => none

end Call

variable {W H α β : Type}

namespace Act

/-- Run a procedure in a world with a diary, and write nothing. -/
def lift {E : Type} (act : Act W H α) : Act (Recorded W E) H α :=
  ExceptT.mk fun s =>
    let (result, after) := exec act ⟨s.endpoint, s.world.world⟩
    (result, ⟨after.endpoint, { s.world with world := after.world }⟩)

theorem exec_lift {E : Type} (act : Act W H α) (s : Station (Recorded W E) H) :
    exec (lift act) s =
      ((exec act ⟨s.endpoint, s.world.world⟩).1,
        ⟨(exec act ⟨s.endpoint, s.world.world⟩).2.endpoint,
          { s.world with world := (exec act ⟨s.endpoint, s.world.world⟩).2.world }⟩) := rfl

theorem returns_lift {E : Type} {act : Act W H α} {s : Station (Recorded W E) H}
    {known : α → Station W H → Prop}
    (returns : Returns act ⟨s.endpoint, s.world.world⟩ known) :
    Returns (lift act) s fun a after =>
      known a ⟨after.endpoint, after.world.world⟩ ∧ after.world.diary = s.world.diary := by
  obtain ⟨a, after, returned, holds⟩ := returns
  refine ⟨a, ⟨after.endpoint, { s.world with world := after.world }⟩, ?_, holds, rfl⟩
  rw [exec_lift, returned]

end Act

open Act

/-- The ports, with every call that sending makes written down. -/
def Ports.logged (ports : Ports W H) : Ports (Recorded W Call) H where
  notify bytes := do
    let answer ← lift (ports.notify bytes)
    note [.notified bytes answer (← endpoint).disturbed]
    return answer
  requestMtu mtu := lift (ports.requestMtu mtu)
  restartAdvertising := lift ports.restartAdvertising
  mtu recorded := ports.mtu recorded.world
  now recorded := ports.now recorded.world
  sleep time := do
    lift (ports.sleep time)
    note [.slept time (← endpoint).disturbed]
  randomBelow bound := lift (ports.randomBelow bound)
  freeBytes := do
    let free ← lift ports.freeBytes
    note [.readFree free]
    return free
  minFreeBytes recorded := ports.minFreeBytes recorded.world
  allocate pool size := do
    let granted ← lift (ports.allocate pool size)
    note [.asked pool size granted]
    return granted
  handle handler parsed := lift (ports.handle handler parsed)
  hasTelemetry recorded := ports.hasTelemetry recorded.world
  nextTelemetry := lift ports.nextTelemetry
  rounds := ports.rounds

/-- What the ports of a device keep to: they come back, settings stay as they are, the clock
moves by what is slept and by nothing else, and whoever looks at the memory or asks for some
leaves the endpoint and the link alone. -/
structure Ports.Orderly (ports : Ports W H) : Prop where
  notify : ∀ bytes s, Returns (ports.notify bytes) s fun _ t =>
    t.endpoint.settings = s.endpoint.settings ∧ ports.now t.world = ports.now s.world
  sleep : ∀ time s, Returns (ports.sleep time) s fun _ t =>
    t.endpoint.settings = s.endpoint.settings ∧ ports.now t.world = ports.now s.world + time
  freeBytes : ∀ s, Returns ports.freeBytes s fun _ t => t.endpoint = s.endpoint ∧
    ports.mtu t.world = ports.mtu s.world ∧ ports.now t.world = ports.now s.world
  allocate : ∀ pool size s, Returns (ports.allocate pool size) s fun _ t =>
    t.endpoint = s.endpoint ∧ ports.mtu t.world = ports.mtu s.world ∧
      ports.now t.world = ports.now s.world

/-- A stretch of a run in which these calls were made. -/
structure Stretch (s t : Station (Recorded W Call) H) (calls : List Call) : Prop where
  settings : t.endpoint.settings = s.endpoint.settings
  diary : t.world.diary = s.world.diary ++ calls

namespace Stretch

variable {s t u : Station (Recorded W Call) H} {calls later : List Call}

theorem refl (s : Station (Recorded W Call) H) : Stretch s s [] := ⟨rfl, by simp⟩

theorem trans (there : Stretch s t calls) (further : Stretch t u later) :
    Stretch s u (calls ++ later) :=
  ⟨further.settings.trans there.settings,
    by rw [further.diary, there.diary, List.append_assoc]⟩

/-- No port is called for a change of the books. -/
theorem still (there : Stretch s t calls) {endpoint : Endpoint H}
    (settings : endpoint.settings = t.endpoint.settings) :
    Stretch s { t with endpoint } calls :=
  ⟨settings.trans there.settings, there.diary⟩

end Stretch

/-- A stretch in which memory was looked at and asked for: nothing went out, no time passed,
and what is sent is cut as before. -/
structure Prepared (ports : Ports W H) (s t : Station (Recorded W Call) H) (calls : List Call) :
    Prop where
  stretch : Stretch s t calls
  unit : ports.mtu t.world.world = ports.mtu s.world.world
  clock : ports.now t.world.world = ports.now s.world.world
  state : t.endpoint.state = s.endpoint.state
  disturbed : t.endpoint.disturbed = s.endpoint.disturbed
  silent : calls.filterMap Call.notified? = []

theorem Prepared.trans {ports : Ports W H} {s t u : Station (Recorded W Call) H}
    {calls later : List Call} (first : Prepared ports s t calls)
    (second : Prepared ports t u later) : Prepared ports s u (calls ++ later) where
  stretch := first.stretch.trans second.stretch
  unit := second.unit.trans first.unit
  clock := second.clock.trans first.clock
  state := second.state.trans first.state
  disturbed := second.disturbed.trans first.disturbed
  silent := by simp [first.silent, second.silent]

/-- The books may change meanwhile. -/
theorem Prepared.still {ports : Ports W H} {s t : Station (Recorded W Call) H} {calls : List Call}
    (there : Prepared ports s t calls) {endpoint : Endpoint H}
    (settings : endpoint.settings = t.endpoint.settings)
    (state : endpoint.state = t.endpoint.state)
    (disturbed : endpoint.disturbed = t.endpoint.disturbed) :
    Prepared ports s { t with endpoint } calls where
  stretch := there.stretch.still settings
  unit := there.unit
  clock := there.clock
  state := state.trans there.state
  disturbed := disturbed.trans there.disturbed
  silent := there.silent

/-- A stretch of a run, whichever calls were made. -/
def Onward (s t : Station (Recorded W Call) H) : Prop := ∃ calls, Stretch s t calls

theorem onward_bookless : Bookless (Onward (W := W) (H := H)) where
  refl s := ⟨[], .refl s⟩
  trans := by
    rintro s t u ⟨calls, there⟩ ⟨later, further⟩
    exact ⟨calls ++ later, there.trans further⟩
  books s endpoint same := by
    have settings := congrArg Endpoint.settings same
    exact ⟨[], (Stretch.refl s).still settings⟩

/-! ## What each call does -/

namespace Ports.Orderly

variable {ports : Ports W H} (orderly : ports.Orderly)

include orderly

theorem logged_notify (bytes : Bytes) (s : Station (Recorded W Call) H) :
    Returns (ports.logged.notify bytes) s fun answer t =>
      Stretch s t [.notified bytes answer t.endpoint.disturbed] ∧
        ports.now t.world.world = ports.now s.world.world := by
  refine (returns_lift (orderly.notify bytes _)).bind fun answer t known => ?_
  obtain ⟨⟨settings, clock⟩, silent⟩ := known
  refine returns_endpoint (returns_note (returns_pure ⟨⟨settings, ?_⟩, clock⟩))
  simp [Station.record, silent]

theorem logged_sleep (time : Nat) (s : Station (Recorded W Call) H) :
    Returns (ports.logged.sleep time) s fun _ t =>
      Stretch s t [.slept time t.endpoint.disturbed] ∧
        ports.now t.world.world = ports.now s.world.world + time := by
  refine (returns_lift (orderly.sleep time _)).bind fun _ t known => ?_
  obtain ⟨⟨settings, clock⟩, silent⟩ := known
  refine returns_endpoint ⟨(), _, rfl, ⟨settings, ?_⟩, clock⟩
  simp [silent]

theorem logged_freeBytes (s : Station (Recorded W Call) H) :
    Returns ports.logged.freeBytes s fun free t =>
      Prepared ports s t [.readFree free] ∧ t.endpoint = s.endpoint := by
  refine (returns_lift (orderly.freeBytes _)).bind fun free t known => ?_
  obtain ⟨⟨same, unit, clock⟩, silent⟩ := known
  refine returns_note (returns_pure ⟨⟨⟨congrArg Endpoint.settings same, ?_⟩, unit, clock,
    congrArg Endpoint.state same, congrArg Endpoint.disturbed same, rfl⟩, same⟩)
  simp [Station.record, silent]

theorem logged_allocate (pool : Pool) (size : Nat) (s : Station (Recorded W Call) H) :
    Returns (ports.logged.allocate pool size) s fun granted t =>
      Prepared ports s t [.asked pool size granted] ∧ t.endpoint = s.endpoint := by
  refine (returns_lift (orderly.allocate pool size _)).bind fun granted t known => ?_
  obtain ⟨⟨same, unit, clock⟩, silent⟩ := known
  refine returns_note (returns_pure ⟨⟨⟨congrArg Endpoint.settings same, ?_⟩, unit, clock,
    congrArg Endpoint.state same, congrArg Endpoint.disturbed same, rfl⟩, same⟩)
  simp [Station.record, silent]

theorem within_onward : ports.logged.Within Onward where
  notify bytes s := (orderly.logged_notify bytes s).mono fun _ _ known => ⟨_, known.1⟩
  sleep time s := (orderly.logged_sleep time s).mono fun _ _ known => ⟨_, known.1⟩
  freeBytes s := (orderly.logged_freeBytes s).mono fun _ _ known => ⟨_, known.1.stretch⟩
  allocate pool size s :=
    (orderly.logged_allocate pool size s).mono fun _ _ known => ⟨_, known.1.stretch⟩

end Ports.Orderly

/-! ## Runs that go well -/

/-- All calls go well. -/
def Favours (emergency : Nat) (calls : List Call) : Prop :=
  ∀ call ∈ calls, call.Favours emergency

theorem favours_append {emergency : Nat} {calls later : List Call} :
    Favours emergency (calls ++ later) ↔ Favours emergency calls ∧ Favours emergency later :=
  List.forall_mem_append

/-- A procedure comes back, and if its calls go well, then `good` is known. -/
def Smooth (emergency : Nat) (act : Act (Recorded W Call) H α) (s : Station (Recorded W Call) H)
    (good : α → Station (Recorded W Call) H → List Call → Prop) : Prop :=
  Returns act s fun a t => ∃ calls, Stretch s t calls ∧ (Favours emergency calls → good a t calls)

theorem Smooth.mono {emergency : Nat} {act : Act (Recorded W Call) H α}
    {s : Station (Recorded W Call) H}
    {good better : α → Station (Recorded W Call) H → List Call → Prop}
    (smooth : Smooth emergency act s good)
    (enough : ∀ a t calls, good a t calls → better a t calls) :
    Smooth emergency act s better :=
  Returns.mono smooth fun a t ⟨calls, there, well⟩ =>
    ⟨calls, there, fun favours => enough a t calls (well favours)⟩

/-- A procedure that follows a change of the books. -/
theorem Smooth.behind {emergency : Nat} {act : Act (Recorded W Call) H α}
    {s : Station (Recorded W Call) H} {good : α → Station (Recorded W Call) H → List Call → Prop}
    {endpoint : Endpoint H} (settings : endpoint.settings = s.endpoint.settings)
    (smooth : Smooth emergency act { s with endpoint } good) :
    Returns act { s with endpoint } fun a t =>
      ∃ calls, Stretch s t calls ∧ (Favours emergency calls → good a t calls) :=
  Returns.mono smooth fun _ _ ⟨calls, there, well⟩ =>
    ⟨calls, ((Stretch.refl s).still settings).trans there, well⟩

theorem Smooth.discard {emergency : Nat} {act : Act (Recorded W Call) H α}
    {s : Station (Recorded W Call) H} {good : Station (Recorded W Call) H → List Call → Prop}
    (smooth : Smooth emergency act s fun _ t calls => good t calls) :
    Smooth emergency (discard act) s fun _ t calls => good t calls :=
  Returns.discard smooth

/-- When the first part goes badly nothing is asked of the second but to come back. -/
theorem Smooth.bind {emergency : Nat} {act : Act (Recorded W Call) H α}
    {next : α → Act (Recorded W Call) H β} {s : Station (Recorded W Call) H}
    {between : α → Station (Recorded W Call) H → List Call → Prop}
    {good : β → Station (Recorded W Call) H → List Call → Prop}
    (first : Smooth emergency act s between)
    (onward : ∀ a, Act.Within Onward (next a))
    (second : ∀ a t calls, between a t calls →
      Smooth emergency (next a) t fun b u later => good b u (calls ++ later)) :
    Smooth emergency (act >>= next) s good := by
  refine Returns.bind first fun a t known => ?_
  obtain ⟨calls, there, well⟩ := known
  -- The calls of the second part cannot mend those of the first.
  by_cases favours : Favours emergency calls
  · refine Returns.mono (second a t calls (well favours)) fun b u also => ?_
    obtain ⟨later, further, done⟩ := also
    exact ⟨calls ++ later, there.trans further, fun all => done (favours_append.mp all).2⟩
  · refine (onward a t).mono fun b u also => ?_
    obtain ⟨later, further⟩ := also
    exact ⟨calls ++ later, there.trans further, fun all => absurd (favours_append.mp all).1 favours⟩

end CommandLink
