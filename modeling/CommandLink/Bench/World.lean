import CommandLink.Bench.Script
import CommandLink.Endpoint.Monitoring
import CommandLink.Simulation.Heap
import CommandLink.Simulation.Radio

/-!
# The world of a bench

The clock moves only when someone sleeps or the script advances it. The radio
either keeps to its unit or takes everything while a peer is connected. Memory
is either a simulated heap or a fixed reading with two pools that work or not.
All that happens is logged.
-/

namespace CommandLink.Bench

/-- Notifications that are going to be refused. -/
structure Refusal where
  accept : Nat
  refuse : Nat
  code : Int
  deriving DecidableEq, Repr

structure Hook where
  occasion : Occasion
  /-- Occasions until the hook fires. -/
  countdown : Nat
  steps : List Step

inductive Memory where
  | pinned (free : Nat) (primaryFails secondaryFails : Bool)
  | simulated (heap : Heap)
  deriving DecidableEq, Repr

structure Publication where
  time : Nat
  /-- The publications of the same sink so far, this one included. -/
  number : Nat
  link : LinkState
  line : String
  counters : Counters

/-- What happened during a step, latest first. -/
structure Log where
  sent : List (Nat × Bytes) := []
  commands : List (String × Bool) := []
  inner : List (Nat × Result) := []
  allocations : List (Pool × Nat) := []
  published : List Publication := []
  requests : List UInt16 := []

structure World where
  clock : Nat
  radio : Radio := {}
  /-- Whether the radio refuses what its unit cannot carry. -/
  keepsUnit : Bool
  /-- The unit that the peer grants when it is asked. -/
  grant : Option UInt16 := none
  reject : Option Int := none
  refusal : Option Refusal := none
  memory : Memory
  /-- Readings of the free memory that come before the true one. -/
  readings : List Nat := []
  telemetry : List Json := []
  /-- Whether the telemetry source claims to have data when it has none. -/
  phantom : Bool := false
  events : EventRing := {}
  hooks : List Hook := []
  /-- Pauses until the endpoint is told to stop; zero if no pause tells it. -/
  sleepsLeft : Nat := 0
  /-- How often each sink has published. -/
  sinks : List Nat := []
  log : Log := {}

abbrev Run := Act World Handler

def Run.log (change : Log → Log) : Run Unit :=
  Act.modifyWorld fun world => { world with log := change world.log }

namespace World

/-- Count down the hooks of an occasion and take out those that are due. -/
def dueHooks (occasion : Occasion) (world : World) : List (List Step) × World :=
  let counted := world.hooks.map fun hook =>
    if hook.occasion = occasion then { hook with countdown := hook.countdown - 1 } else hook
  let (due, waiting) := counted.partition fun hook =>
    hook.occasion = occasion && hook.countdown = 0
  (due.map (·.steps), { world with hooks := waiting })

/-- What the radio says to a notification. -/
def transmit (data : Bytes) (world : World) : Except LinkError World :=
  if world.keepsUnit then
    match world.radio.notify data with
    | .ok radio => .ok { world with radio }
    | .error error => .error error
  else if world.radio.connected then
    .ok world
  else
    .error .notConnected

/-- What the pending refusal says to a notification. -/
def refuse (world : World) : Except LinkError Unit × World :=
  match world.refusal with
  | none => (.ok (), world)
  | some refusal =>
    if 0 < refusal.accept then
      (.ok (), { world with refusal := some { refusal with accept := refusal.accept - 1 } })
    else if 0 < refusal.refuse then
      (.error (.stack refusal.code),
        { world with refusal := some { refusal with refuse := refusal.refuse - 1 } })
    else
      (.ok (), world)

def free (world : World) : Nat :=
  match world.memory with
  | .pinned free _ _ => free
  | .simulated heap => heap.free

def minFree (world : World) : Nat :=
  match world.memory with
  | .pinned free _ _ => free
  | .simulated heap => heap.minFree

def setFree (bytes : Nat) (world : World) : World :=
  match world.memory with
  | .pinned _ primary secondary => { world with memory := .pinned bytes primary secondary }
  | .simulated heap => { world with memory := .simulated (heap.setFree bytes) }

def failAllocation (primary secondary : Bool) (world : World) : World :=
  match world.memory with
  | .pinned free _ _ => { world with memory := .pinned free primary secondary }
  | .simulated _ => world

/-- Read the free memory. -/
def readFree (world : World) : Nat × World :=
  match world.readings with
  | reading :: rest => (reading, { world with readings := rest })
  | [] => (world.free, world)

def allocate (pool : Pool) (size : Nat) (world : World) : Bool × World :=
  match world.memory, pool with
  | .pinned _ fails _, .primary => (!fails, world)
  | .pinned _ _ fails, .secondary => (!fails, world)
  | .simulated heap, _ =>
    let (block, heap) := heap.allocate size
    (block.isSome, { world with memory := .simulated heap })

end World

namespace Run

open Act

def stepWorld {α : Type} (change : World → α × World) : Run α := do
  let (result, after) := change (← world)
  modifyWorld fun _ => after
  return result

/-- Let the hooks of an occasion fire. -/
def fire (run : List Step → Run Unit) (occasion : Occasion) : Run Unit := do
  for steps in ← stepWorld (·.dueHooks occasion) do
    run steps

/-- Note a notification, unless the radio or the pending refusal says no. -/
def record (data : Bytes) : Run (Except LinkError Unit) := do
  match (← world).transmit data with
  | .error error => return .error error
  | .ok after =>
    modifyWorld fun _ => after
    match ← stepWorld (·.refuse) with
    | .error error => return .error error
    | .ok () =>
      let time := (← world).clock
      log fun log => { log with sent := (time, data) :: log.sent }
      return .ok ()

def notify (run : List Step → Run Unit) (data : Bytes) : Run (Except LinkError Unit) := do
  match ← record data with
  | .error error => return .error error
  | .ok () =>
    -- Only what went out is an occasion for hooks.
    fire run .notify
    return .ok ()

def requestMtu (run : List Step → Run Unit) (mtu : UInt16) : Run (Except LinkError Unit) := do
  log fun log => { log with requests := mtu :: log.requests }
  fire run .request
  let world ← world
  match world.reject with
  | some code => return .error (.stack code)
  | none =>
    let radio := (world.grant.map world.radio.setMtu).getD world.radio
    modifyWorld fun world => { world with radio := radio.requestMtu mtu }
    return .ok ()

/-- Count a pause against those that are left; returns whether it was the last. -/
def countSleep (world : World) : Bool × World :=
  match world.sleepsLeft with
  | 0 => (false, world)
  | left + 1 => (left = 0, { world with sleepsLeft := left })

def sleep (run : List Step → Run Unit) (stop : Run Unit) (time : Nat) : Run Unit := do
  modifyWorld fun world => { world with clock := world.clock + time }
  fire run .sleep
  if ← stepWorld countSleep then stop

def allocate (pool : Pool) (size : Nat) : Run Bool := do
  log fun log => { log with allocations := (pool, size) :: log.allocations }
  stepWorld (·.allocate pool size)

def nextTelemetry : Run (Option Json) :=
  stepWorld fun world =>
    match world.telemetry with
    | [] => (none, world)
    | document :: rest => (some document, { world with telemetry := rest })

/-- A new place to publish counters. -/
def newSink : Run (Sink World Handler) := do
  let index := (← world).sinks.length
  modifyWorld fun world => { world with sinks := world.sinks ++ [0] }
  return fun counters link => do
    modifyWorld fun world => { world with sinks := world.sinks.modify index (· + 1) }
    let world ← world
    let publication :=
      {
        time := world.clock
        number := world.sinks.getD index 0
        link
        line := logLine counters link
        counters
      }
    log fun log => { log with published := publication :: log.published }

end Run

end CommandLink.Bench
