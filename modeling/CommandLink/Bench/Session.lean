import CommandLink.Bench.Levels
import CommandLink.Bench.Perform

/-!
# Sessions

A session runs a script on a fresh endpoint and reports, for each step, what it
came to, what happened in the world meanwhile, and what has changed since the
step before.
-/

namespace CommandLink.Bench

open Act

/-- Bounds the rounds of a loop. -/
def maxRounds : Nat := 10000000

/-- What a crashing handler says. -/
def crashMessage : String := "handler blew up"

/-- Let the handler of the bench have a command. -/
def handleCommand (ports : Ports World Handler) (run : List Step → Run Unit) (reply : Handler)
    (command : Json) : Run Unit := do
  let priority := (← endpoint).priority
  Run.log fun log => { log with commands := (command.render, priority) :: log.commands }
  match reply with
  | .silent => pure ()
  | .ok =>
    let kind := ((command.field? "type").bind Json.text?).getD "unknown"
    discard (sendOk ports kind)
  | .echo => discard (sendResponse ports (Document.ofJson command))
  | .perform steps => run steps
  | .crash => throw ⟨crashMessage⟩

/-- What happens in the middle of a call. -/
structure Inside where
  perform : List Step → Run Unit
  stop : Run Unit
  handle : Handler → Json → Run Unit

def Inside.nothing : Inside := ⟨fun _ => pure (), pure (), fun _ _ => pure ()⟩

def Inside.performing (ports : Ports World Handler) : Inside :=
  ⟨performInner ports, discard (shutdown ports 0), handleCommand ports (performInner ports)⟩

def portsWith (inside : Inside) : Ports World Handler :=
  {
    notify := Run.notify inside.perform
    requestMtu := Run.requestMtu inside.perform
    restartAdvertising :=
      modifyWorld fun world => { world with radio := world.radio.advertise }
    mtu := fun world => world.radio.mtu
    now := fun world => world.clock
    sleep := Run.sleep inside.perform inside.stop
    randomBelow := fun _ => return 0
    freeBytes := Run.stepWorld (·.readFree)
    minFreeBytes := World.minFree
    allocate := Run.allocate
    handle := inside.handle
    hasTelemetry := fun world => !world.telemetry.isEmpty || world.phantom
    nextTelemetry := Run.nextTelemetry
    rounds := maxRounds
  }

/-- The ports of a session with so many levels below them. -/
def ports : Nat → Ports World Handler :=
  nested (fun below => portsWith (.performing below)) (portsWith .nothing)

/-! ## Reports -/

/-- What can be seen of a station from outside. -/
structure Observation where
  clock : Nat
  link : LinkState
  chunk : Nat
  queued : Nat
  streaming : Bool
  cancelled : Bool
  priority : Bool
  inFlight : Nat
  stopping : Bool
  adverts : Nat
  connected : Bool
  mtu : UInt16
  counters : Counters
  deriving DecidableEq, Repr

def observe (station : Station World Handler) : Observation :=
  let endpoint := station.endpoint
  let world := station.world
  {
    clock := world.clock
    link := endpoint.state
    chunk := endpoint.chunkSize world.radio.mtu
    queued := endpoint.commands.size
    streaming := endpoint.streaming
    cancelled := endpoint.cancelRequested
    priority := endpoint.priority
    inFlight := endpoint.inFlight
    stopping := endpoint.stopping
    adverts := world.radio.adverts
    connected := world.radio.connected
    mtu := world.radio.mtu
    counters := endpoint.counters
  }

/-- One thing that looks different from before. -/
inductive Change where
  | clock (time : Nat)
  | link (state : LinkState)
  | chunk (size : Nat)
  | queued (count : Nat)
  | streaming (on : Bool)
  | cancelled (on : Bool)
  | priority (on : Bool)
  | inFlight (count : Nat)
  | stopping (on : Bool)
  | adverts (count : Nat)
  | connected (on : Bool)
  | mtu (unit : UInt16)
  | counters (changed : List (String × Nat))
  deriving DecidableEq, Repr

/-- The changes from one observation to the next. -/
def Observation.changes (before now : Observation) : List Change :=
  [
    changed (·.clock) .clock,
    changed (·.link) .link,
    changed (·.chunk) .chunk,
    changed (·.queued) .queued,
    changed (·.streaming) .streaming,
    changed (·.cancelled) .cancelled,
    changed (·.priority) .priority,
    changed (·.inFlight) .inFlight,
    changed (·.stopping) .stopping,
    changed (·.adverts) .adverts,
    changed (·.connected) .connected,
    changed (·.mtu) .mtu,
    changed (·.counters) fun counters => .counters (before.counters.changes counters)
  ].filterMap id
where
  changed {α : Type} [DecidableEq α] (view : Observation → α) (change : α → Change) :
      Option Change :=
    if view before = view now then none else some (change (view now))

structure Report where
  result : Except Crash Result
  log : Log
  changes : List Change

/-- A log in the order in which things happened. -/
def Log.inOrder (log : Log) : Log :=
  {
    sent := log.sent.reverse
    commands := log.commands.reverse
    inner := log.inner.reverse
    allocations := log.allocations.reverse
    published := log.published.reverse
    requests := log.requests.reverse
  }

def report (ports : Ports World Handler) (step : Step) (station : Station World Handler) :
    Report × Station World Handler :=
  let quiet := { station with world := { station.world with log := {} } }
  let (result, after) := (perform ports step).run.run quiet
  let changes := (observe station).changes (observe after)
  (⟨result, after.world.log.inOrder, changes⟩, after)

def reports (ports : Ports World Handler) :
    List Step → Station World Handler → List Report
  | [], _ => []
  | step :: rest, station =>
    let (first, after) := report ports step station
    first :: reports ports rest after

structure Session where
  settings : Settings
  start : Nat
  /-- Whether the radio refuses what its unit cannot carry. -/
  keepsUnit : Bool
  /-- Whether memory is a simulated heap. -/
  simulatesHeap : Bool
  steps : List Step

/-- The free memory of a bench without a simulated heap. -/
def pinnedFree : Nat := 262144

def Session.world (session : Session) : World :=
  {
    clock := session.start
    keepsUnit := session.keepsUnit
    memory := if session.simulatesHeap then .simulated {} else .pinned pinnedFree false false
  }

/-- Run a session; senseless settings are refused. -/
def Session.run (session : Session) : Except Failure (List Report) :=
  match Endpoint.create session.settings with
  | .error failure => .error failure
  | .ok endpoint => .ok (reports (ports maxLevels) session.steps ⟨endpoint, session.world⟩)

end CommandLink.Bench
