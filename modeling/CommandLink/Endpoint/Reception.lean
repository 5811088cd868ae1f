import CommandLink.Endpoint.Basic

/-!
# Receiving

What fragments and changes of the link do to an endpoint. These steps never
wait: they run while the link delivers, one at a time, and all that takes time
is left to others. Complete commands and faults are queued, and what finds a
queue full is lost and counted.
-/

namespace CommandLink.Endpoint

variable {H : Type}

/-- Queue a complete command. -/
def dispatch (command : Command) (endpoint : Endpoint H) : Except QueueError Unit × Endpoint H :=
  match endpoint.commands.offer? command with
  | some commands =>
    let depth := commands.size
    (.ok (), { endpoint with commands }.count fun c =>
      { c with
        commandsQueued := c.commandsQueued + 1
        queueDepth := depth
        queuePeak := max c.queuePeak depth })
  | none =>
    (.error .full, endpoint.count fun c => { c with queueDrops := c.queueDrops + 1 })

/-- Note a fault for a later report; returns whether there was a place for it. -/
def report (fault : Fault) (endpoint : Endpoint H) : Bool × Endpoint H :=
  match endpoint.faults.offer? fault with
  | some faults => (true, { endpoint with faults })
  | none =>
    (false, endpoint.count fun c => { c with reportsDropped := c.reportsDropped + 1 })

def countFragment (size : Nat) (endpoint : Endpoint H) : Endpoint H :=
  endpoint.count fun c =>
    { c with
      fragmentsReceived := c.fragmentsReceived + 1
      bytesReceived := Counters.addBytes c.bytesReceived size }

/-- Act on what a fragment did to the reassembly. -/
def settle (outcome : Reassembly.Outcome) (endpoint : Endpoint H) : Endpoint H :=
  match outcome with
  | .started => endpoint
  | .buffered => endpoint
  | .emptyCommand => endpoint
  | .dropped => endpoint
  | .cancelled => { endpoint with cancelRequested := true }
  | .overflow _ =>
    ((endpoint.count fun c => { c with framingErrors := c.framingErrors + 1 }).report .overflow).2
  | .allocFailed _ => (endpoint.report .noMemory).2
  | .complete command => (endpoint.dispatch command).2

/-- Take a fragment that arrived at `now`. Returns what it did; only a request
to cancel is owed an answer. -/
def receive (refuses : Nat → Bool) (fragment : Bytes) (now : Nat) (endpoint : Endpoint H) :
    Reassembly.Outcome × Endpoint H :=
  let counted := endpoint.countFragment fragment.length
  let (report, reassembly) := counted.reassembly.push refuses fragment now
  let taken := { counted with reassembly }
  let told :=
    if report.stale then taken.count fun c => { c with staleClears := c.staleClears + 1 } else taken
  (report.outcome, told.settle report.outcome)

/-- A peer connects: nothing of the connection before it is left. -/
def linkUp (endpoint : Endpoint H) : Endpoint H :=
  { endpoint with
    counters := {}
    faults := .empty
    reassembly := endpoint.reassembly.discard.2 }

/-- The peer is gone: an unfinished command is dropped. -/
def linkDown (endpoint : Endpoint H) : Endpoint H :=
  { endpoint with reassembly := endpoint.reassembly.discard.2 }

end CommandLink.Endpoint
