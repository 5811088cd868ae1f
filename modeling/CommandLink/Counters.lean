import CommandLink.Json.Basic

/-!
# Counters of a connection

What happened on the link since the peer connected, in the order in which it is
published. The byte counts stop at the largest value of 32 bits. Depth, peak
and unit are gauges.

The other counters are words of 32 bits as well, but nothing stops them there.
Here they have no limit, which is the same as long as fewer than 2^32 events
are counted between two resets. For the counters of the negotiation
`Proofs.NarrowNumbers` says what happens at the next one.

Anything that shows counters is written over the list `Counters.fields`.
-/

namespace CommandLink

structure Counters where
  fragmentsReceived : Nat := 0
  bytesReceived : Nat := 0
  /-- Complete commands that were handed to the queue. -/
  commandsQueued : Nat := 0
  /-- Commands that were taken off the queue and processed to their end. -/
  commandsProcessed : Nat := 0
  framingErrors : Nat := 0
  /-- Faults that found no place to wait for their report. -/
  reportsDropped : Nat := 0
  staleClears : Nat := 0
  parseErrors : Nat := 0
  /-- Commands waiting in the queue. -/
  queueDepth : Nat := 0
  /-- The most commands that waited at one time. -/
  queuePeak : Nat := 0
  /-- Commands that found the queue full. -/
  queueDrops : Nat := 0
  fragmentsSent : Nat := 0
  bytesSent : Nat := 0
  transmissionsCompleted : Nat := 0
  transmissionsFailed : Nat := 0
  cancellations : Nat := 0
  lockTimeouts : Nat := 0
  lowMemoryChunks : Nat := 0
  secondaryAllocs : Nat := 0
  negotiationAttempts : Nat := 0
  negotiationTimeouts : Nat := 0
  negotiationFailures : Nat := 0
  /-- The unit that the last negotiation ended with. -/
  negotiatedMtu : Nat := 0
  deriving DecidableEq, Repr

namespace Counters

/-- The largest byte count. -/
def byteLimit : Nat := 0xFFFFFFFF

/-- Add to a byte count. -/
def addBytes (count bytes : Nat) : Nat := min (count + bytes) byteLimit

/-- One counter: its name, and how to read and replace it. -/
structure Field where
  name : String
  get : Counters → Nat
  put : Nat → Counters → Counters

def fields : List Field := [
  ⟨"fragments_received", (·.fragmentsReceived), fun n c => { c with fragmentsReceived := n }⟩,
  ⟨"bytes_received", (·.bytesReceived), fun n c => { c with bytesReceived := n }⟩,
  ⟨"commands_queued", (·.commandsQueued), fun n c => { c with commandsQueued := n }⟩,
  ⟨"commands_processed", (·.commandsProcessed), fun n c => { c with commandsProcessed := n }⟩,
  ⟨"framing_errors", (·.framingErrors), fun n c => { c with framingErrors := n }⟩,
  ⟨"reports_dropped", (·.reportsDropped), fun n c => { c with reportsDropped := n }⟩,
  ⟨"stale_clears", (·.staleClears), fun n c => { c with staleClears := n }⟩,
  ⟨"parse_errors", (·.parseErrors), fun n c => { c with parseErrors := n }⟩,
  ⟨"queue_depth", (·.queueDepth), fun n c => { c with queueDepth := n }⟩,
  ⟨"queue_peak", (·.queuePeak), fun n c => { c with queuePeak := n }⟩,
  ⟨"queue_drops", (·.queueDrops), fun n c => { c with queueDrops := n }⟩,
  ⟨"fragments_sent", (·.fragmentsSent), fun n c => { c with fragmentsSent := n }⟩,
  ⟨"bytes_sent", (·.bytesSent), fun n c => { c with bytesSent := n }⟩,
  ⟨"transmissions_completed", (·.transmissionsCompleted), fun n c => { c with transmissionsCompleted := n }⟩,
  ⟨"transmissions_failed", (·.transmissionsFailed), fun n c => { c with transmissionsFailed := n }⟩,
  ⟨"cancellations", (·.cancellations), fun n c => { c with cancellations := n }⟩,
  ⟨"lock_timeouts", (·.lockTimeouts), fun n c => { c with lockTimeouts := n }⟩,
  ⟨"low_memory_chunks", (·.lowMemoryChunks), fun n c => { c with lowMemoryChunks := n }⟩,
  ⟨"secondary_pool_allocs", (·.secondaryAllocs), fun n c => { c with secondaryAllocs := n }⟩,
  ⟨"negotiation_attempts", (·.negotiationAttempts), fun n c => { c with negotiationAttempts := n }⟩,
  ⟨"negotiation_timeouts", (·.negotiationTimeouts), fun n c => { c with negotiationTimeouts := n }⟩,
  ⟨"negotiation_failures", (·.negotiationFailures), fun n c => { c with negotiationFailures := n }⟩,
  ⟨"negotiated_mtu", (·.negotiatedMtu), fun n c => { c with negotiatedMtu := n }⟩]

/-- Raise the counter called `name`, if there is one. -/
def add (name : String) (n : Nat) (counters : Counters) : Counters :=
  match fields.find? (·.name == name) with
  | some field => field.put (field.get counters + n) counters
  | none => counters

/-- The counters that differ from `before`, with their values. -/
def changes (before counters : Counters) : List (String × Nat) :=
  (fields.filter fun field => field.get before != field.get counters).map
    fun field => (field.name, field.get counters)

def toJson (counters : Counters) : Json :=
  .object (fields.map fun field => (field.name, Json.ofNat (field.get counters)))

end Counters

/-! ## Shared counters -/

/-- Counters behind a lock. An update that meets the lock held is skipped: the
counters inform, they do not steer. -/
structure CounterHub where
  counters : Counters := {}
  held : Bool := false
  deriving DecidableEq, Repr

namespace CounterHub

/-- Change the counters; returns whether the lock was free. -/
def update (change : Counters → Counters) (hub : CounterHub) : Bool × CounterHub :=
  if hub.held then (false, hub) else (true, { hub with counters := change hub.counters })

def snapshot (hub : CounterHub) : Option Counters := if hub.held then none else some hub.counters

def reset (hub : CounterHub) : Bool × CounterHub := hub.update fun _ => {}

end CounterHub

end CommandLink
