import CommandLink.Endpoint.Negotiating

/-!
# Monitoring

The monitor checks the negotiation at every tick and publishes the counters
every so many ticks. Where they are published is a parameter; `logLine` is the
form in which they are logged.
-/

namespace CommandLink

/-- The counters as one line for the log. -/
def logLine (c : Counters) (link : LinkState) : String :=
  String.join [
    "METRICS | link=", link.name, " mtu=", toString c.negotiatedMtu,
    " | rx=", toString c.fragmentsReceived, "f/", toString c.bytesReceived,
    "B cmds=", toString c.commandsQueued, "/", toString c.commandsProcessed,
    " | q=", toString c.queueDepth, "/", toString c.queuePeak,
    " drops=", toString c.queueDrops,
    " | tx=", toString c.fragmentsSent, "f/", toString c.bytesSent,
    "B ok=", toString c.transmissionsCompleted, " fail=", toString c.transmissionsFailed,
    " cancel=", toString c.cancellations,
    " | errs frame=", toString c.framingErrors, " parse=", toString c.parseErrors,
    " stale=", toString c.staleClears,
    " | busy=", toString c.lockTimeouts, " lowmem=", toString c.lowMemoryChunks,
    " pool2=", toString c.secondaryAllocs,
    " | neg att=", toString c.negotiationAttempts, " to=", toString c.negotiationTimeouts,
    " fail=", toString c.negotiationFailures]

variable {W H : Type} (ports : Ports W H)

open Act

/-- Where counters are published. -/
abbrev Sink (W H : Type) := Counters → LinkState → Act W H Unit

def publish (sink : Sink W H) : Act W H Unit := do
  let endpoint ← endpoint
  sink endpoint.counters endpoint.state

/-- One round of the monitor; returns the ticks since the last publication. -/
def monitorRound (sink : Sink W H) (ticks : Nat) : Act W H Nat := do
  discard (monitorTick ports)
  let ticks := ticks + 1
  let ticks ←
    if max (← endpoint).settings.publishTicks.toNat 1 ≤ ticks then
      publish sink
      pure 0
    else
      pure ticks
  ports.sleep (← endpoint).settings.monitorInterval.toNat
  return ticks

def runMonitorWithin (sink : Sink W H) : Nat → Nat → Act W H Unit
  | 0, _ => pure ()
  | rounds + 1, ticks => do
    if (← endpoint).stopping then
      pure ()
    else
      let ticks ← monitorRound ports sink ticks
      runMonitorWithin sink rounds ticks

/-- Check and publish until the endpoint stops. -/
def runMonitor (sink : Sink W H) : Act W H Unit := runMonitorWithin ports sink ports.rounds 0

end CommandLink
