import CommandLink.Bench.Policy
import CommandLink.Bench.World
import CommandLink.Endpoint.Streaming
import CommandLink.Placement

/-!
# Performing steps

Each step of a script, carried out with given ports. The steps that run inside
others are performed one level further in, where the ports are those of that
level.
-/

namespace CommandLink.Bench

open Act

variable (ports : Ports World Handler)

/-- The peer connects; the first half of the connect runs with it. -/
def linkUp (mtu : UInt16) : Run Unit := do
  modifyWorld fun world => { world with radio := world.radio.connect mtu }
  modifyEndpoint (·.linkUp)

def linkDown : Run Unit := do
  modifyWorld fun world => { world with radio := world.radio.disconnect }
  modifyEndpoint (·.linkDown)

def popEvent : Run (Option LinkEvent) :=
  Run.stepWorld fun world =>
    let (event, events) := world.events.pop
    (event, { world with events })

def pushEvent (event : LinkEvent) : Run Bool :=
  Run.stepWorld fun world =>
    let (noted, events) := world.events.push event
    (noted, { world with events })

/-- Fragments whose copy is never refused. -/
def writeAll (fragments : List Bytes) : Run Unit :=
  fragments.forM (onFragment ports fun _ => false)

def processTimes (wait : Nat) : Nat → Run (List (Option Disposition))
  | 0 => return []
  | times + 1 => do
    let disposition ← processNext ports wait
    return disposition :: (← processTimes wait times)

/-- Run a task that is told to stop at the end of so many pauses; zero sets no
limit. A task that ends earlier takes the limit with it; one that crashes leaves
it behind. -/
def withinSleeps (maxSleeps : Nat) (task : Run Unit) : Run Result := do
  modifyWorld fun world => { world with sleepsLeft := maxSleeps }
  task
  modifyWorld fun world => { world with sleepsLeft := 0 }
  return .nothing

def perform : Step → Run Result
  | .linkUp mtu => do
    linkUp mtu
    return .nothing
  | .onLinkUp => do
    modifyEndpoint (·.linkUp)
    return .nothing
  | .onConnect => do
    onConnect ports
    return .nothing
  | .connect grant mtu => do
    if grant.isSome then modifyWorld fun world => { world with grant }
    linkUp mtu
    onConnect ports
    return .nothing
  | .linkDown => do
    linkDown
    return .nothing
  | .onDisconnect => do
    onDisconnect ports
    return .nothing
  | .disconnect => do
    linkDown
    onDisconnect ports
    return .nothing
  | .tick => return .resolution (← monitorTick ports)
  | .route event => do
    route ports event
    return .nothing
  | .pushEvent event => return .flag (← pushEvent event)
  | .drainEvents => return .events (← drainEvents popEvent (route ports) ports.rounds)
  | .attach => return .nothing
  | .fragment data refused => do
    onFragment ports (refusing refused) data
    return .nothing
  | .command data size => do
    writeAll ports ([startMarker] ++ Bytes.pieces size data ++ [endMarker])
    return .nothing
  | .process times wait => return .dispositions (← processTimes ports wait times)
  | .processRaw data => return .disposition (← processCommand ports ⟨data⟩)
  | .flushFaults => return .number (← flushFaults ports)
  | .register position reply => do
    let responder : Responder Handler :=
      match position with
      | .direct => .direct reply
      | .diagnostics => .diagnostics none
      | .behindDiagnostics => .diagnostics (some reply)
    modifyEndpoint fun endpoint => { endpoint with responder := some responder }
    return .nothing
  | .sendResponse document => return .sent (← sendResponse ports document)
  | .sendTelemetry document => return .sent (← sendTelemetry ports document)
  | .sendOk kind => return .sent (← sendOk ports kind)
  | .sendError message kind => return .sent (← sendError ports message kind)
  | .progress activity done total => return .sent (← reportProgress ports activity done total)
  | .cancel => do
    modifyEndpoint fun endpoint => { endpoint with cancelRequested := true }
    return .nothing
  | .takeCancel => return .flag (← takeCancel)
  | .enableStreaming => do
    modifyEndpoint fun endpoint => { endpoint with streaming := true }
    return .flag true
  | .disableStreaming => do
    modifyEndpoint fun endpoint => { endpoint with streaming := false }
    return .flag true
  | .telemetry documents phantom => do
    modifyWorld fun world => { world with telemetry := world.telemetry ++ documents, phantom }
    return .nothing
  | .pump => do
    let forwarded ← pump ports
    return .pair forwarded (← world).telemetry.length
  | .publish => do
    publish (← Run.newSink)
    return .flag true
  | .diagnostics => return .text (← diagnose ports).toJson.render
  | .counters => return .text (← endpoint).counters.toJson.render
  | .heap => do
    let free ← ports.freeBytes
    return .pair free (ports.minFreeBytes (← world))
  | .runWorker maxSleeps => withinSleeps maxSleeps (runWorker ports)
  | .runStreamer maxSleeps => withinSleeps maxSleeps (runStreamer ports)
  | .runMonitor maxSleeps => do
    let sink ← Run.newSink
    withinSleeps maxSleeps (runMonitor ports sink)
  | .startTasks => return .texts (Placement.all.map (·.displayName))
  | .shutdown timeout => return .flag (← shutdown ports timeout)
  | .advance time => do
    modifyWorld fun world => { world with clock := world.clock + time }
    return .nothing
  | .setMtu mtu => do
    modifyWorld fun world => { world with radio := world.radio.setMtu mtu }
    return .nothing
  | .grant grant => do
    modifyWorld fun world => { world with grant }
    return .nothing
  | .reject reject => do
    modifyWorld fun world => { world with reject }
    return .nothing
  | .failNotify accept refuse code => do
    modifyWorld fun world => { world with refusal := some ⟨accept, refuse, code⟩ }
    return .nothing
  | .setFree bytes => do
    modifyWorld (·.setFree bytes)
    return .nothing
  | .freeSequence readings => do
    modifyWorld fun world => { world with readings }
    return .nothing
  | .failAllocation primary secondary => do
    modifyWorld (·.failAllocation primary secondary)
    return .nothing
  | .hook occasion after steps => do
    modifyWorld fun world => { world with hooks := world.hooks ++ [⟨occasion, after, steps⟩] }
    return .nothing

/-- Perform the steps of a hook or a handler, and log what each came to. A step
that crashes comes to nothing, and neither do those behind it. -/
def performInner : List Step → Run Unit
  | [] => pure ()
  | step :: rest => do
    let result ← perform ports step
    let time := (← world).clock
    Run.log fun log => { log with inner := (time, result) :: log.inner }
    performInner rest

end CommandLink.Bench
