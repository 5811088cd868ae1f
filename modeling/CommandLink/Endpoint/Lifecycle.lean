import CommandLink.Endpoint.Reception
import CommandLink.Endpoint.Sending

/-!
# Connecting, disconnecting, shutting down

A connect and a disconnect have two halves. The first runs in order with the
fragments and only resets state (`Endpoint.linkUp`, `Endpoint.linkDown`). The
second may sleep and runs later, whenever the event is routed.
-/

namespace CommandLink

variable {W H : Type} (ports : Ports W H)

open Act

/-- Take a fragment. A request to cancel is acknowledged at once. -/
def onFragment (refuses : Nat → Bool) (fragment : Bytes) : Act W H Unit := do
  let now := ports.now (← world)
  match ← step (·.receive refuses fragment now) with
  -- The request stands, also when the link does not take the acknowledgement.
  | .cancelled => discard (deliver ports ackMarker)
  | _ => pure ()

/-- The later half of a connect: negotiate, and give the link time to settle. -/
def onConnect : Act W H Unit := do
  restartNegotiation ports
  ports.sleep (← endpoint).settings.settleDelay.toNat
  discard (monitorTick ports)

/-- The later half of a disconnect. -/
def onDisconnect : Act W H Unit := do
  modifyEndpoint fun endpoint => { endpoint with streaming := false }.stop
  ports.restartAdvertising

/-- Ask all tasks to stop, and wait for open transmissions; returns whether
all of them ended in time. -/
def shutdown (timeout : Nat) : Act W H Bool := do
  modifyEndpoint fun endpoint => { endpoint with stopping := true, streaming := false }
  drain ports timeout

end CommandLink
