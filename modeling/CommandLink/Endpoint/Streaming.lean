import CommandLink.Endpoint.Sending

/-!
# Streaming telemetry

While the peer has streaming switched on, documents from the telemetry source
are forwarded in their order, a few at a time. A document that could not be
sent is lost, and ends the batch.
-/

namespace CommandLink

/-- Documents forwarded in one batch. -/
def maxBatch : Nat := 8

variable {W H : Type} (ports : Ports W H)

open Act

/-- Forward at most this many documents; returns how many went out. -/
def pumpWithin : Nat → Nat → Act W H Nat
  | 0, forwarded => return forwarded
  | room + 1, forwarded => do
    if !(← endpoint).streaming then
      return forwarded
    else if !ports.hasTelemetry (← world) then
      return forwarded
    else
      match ← ports.nextTelemetry with
      | none => return forwarded
      | some document =>
        match ← sendTelemetry ports (Document.ofJson document) with
        | .error _ => return forwarded
        | .ok () => pumpWithin room (forwarded + 1)

/-- Forward one batch; returns how many documents went out. -/
def pump : Act W H Nat := pumpWithin ports maxBatch 0

def runStreamerWithin : Nat → Act W H Unit
  | 0 => pure ()
  | rounds + 1 => do
    if (← endpoint).stopping then
      pure ()
    else
      if (← endpoint).streaming then discard (pump ports)
      ports.sleep (← endpoint).settings.streamPoll.toNat
      runStreamerWithin rounds

/-- Forward batches until the endpoint stops. -/
def runStreamer : Act W H Unit := runStreamerWithin ports ports.rounds

end CommandLink
