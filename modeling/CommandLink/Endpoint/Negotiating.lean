import CommandLink.Endpoint.Station

/-!
# Negotiating

The procedures around the control block. The control block is never in the
middle of a change while a port is called: the request and the pause stand
between changes, and what comes back from them is checked against the epoch.
-/

namespace CommandLink

namespace Endpoint

variable {H : Type}

/-- The size of the chunks on a link with this unit. -/
def chunkSize (mtu : UInt16) (endpoint : Endpoint H) : Nat := endpoint.state.chunkSize mtu

/-- Begin negotiating for a new connection; returns the epoch of the attempt. -/
def restart (now : Nat) (endpoint : Endpoint H) : UInt32 × Endpoint H :=
  let negotiation := endpoint.negotiation.restart now
  (negotiation.epoch, { endpoint with negotiation }.count fun c =>
    { c with negotiationAttempts := c.negotiationAttempts + 1 })

def stop (endpoint : Endpoint H) : Endpoint H :=
  { endpoint with negotiation := endpoint.negotiation.stop }

/-- Check the negotiation. An attempt is counted as timed out only when it
expires in this check. -/
def poll (now : Nat) (mtu : UInt16) (endpoint : Endpoint H) :
    Negotiation.Verdict × Endpoint H :=
  let (verdict, negotiation) :=
    endpoint.negotiation.poll now endpoint.settings.attemptTimeout.toNat mtu
  let after := { endpoint with negotiation }
  (verdict, match verdict with
    | .settled => after
    | .pending => after
    | .completed agreed => after.count fun c => { c with negotiatedMtu := agreed.toNat }
    | .expired _ =>
      if endpoint.state.negotiating then
        after.count fun c => { c with negotiationTimeouts := c.negotiationTimeouts + 1 }
      else
        after)

/-- Decide what follows from an expired attempt. -/
def judge (token : Negotiation.Expired) (endpoint : Endpoint H) :
    Negotiation.Control.Decision × Endpoint H :=
  let fallback := endpoint.settings.fallbackUnit
  let (decision, negotiation) :=
    endpoint.negotiation.judge token endpoint.settings.maxRetries.toNat fallback
  let after := { endpoint with negotiation }
  (decision, match decision with
    | .failed => after.count fun c =>
      { c with
        negotiationFailures := c.negotiationFailures + 1
        negotiatedMtu := fallback.toNat }
    | _ => after)

/-- Begin the next attempt, unless it is overtaken. -/
def resume (token : Negotiation.Expired) (now : Nat) (endpoint : Endpoint H) :
    Bool × Endpoint H :=
  match endpoint.negotiation.resume? token now with
  | none => (false, endpoint)
  | some negotiation => (true, { endpoint with negotiation }.count fun c =>
    { c with negotiationAttempts := c.negotiationAttempts + 1 })

def requested (epoch : UInt32) (endpoint : Endpoint H) : Endpoint H :=
  { endpoint with negotiation := endpoint.negotiation.requested epoch }

end Endpoint

variable {W H : Type} (ports : Ports W H)

open Act

/-- Ask the link for the preferred unit, on behalf of an epoch. -/
def requestUnit (epoch : UInt32) : Act W H Unit := do
  match ← ports.requestMtu (← endpoint).settings.preferredMtu with
  | .ok () => modifyEndpoint (·.requested epoch)
  | .error _ => pure ()

def restartNegotiation : Act W H Unit := do
  let now := ports.now (← world)
  requestUnit ports (← step (·.restart now))

/-- Pause before attempt number `attempt` of the retries; returns for how long. -/
def backOff (attempt : Nat) : Act W H Nat := do
  let settings := (← endpoint).settings
  let jitter ← ports.randomBelow (min (settings.backoffJitter.toNat + 1) (Settings.Width.word.limit - 1))
  let delay := Negotiation.backoff settings.backoffBase.toNat attempt jitter
  ports.sleep delay
  return delay

/-- Try again after a pause, or give up. -/
def resolve (token : Negotiation.Expired) : Act W H Negotiation.Resolution := do
  match ← step (·.judge token) with
  | .stale => return .stale
  | .failed => return .failed (← endpoint).settings.fallbackUnit
  | .retry attempt =>
    let delay ← backOff ports attempt
    -- Anything may have happened meanwhile, so the token has to hold once more.
    let now := ports.now (← world)
    if ← step (·.resume token now) then
      requestUnit ports token.epoch
      return .retrying attempt delay
    else
      return .stale

/-- Check the negotiation once, and resolve an attempt that expired. -/
def monitorTick : Act W H (Option Negotiation.Resolution) := do
  let world ← world
  match ← step (·.poll (ports.now world) (ports.mtu world)) with
  | .expired token => return some (← resolve ports token)
  | _ => return none

end CommandLink
