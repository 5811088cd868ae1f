import CommandLink.Bounded
import CommandLink.Counters
import CommandLink.Failure
import CommandLink.Inbound.Fault
import CommandLink.Inbound.Reassembly
import CommandLink.Negotiation.Control
import CommandLink.Settings.Validation

/-!
# The endpoint

The state of the device's end of the link, from power-up on. One endpoint
serves one peer after the other.

Whoever interprets commands is a `Responder`. A responder for diagnostics
answers one kind of command itself and may stand in front of another one. What
a handler is, is up to the application (`H`).
-/

namespace CommandLink

inductive Responder (H : Type) where
  | direct (handler : H)
  | diagnostics (behind : Option H)
  deriving DecidableEq, Repr

structure Endpoint (H : Type) where
  settings : Settings
  counters : Counters := {}
  negotiation : Negotiation.Control := {}
  reassembly : Reassembly
  commands : Bounded Command commandDepth := .empty
  faults : Bounded Fault faultDepth := .empty
  /-- Up while a command is being processed. -/
  priority : Bool := false
  streaming : Bool := false
  responder : Option (Responder H) := none
  stopping : Bool := false
  /-- Whether a transmission holds the outbound lock. -/
  sending : Bool := false
  /-- Whether the peer is owed the answer that the link was busy. -/
  busyOwed : Bool := false
  /-- Transmissions under way, waiting ones included. -/
  inFlight : Nat := 0
  cancelRequested : Bool := false

namespace Endpoint

variable {H : Type}

/-- A fresh endpoint, whatever its settings. -/
def fresh (settings : Settings) : Endpoint H :=
  {
    settings
    reassembly :=
      {
        capacity := settings.reassemblyCapacity.toNat
        idleTimeout := settings.reassemblyIdle.toNat
      }
  }

/-- A fresh endpoint with sensible settings. -/
def create (settings : Settings) : Except Failure (Endpoint H) :=
  match settings.check with
  | .ok () => .ok (fresh settings)
  | .error error => .error (.settings error)

def count (change : Counters → Counters) (endpoint : Endpoint H) : Endpoint H :=
  { endpoint with counters := change endpoint.counters }

def state (endpoint : Endpoint H) : LinkState := endpoint.negotiation.state

end Endpoint

end CommandLink
