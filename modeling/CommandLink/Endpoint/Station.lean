import CommandLink.Endpoint.Basic
import CommandLink.Json.Basic

/-!
# Stations and their ports

A station is an endpoint in its world: the radio, the clock, the memory, and
the application around it. Procedures act on whole stations, because while one
of them notifies, sleeps or waits for the link, others may run: the radio
delivers fragments, a handler sends, a disconnect is routed. A port is
therefore a procedure on stations like any other, and may do to the endpoint
whatever the endpoint's own procedures do.

A handler may crash. A crash ends every procedure that is under way, down to
the one that called the outermost, but takes nothing back: the station stays as
it was when the handler crashed. Only what a procedure does with `ensuring` is
still done on the way.

Nothing is assumed of ports here; statements about procedures say what they
assume.
-/

namespace CommandLink

structure Station (W H : Type) where
  endpoint : Endpoint H
  world : W

/-- A handler gave up, with this message. -/
structure Crash where
  message : String
  deriving DecidableEq, Repr

abbrev Act (W H : Type) := ExceptT Crash (StateM (Station W H))

/-- The two pools of memory for outbound documents. -/
inductive Pool where
  | primary
  | secondary
  deriving DecidableEq, Repr

structure Ports (W H : Type) where
  /-- Send one notification. -/
  notify : Bytes → Act W H (Except LinkError Unit)
  /-- Ask the link for a unit. -/
  requestMtu : UInt16 → Act W H (Except LinkError Unit)
  restartAdvertising : Act W H Unit
  /-- The unit of the link. -/
  mtu : W → UInt16
  now : W → Nat
  sleep : Nat → Act W H Unit
  /-- Draw a number below a bound. -/
  randomBelow : Nat → Act W H Nat
  freeBytes : Act W H Nat
  minFreeBytes : W → Nat
  /-- Ask a pool for a block; returns whether it was granted. -/
  allocate : Pool → Nat → Act W H Bool
  /-- Give a parsed command to a handler. -/
  handle : H → Json → Act W H Unit
  hasTelemetry : W → Bool
  nextTelemetry : Act W H (Option Json)
  /-- Bounds the rounds of the loops that have no end of their own. -/
  rounds : Nat

namespace Act

variable {W H : Type}

def endpoint : Act W H (Endpoint H) := do return (← get).endpoint

def world : Act W H W := do return (← get).world

def modifyEndpoint (change : Endpoint H → Endpoint H) : Act W H Unit :=
  modify fun station => { station with endpoint := change station.endpoint }

def modifyWorld (change : W → W) : Act W H Unit :=
  modify fun station => { station with world := change station.world }

/-- Run a step of the endpoint. -/
def step {α : Type} (change : Endpoint H → α × Endpoint H) : Act W H α := do
  let (result, after) := change (← endpoint)
  modifyEndpoint fun _ => after
  return result

def count (change : Counters → Counters) : Act W H Unit := modifyEndpoint (·.count change)

/-- Run a procedure, and change the endpoint however it ends. -/
def ensuring {α : Type} (change : Endpoint H → Endpoint H) (action : Act W H α) : Act W H α :=
  ExceptT.mk do
    let result ← action.run
    modify fun station => { station with endpoint := change station.endpoint }
    return result

end Act

end CommandLink
