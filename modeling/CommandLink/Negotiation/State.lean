import CommandLink.Json.Basic
import CommandLink.Settings.Basic

/-!
# States of a negotiation

Every connection begins with an attempt to agree on a larger unit.

    idle → initiating → inProgress → completed
              ↑  └──────────┴─→ timeout → failed
              └──── retry ─────────┘

Only the peer can begin an exchange of units, so that an attempt is complete
when the link is seen with a unit above the default, and over when that does
not happen in time. A transition that does not apply to a state leaves it as it
is.
-/

namespace CommandLink

inductive LinkState where
  | idle
  | initiating (since : Nat)
  | inProgress (since : Nat)
  | timeout
  | completed (mtu : UInt16)
  | failed (fallback : UInt16)
  deriving DecidableEq, Repr

namespace LinkState

def name : LinkState → String
  | .idle => "idle"
  | .initiating _ => "initiating"
  | .inProgress _ => "in_progress"
  | .timeout => "timeout"
  | .completed _ => "completed"
  | .failed _ => "failed"

def negotiating : LinkState → Bool
  | .initiating _ => true
  | .inProgress _ => true
  | _ => false

def toJson (state : LinkState) : Json :=
  let tag := ("state", Json.text state.name)
  match state with
  | .idle => .object [tag]
  | .initiating since => .object [tag, ("since_ms", .ofNat since)]
  | .inProgress since => .object [tag, ("since_ms", .ofNat since)]
  | .timeout => .object [tag]
  | .completed mtu => .object [tag, ("mtu", .ofNat mtu.toNat)]
  | .failed fallback => .object [tag, ("fallback_mtu", .ofNat fallback.toNat)]

/-- The link accepted the request. -/
def requested : LinkState → LinkState
  | .initiating since => .inProgress since
  | other => other

/-- The link is seen with a unit. -/
def observe (mtu : UInt16) (state : LinkState) : LinkState :=
  if state.negotiating && defaultMtu < mtu.toNat then .completed mtu else state

/-- Time passes. -/
def expire (now timeout : Nat) : LinkState → LinkState
  | .initiating since => if timeout < now - since then .timeout else .initiating since
  | .inProgress since => if timeout < now - since then .timeout else .inProgress since
  | other => other

def retry (now : Nat) : LinkState → LinkState
  | .timeout => .initiating now
  | other => other

def fail (fallback : UInt16) : LinkState → LinkState
  | .timeout => .failed fallback
  | other => other

/-- The unit that chunks are cut for, on a link with unit `mtu`. -/
def unit (mtu : UInt16) : LinkState → UInt16
  | .completed agreed => agreed
  | .failed fallback => fallback
  | _ => mtu

/-- The size of the chunks, on a link with unit `mtu`. -/
def chunkSize (mtu : UInt16) (state : LinkState) : Nat :=
  min (notifyLength (state.unit mtu)) maxChunk

end LinkState

end CommandLink
