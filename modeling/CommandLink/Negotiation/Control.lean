import CommandLink.Counters
import CommandLink.Negotiation.State

/-!
# The control block of a negotiation

Beside the state stand the number of retries spent and an epoch, which grows
with every connect and disconnect. Work that sleeps or waits for the link
carries the epoch it began in. When it comes back it is in force only if the
epoch is still the same, so that nothing outlives its connection.

An attempt that expired is handed out as a token, and only a token can decide
between another attempt and failure. The decision has two halves with the pause
between them: `judge` before it and `resume?` behind it.
-/

namespace CommandLink

namespace Negotiation

structure Control where
  state : LinkState := .idle
  retries : Nat := 0
  epoch : UInt32 := 0
  deriving DecidableEq, Repr

/-- The proof that an attempt expired in an epoch. -/
structure Expired where
  epoch : UInt32
  deriving DecidableEq, Repr

/-- What a check of the negotiation found. -/
inductive Verdict where
  /-- There is nothing to check. -/
  | settled
  | pending
  | completed (mtu : UInt16)
  | expired (token : Expired)
  deriving DecidableEq, Repr

/-- What became of an expired attempt. -/
inductive Resolution where
  /-- The connection is another one by now. -/
  | stale
  | retrying (attempt delay : Nat)
  | failed (fallback : UInt16)
  deriving DecidableEq, Repr

/-- The pause before attempt number `attempt` of the retries: it doubles with
each, sixteen times at most. -/
def backoff (base attempt jitter : Nat) : Nat := base <<< min (attempt - 1) 16 + jitter

namespace Control

/-- Begin anew for a new connection. -/
def restart (now : Nat) (control : Control) : Control :=
  ⟨.initiating now, 0, control.epoch + 1⟩

/-- The peer is gone. -/
def stop (control : Control) : Control := ⟨.idle, 0, control.epoch + 1⟩

/-- The link accepted a request that was made in `epoch`. -/
def requested (epoch : UInt32) (control : Control) : Control :=
  if control.epoch = epoch then { control with state := control.state.requested } else control

/-- Check the negotiation against the unit of the link. A unit above the
default completes it, even when its time is over. -/
def poll (now timeout : Nat) (mtu : UInt16) (control : Control) : Verdict × Control :=
  if control.state.negotiating then
    match control.state.observe mtu with
    | .completed agreed => (.completed agreed, { control with state := .completed agreed })
    | _ =>
      match control.state.expire now timeout with
      | .timeout => (.expired ⟨control.epoch⟩, { control with state := .timeout })
      | _ => (.pending, control)
  else if control.state = .timeout then
    (.expired ⟨control.epoch⟩, control)
  else
    (.settled, control)

/-- The number of the attempt under way, counting from one. -/
def attempt (control : Control) : Nat := control.retries + 1

/-- Whether a token still speaks for the attempt that expired. -/
def honours (token : Expired) (control : Control) : Bool :=
  control.epoch == token.epoch && control.state == .timeout

/-- What follows from an expired attempt. -/
inductive Decision where
  | stale
  | failed
  | retry (attempt : Nat)
  deriving DecidableEq, Repr

/-- Spend a retry, or give up when none is left. -/
def judge (token : Expired) (maxRetries : Nat) (fallback : UInt16) (control : Control) :
    Decision × Control :=
  if !control.honours token then
    (.stale, control)
  else if maxRetries ≤ control.retries then
    (.failed, { control with state := control.state.fail fallback })
  else
    (.retry (control.retries + 1), { control with retries := control.retries + 1 })

/-- Begin the next attempt behind the pause; `none` when it is overtaken. -/
def resume? (token : Expired) (now : Nat) (control : Control) : Option Control :=
  if control.honours token then some { control with state := control.state.retry now } else none

end Control

end Negotiation

end CommandLink
