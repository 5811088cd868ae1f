import CommandLink.Endpoint.Sending

/-!
# Diagnostics

A document that shows the state of the endpoint: time since power-up, memory,
transmissions under way, the counters, the negotiation and what waits. Memory
is shown in 32 bits.
-/

namespace CommandLink

/-- The command that asks for diagnostics. -/
def diagnosticsKind : String := "get_diagnostics"

structure Diagnostics where
  uptimeSeconds : Nat
  heapFree : Nat
  heapMinFree : Nat
  inFlight : Nat
  counters : Counters
  link : LinkState
  chunkSize : Nat
  queued : Nat
  streaming : Bool
  deriving DecidableEq, Repr

def Diagnostics.toJson (d : Diagnostics) : Json :=
  .object [
    ("type", .text "diagnostics"),
    ("runtime", .object [
      ("uptime_secs", .ofNat d.uptimeSeconds),
      ("heap_free", .ofNat d.heapFree),
      ("heap_min_free", .ofNat d.heapMinFree),
      ("in_flight", .ofNat d.inFlight)]),
    ("metrics", d.counters.toJson),
    ("link", d.link.toJson),
    ("chunk_size", .ofNat d.chunkSize),
    ("queue_len", .ofNat d.queued),
    ("streaming", .boolean d.streaming)]

/-- The most memory that is shown. -/
def shownMemory : Nat := 0xFFFFFFFF

variable {W H : Type} (ports : Ports W H)

open Act

def diagnose : Act W H Diagnostics := do
  let free ← ports.freeBytes
  let endpoint ← endpoint
  let world ← world
  return {
    uptimeSeconds := ports.now world / 1000
    heapFree := min free shownMemory
    heapMinFree := min (ports.minFreeBytes world) shownMemory
    inFlight := endpoint.inFlight
    counters := endpoint.counters
    link := endpoint.state
    chunkSize := endpoint.chunkSize (ports.mtu world)
    queued := endpoint.commands.size
    streaming := endpoint.streaming
  }

/-- Answer a command for diagnostics; give every other one to the responder
behind, if there is one. -/
def answerDiagnostics (behind : Option H) (command : Json) : Act W H Unit := do
  if (command.field? "type").bind Json.text? = some diagnosticsKind then
    let diagnostics ← diagnose ports
    discard (sendResponse ports (Document.ofJson diagnostics.toJson))
  else
    match behind with
    | some handler => ports.handle handler command
    | none => discard (sendError ports "Unsupported command" "unsupported")

def respond (responder : Responder H) (command : Json) : Act W H Unit :=
  match responder with
  | .direct handler => ports.handle handler command
  | .diagnostics behind => answerDiagnostics ports behind command

end CommandLink
