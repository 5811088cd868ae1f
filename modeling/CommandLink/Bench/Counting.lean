import CommandLink.Endpoint.Monitoring

/-!
# A bench for counters

Counters behind their lock, also while the lock is held, and the lines in
which counters are logged.
-/

namespace CommandLink.Bench

/-! ## The lock -/

inductive CounterStep where
  | add (name : String) (n : Nat)
  | reset
  | snapshot
  /-- Run steps inside an update, which then counts a drop. -/
  | locked (steps : List CounterStep)

inductive CounterResult where
  | updated (done : Bool)
  | snapshot (counters : Option Counters)
  /-- What the steps inside came to; `none` if the lock was held already. -/
  | locked (inner : Option (List CounterResult))

mutual

def CounterStep.run (hub : CounterHub) : CounterStep → CounterResult × CounterHub
  | .add name n =>
    let (done, after) := hub.update (Counters.add name n)
    (.updated done, after)
  | .reset =>
    let (done, after) := hub.reset
    (.updated done, after)
  | .snapshot => (.snapshot hub.snapshot, hub)
  | .locked steps =>
    if hub.held then
      (.locked none, hub)
    else
      let inner := runCounters { hub with held := true } steps
      (.locked (some inner),
        { hub with counters := { hub.counters with queueDrops := hub.counters.queueDrops + 1 } })

def runCounters (hub : CounterHub) : List CounterStep → List CounterResult
  | [] => []
  | step :: rest =>
    let (result, after) := step.run hub
    result :: runCounters after rest

end

/-! ## The log -/

/-- The lines logged for counters and states, one after the other. -/
def logLines (published : List (Counters × LinkState)) : List String :=
  published.map fun (counters, link) => logLine counters link

end CommandLink.Bench
