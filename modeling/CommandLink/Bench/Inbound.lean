import CommandLink.Bench.Policy
import CommandLink.Endpoint.Processing
import CommandLink.Endpoint.Reception

/-!
# A bench for the inbound path

A reassembly that is given fragments at stated times, and the two queues of an
endpoint whose clock only its own naps move.
-/

namespace CommandLink.Bench

/-! ## Reassembly -/

inductive ReassemblyStep where
  | push (data : Bytes) (time refused : Nat)
  | discard
  deriving DecidableEq, Repr

inductive ReassemblyResult where
  | pushed (report : Reassembly.Report)
  | discarded (bytes : Nat)
  deriving DecidableEq, Repr

def ReassemblyStep.run (step : ReassemblyStep) (state : Reassembly) :
    ReassemblyResult × Reassembly :=
  match step with
  | .push data time refused =>
    let (report, after) := state.push (refusing refused) data time
    (.pushed report, after)
  | .discard =>
    let (bytes, after) := state.discard
    (.discarded bytes, after)

def runReassembly : List ReassemblyStep → Reassembly → List (ReassemblyResult × Reassembly)
  | [], _ => []
  | step :: rest, state =>
    let entry := step.run state
    entry :: runReassembly rest entry.2

/-! ## Queues -/

inductive QueueStep where
  | dispatch (data : Bytes)
  | next (wait : Nat)
  | report (fault : Fault)
  | take
  deriving DecidableEq, Repr

inductive QueueResult where
  | dispatched (outcome : Except QueueError Unit)
  | command (found : Option Command)
  | reported (noted : Bool)
  | fault (found : Option Fault)

structure QueueReport where
  result : Except Crash QueueResult
  commands : Nat
  faults : Nat
  time : Nat
  changes : List (String × Nat)

/-- Ports of a world that is only a clock. -/
def clockPorts : Ports Nat Empty where
  notify _ := return .error .notConnected
  requestMtu _ := return .error .notConnected
  restartAdvertising := pure ()
  mtu _ := UInt16.ofNat defaultMtu
  now clock := clock
  sleep time := Act.modifyWorld (· + time)
  randomBelow _ := return 0
  freeBytes := return 0
  minFreeBytes _ := 0
  allocate _ _ := return false
  handle handler _ := nomatch handler
  hasTelemetry _ := false
  nextTelemetry := return none
  rounds := 0

def QueueStep.run : QueueStep → Act Nat Empty QueueResult
  | .dispatch data => return .dispatched (← Act.step (·.dispatch ⟨data⟩))
  | .next wait => return .command (← awaitCommand clockPorts wait)
  | .report fault => return .reported (← Act.step (·.report fault))
  | .take => return .fault (← takeFault)

def runQueues : List QueueStep → Station Nat Empty → List QueueReport
  | [], _ => []
  | step :: rest, station =>
    let (result, after) := step.run.run station
    let entry :=
      {
        result
        commands := after.endpoint.commands.size
        faults := after.endpoint.faults.size
        time := after.world
        changes := station.endpoint.counters.changes after.endpoint.counters
      }
    entry :: runQueues rest after

def queueBench (steps : List QueueStep) : List QueueReport := runQueues steps ⟨.fresh {}, 0⟩

end CommandLink.Bench
