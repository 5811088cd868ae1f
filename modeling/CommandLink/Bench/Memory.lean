import CommandLink.Outbound.Document
import CommandLink.Simulation.Heap

/-!
# A bench for memory

One block that is written to, and one simulated heap that is asked for blocks.
-/

namespace CommandLink.Bench

/-! ## A block -/

inductive BlockStep where
  | write (data : Bytes)
  | writeAll (data : Bytes)
  | flush
  | serialize (document : Document)

inductive BlockResult where
  | taken (count : Nat)
  | done
  /-- The block could take nothing of what was left. -/
  | full
  | outOfRoom
  | unserializable
  deriving DecidableEq, Repr

def BlockStep.run (step : BlockStep) (block : Block) : BlockResult × Block :=
  match step with
  | .write data =>
    match block.write? data with
    | some (count, after) => (.taken count, after)
    | none => (.full, block)
  | .writeAll data =>
    match block.writeAll data with
    | (true, after) => (.done, after)
    | (false, after) => (.full, after)
  | .flush => (.done, block)
  | .serialize document =>
    match document.measured with
    | none => (.unserializable, block)
    | some text =>
      match block.writeAll text with
      | (true, after) => (.done, after)
      | (false, after) => (.outOfRoom, after)

def runBlock : List BlockStep → Block → List (BlockResult × Block)
  | [], _ => []
  | step :: rest, block =>
    let entry := step.run block
    entry :: runBlock rest entry.2

/-! ## A heap -/

inductive HeapStep where
  | setFree (bytes : Nat)
  | allocate (size : Nat)
  deriving DecidableEq, Repr

/-- What the heap granted, if it was asked for a block. -/
def HeapStep.run (step : HeapStep) (heap : Heap) : Option Block × Heap :=
  match step with
  | .setFree bytes => (none, heap.setFree bytes)
  | .allocate size => heap.allocate size

def runHeap : List HeapStep → Heap → List (Option Block × Heap)
  | [], _ => []
  | step :: rest, heap =>
    let entry := step.run heap
    entry :: runHeap rest entry.2

end CommandLink.Bench
