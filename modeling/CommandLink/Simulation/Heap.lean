import CommandLink.Outbound.Block

/-!
# A simulated heap

A heap whose free memory is what it was last set to. A block is granted when it
is no larger than that; granting takes nothing away. Whatever the free memory
was set to, no block is larger than the memory of the machine that simulates
the heap, which is taken to be 32 GiB.
-/

namespace CommandLink

structure Heap where
  free : Nat := 300 * 1024
  minFree : Nat := 300 * 1024
  /-- Requests that were refused. -/
  refused : Nat := 0
  deriving DecidableEq, Repr

namespace Heap

/-- The size of the largest block. -/
def maxBlock : Nat := 32 * 1024 * 1024 * 1024

def setFree (bytes : Nat) (heap : Heap) : Heap :=
  { heap with free := bytes, minFree := min heap.minFree bytes }

def allocate (size : Nat) (heap : Heap) : Option Block × Heap :=
  if size ≤ heap.free ∧ size ≤ maxBlock then
    (some { capacity := size }, heap)
  else
    (none, { heap with refused := heap.refused + 1 })

end Heap

end CommandLink
