/-!
# Where the tasks run

Each background task has its core, priority and stack, and a name that ends in
zero characters, as the scheduler wants it.
-/

namespace CommandLink

structure Placement where
  core : Nat
  priority : Nat
  stackKb : Nat
  name : String
  deriving DecidableEq, Repr

namespace Placement

/-- The name as it is shown. -/
def displayName (placement : Placement) : String :=
  String.ofList (placement.name.toList.reverse.dropWhile fun c => c.toNat = 0).reverse

/-- The core of the application; the radio runs on the other one. -/
def applicationCore : Nat := 1

def worker : Placement := ⟨applicationCore, 5, 12, "ble-worker\x00"⟩

def streamer : Placement := ⟨applicationCore, 4, 8, "ble-stream\x00"⟩

def monitor : Placement := ⟨applicationCore, 2, 6, "ble-monitor\x00"⟩

def all : List Placement := [worker, streamer, monitor]

end Placement

end CommandLink
