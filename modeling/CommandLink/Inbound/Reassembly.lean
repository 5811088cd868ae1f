import CommandLink.Failure
import CommandLink.Framing.Marker
import CommandLink.Inbound.Command

/-!
# Reassembling commands

The peer writes a command as a run of fragments between two markers. What has
arrived is held in a buffer of fixed capacity, in which one place is reserved
for the terminator. A fragment that would take the last place makes the whole
command be rejected: nothing of it is kept, and everything up to its end marker
is dropped, so that its tail is never taken for a command of its own.

The buffer is never erased. A cursor tells how many of its bytes belong to the
partial command, and whatever stands behind the cursor is left from before.

A silence longer than the idle timeout ends a partial command, and a rejection,
before the next fragment is looked at.

A complete command is copied out of the buffer. The copy may be refused for
lack of memory; the policy for that is a parameter.
-/

namespace CommandLink

structure Reassembly where
  capacity : Nat
  idleTimeout : Nat
  /-- The cells of the buffer, up to the last one that was ever written. -/
  cells : Array UInt8 := #[]
  /-- The cell for the next byte. -/
  cursor : Nat := 0
  /-- Whether the fragments belong to a command that was rejected. -/
  rejecting : Bool := false
  lastFragment : Option Nat := none
  deriving DecidableEq, Repr

namespace Reassembly

/-- What a fragment did. -/
inductive Outcome where
  | started
  | cancelled
  | buffered
  | overflow (error : FrameError)
  | emptyCommand
  | dropped
  | complete (command : Command)
  | allocFailed (length : Nat)
  deriving DecidableEq, Repr

structure Report where
  /-- Whether a partial command was given up before the fragment was looked at. -/
  stale : Bool
  outcome : Outcome
  deriving DecidableEq, Repr

/-- Write one cell. A cell that was never written is the one behind the last. -/
def write (cells : Array UInt8) (place : Nat) (byte : UInt8) : Array UInt8 :=
  if inside : place < cells.size then cells.set place byte else cells.push byte

/-- Write bytes into the cells from `place` on. -/
def copy (cells : Array UInt8) (place : Nat) : Bytes → Array UInt8
  | [] => cells
  | byte :: rest => copy (write cells place byte) (place + 1) rest

/-- The bytes of the partial command. -/
def held (state : Reassembly) : Bytes := (state.cells.extract 0 state.cursor).toList

def length (state : Reassembly) : Nat := state.cursor

def isEmpty (state : Reassembly) : Bool := state.cursor == 0

def reset (state : Reassembly) : Reassembly := { state with cursor := 0, rejecting := false }

/-- Drop a partial command; returns how many bytes were dropped. -/
def discard (state : Reassembly) : Nat × Reassembly :=
  (state.length, { state.reset with lastFragment := none })

/-- Whether the silence before `now` was too long. -/
def idle (state : Reassembly) (now : Nat) : Bool :=
  match state.lastFragment with
  | none => false
  | some last => state.idleTimeout < now - last

/-- End what was given up; returns whether bytes were lost by it. -/
def expire (state : Reassembly) (now : Nat) : Bool × Reassembly :=
  if state.idle now then (!state.isEmpty, state.reset) else (false, state)

/-- Take up payload. -/
def append (state : Reassembly) (fragment : Bytes) : Outcome × Reassembly :=
  let attempted := state.length + fragment.length
  -- The last place belongs to the terminator.
  if state.capacity ≤ attempted then
    (.overflow (.overflow attempted state.capacity),
      { state with cursor := 0, rejecting := true })
  else
    (.buffered,
      { state with cells := copy state.cells state.cursor fragment, cursor := attempted })

/-- Complete the command: close it with the terminator and copy it. `refuses n`
says that no copy of `n` bytes can be made. -/
def finish (refuses : Nat → Bool) (state : Reassembly) : Outcome × Reassembly :=
  let after := { state with cursor := 0 }
  if state.isEmpty then
    (.emptyCommand, after)
  else
    let cells := write state.cells state.cursor 0
    if refuses (state.length + 1) then
      (.allocFailed state.length, { after with cells })
    else
      (.complete ⟨(cells.extract 0 state.cursor).toList⟩, { after with cells })

/-- Take a fragment by what it is. -/
def accept (refuses : Nat → Bool) (fragment : Bytes) (state : Reassembly) :
    Outcome × Reassembly :=
  match Marker.classify fragment with
  | some .start => (.started, state.reset)
  | some .cancel => (.cancelled, state.reset)
  | some .finish =>
    if state.rejecting then
      (.dropped, { state with rejecting := false })
    else
      state.finish refuses
  | none => if state.rejecting then (.dropped, state) else state.append fragment

/-- Take a fragment that arrived at `now`. -/
def push (refuses : Nat → Bool) (fragment : Bytes) (now : Nat) (state : Reassembly) :
    Report × Reassembly :=
  let (stale, awake) := state.expire now
  let (outcome, after) := { awake with lastFragment := some now }.accept refuses fragment
  (⟨stale, outcome⟩, after)

end Reassembly

end CommandLink
