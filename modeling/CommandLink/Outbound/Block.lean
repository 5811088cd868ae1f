import CommandLink.Bytes

/-!
# Memory blocks

A document is written into a block that was allocated for it beforehand. A
block never grows. A write takes what fits; only a write that could take
nothing, though there was something to take, fails.
-/

namespace CommandLink

structure Block where
  capacity : Nat
  written : Bytes := []
  deriving DecidableEq, Repr

namespace Block

def length (block : Block) : Nat := block.written.length

def room (block : Block) : Nat := block.capacity - block.length

/-- Take as many of the bytes as fit; `none` from a full block. -/
def write? (bytes : Bytes) (block : Block) : Option (Nat × Block) :=
  let taken := min bytes.length block.room
  if taken = 0 ∧ bytes ≠ [] then
    none
  else
    some (taken, { block with written := block.written ++ bytes.take taken })

theorem write?_progress {bytes : Bytes} {block after : Block} {taken : Nat}
    (accepted : block.write? bytes = some (taken, after)) : bytes.length = 0 ∨ 0 < taken := by
  simp only [write?] at accepted
  split at accepted
  next => simp at accepted
  next progress =>
    simp only [Option.some.injEq, Prod.mk.injEq] at accepted
    rcases bytes with _ | ⟨byte, rest⟩
    · exact Or.inl rfl
    · right
      by_cases none : taken = 0
      · exact absurd ⟨accepted.1.trans none, List.cons_ne_nil byte rest⟩ progress
      · omega

/-- Write all of the bytes; what fits stays in the block when not all of them
do. Returns whether all of them did. -/
def writeAll (bytes : Bytes) (block : Block) : Bool × Block :=
  match _accepted : block.write? bytes with
  | none => (false, block)
  | some (taken, after) =>
    if bytes.length ≤ taken then (true, after) else writeAll (bytes.drop taken) after
termination_by bytes.length
decreasing_by
  have progress := write?_progress _accepted
  simp only [List.length_drop]
  omega

def debugText (block : Block) : String :=
  "PoolBuffer \x7b len: " ++ toString block.length ++ ", cap: " ++ toString block.capacity ++
    " \x7d"

end Block

end CommandLink
