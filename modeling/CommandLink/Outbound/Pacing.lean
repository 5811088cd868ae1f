import CommandLink.Settings.Basic

/-!
# Pacing

The longer a document, the longer the pause behind each of its chunks. When
memory is short, chunks shrink.
-/

namespace CommandLink

structure Plan where
  chunkSize : Nat
  delay : Nat
  reportProgress : Bool
  /-- Whether memory pressure made the chunks shrink. -/
  lowMemory : Bool
  deriving DecidableEq, Repr

namespace Settings

/-- The pause behind a chunk of a document of this length. -/
def chunkDelay (settings : Settings) (total : Nat) : Nat :=
  if settings.largePayload.toNat < total then settings.slowDelay.toNat
  else if settings.mediumPayload.toNat < total then settings.moderateDelay.toNat
  else settings.fastDelay.toNat

/-- How to send a document of `total` bytes with `free` bytes of memory left,
when a notification can carry `unit` bytes. -/
def plan (settings : Settings) (total free unit : Nat) : Plan :=
  let whole := min (max unit 1) maxChunk
  let lowMemory : Bool := free < settings.lowMemoryFree.toNat
  {
    chunkSize := if lowMemory then min whole settings.lowMemoryChunk.toNat else whole
    delay := settings.chunkDelay total
    reportProgress := settings.mediumPayload.toNat < total
    lowMemory
  }

end Settings

/-- The percentage that the next progress report waits for, behind one at
`reached`. Thresholds are bytes and stop at the largest. -/
def nextThreshold (step reached : Nat) : Nat := min (min (reached / step + 1) 255 * step) 255

end CommandLink
