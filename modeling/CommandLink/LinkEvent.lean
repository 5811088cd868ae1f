import CommandLink.Endpoint.Lifecycle

/-!
# Link events

The radio notes what happened to the link; the main loop routes it later. The
notes stand in a ring of sixteen slots. The radio only moves the head and the
loop only moves the tail, so that neither disturbs the other, and one slot
stays free, by which a full ring is told from an empty one. A slot holds a
byte for its event. Slots are never cleared.
-/

namespace CommandLink

inductive LinkEvent where
  | connected
  | disconnected
  | mtuChanged
  deriving DecidableEq, Repr

namespace LinkEvent

/-- The byte that stands for an event in its slot. -/
def code : LinkEvent → UInt8
  | .connected => 1
  | .disconnected => 2
  | .mtuChanged => 3

/-- The event that a byte stands for. -/
def ofCode? : UInt8 → Option LinkEvent
  | 1 => some .connected
  | 2 => some .disconnected
  | 3 => some .mtuChanged
  | _ => none

@[simp]
theorem ofCode?_code (event : LinkEvent) : ofCode? event.code = some event := by
  cases event <;> rfl

end LinkEvent

/-- The number of slots. -/
def ringSize : Nat := 16

structure EventRing where
  slots : Vector UInt8 ringSize := Vector.replicate ringSize 0
  /-- The slot for the next event. -/
  head : Fin ringSize := ⟨0, by decide⟩
  /-- The slot of the oldest event. -/
  tail : Fin ringSize := ⟨0, by decide⟩
  deriving DecidableEq, Repr

namespace EventRing

/-- The slot behind a slot; the first one is behind the last. -/
def after (slot : Fin ringSize) : Fin ringSize :=
  ⟨(slot.val + 1) % ringSize, Nat.mod_lt _ (by decide)⟩

/-- Note an event; returns whether there was a place for it. -/
def push (event : LinkEvent) (ring : EventRing) : Bool × EventRing :=
  -- The last free slot stays free, or the ring would look empty.
  if after ring.head = ring.tail then
    (false, ring)
  else
    (true, { ring with slots := ring.slots.set ring.head event.code, head := after ring.head })

/-- Take the oldest event. A slot that cannot be read is passed, and gives none. -/
def pop (ring : EventRing) : Option LinkEvent × EventRing :=
  if ring.tail = ring.head then
    (none, ring)
  else
    (LinkEvent.ofCode? ring.slots[ring.tail], { ring with tail := after ring.tail })

/-- The number of events that wait. -/
def size (ring : EventRing) : Nat := (ring.head.val + ringSize - ring.tail.val) % ringSize

end EventRing

variable {W H : Type} (ports : Ports W H)

/-- The later half of what an event asks for. -/
def route : LinkEvent → Act W H Unit
  | .connected => onConnect ports
  | .disconnected => onDisconnect ports
  | .mtuChanged => discard (monitorTick ports)

/-- Take events until none is left, and give each to `handle`, which may note
further ones. Returns them in their order. -/
def drainEvents {m : Type → Type} [Monad m] (pop : m (Option LinkEvent))
    (handle : LinkEvent → m Unit) : Nat → m (List LinkEvent)
  | 0 => return []
  | rounds + 1 => do
    match ← pop with
    | none => return []
    | some event =>
      handle event
      return event :: (← drainEvents pop handle rounds)

end CommandLink
