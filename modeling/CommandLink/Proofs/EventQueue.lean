import CommandLink.Bench.Signals

/-!
# The ring of events is a bounded queue

The events that wait stand in the slots from the tail on, one behind the other and around the
end of the ring, and the head is behind the last of them (`EventRing.Holds`). Slots outside
this arc may hold anything. As long as at least one slot stays free, head and tail tell how
many events wait.

What is done with events does not depend on what keeps them, so a store of events is any
type with the three operations. Two stores whose operations agree cannot be told apart by any
use that is made of them, be it by a handler that notes further events while others are taken.
-/

namespace CommandLink

/-! ## Stores of events -/

/-- What can be done with events that wait, whatever they are kept in. -/
structure EventStore (Q : Type) where
  push : LinkEvent → Q → Bool × Q
  pop : Q → Option LinkEvent × Q
  size : Q → Nat

def EventRing.store : EventStore EventRing where
  push := EventRing.push
  pop := EventRing.pop
  size := EventRing.size

/-- A list of at most `limit` events, the oldest one first. -/
def EventStore.list (limit : Nat) : EventStore (List LinkEvent) where
  push event events :=
    if events.length < limit then (true, events ++ [event]) else (false, events)
  pop
    | [] => (none, [])
    | event :: rest => (some event, rest)
  size := List.length

/-- What a handler does about an event. It may note further ones, and learns of each whether
there was a place for it. -/
inductive Reaction (σ : Type) where
  /-- It is done, and remembers this. -/
  | done (memory : σ)
  | note (event : LinkEvent) (next : Bool → Reaction σ)

/-- Where a drain has got to. -/
structure Draining (Q σ : Type) where
  store : Q
  memory : σ
  /-- The events that the handler noted so far, without those there was no place for. -/
  noted : List LinkEvent := []

variable {P Q σ : Type}

def Reaction.run (store : EventStore Q) : Reaction σ → Draining Q σ → Draining Q σ
  | .done memory, state => { state with memory }
  | .note event next, state =>
    let (taken, after) := store.push event state.store
    (next taken).run store
      { state with
        store := after
        noted := if taken then state.noted ++ [event] else state.noted }

namespace EventStore

/-- Take events until none is left, in so many rounds at most. -/
def drain (store : EventStore Q) (handle : LinkEvent → σ → Reaction σ) (rounds : Nat) :
    StateM (Draining Q σ) (List LinkEvent) :=
  drainEvents
    (fun state =>
      let (event, after) := store.pop state.store
      (event, { state with store := after }))
    (fun event state => ((), (handle event state.memory).run store state))
    rounds

end EventStore

/-- A use of a store. Handlers share a memory. -/
inductive Use (σ : Type) where
  | push (event : LinkEvent)
  | pop
  | drain (handle : LinkEvent → σ → Reaction σ) (rounds : Nat)

def Use.run (store : EventStore Q) (use : Use σ) (q : Q) (memory : σ) :
    Bench.EventResult × Q × σ :=
  match use with
  | .push event =>
    let (taken, after) := store.push event q
    (.pushed taken, after, memory)
  | .pop =>
    let (event, after) := store.pop q
    (.popped event, after, memory)
  | .drain handle rounds =>
    let (passed, state) := store.drain handle rounds { store := q, memory }
    (.drained passed, state.store, state.memory)

/-- What each use comes to, and how many events wait then; and what is left in the end. -/
def EventStore.sights (store : EventStore Q) :
    List (Use σ) → Q → σ → List (Bench.EventResult × Nat) × Q × σ
  | [], q, memory => ([], q, memory)
  | use :: rest, q, memory =>
    let (result, after, remembered) := use.run store q memory
    let (others, last) := store.sights rest after remembered
    ((result, store.size after) :: others, last)

/-! ## Drains, round by round -/

namespace EventStore

section Rounds

variable (store : EventStore Q) (handle : LinkEvent → σ → Reaction σ)

theorem drain_of_empty {state : Draining Q σ} {after : Q}
    (empty : store.pop state.store = (none, after)) (rounds : Nat) :
    store.drain handle (rounds + 1) state = ([], { state with store := after }) := by
  simp only [drain, drainEvents, bind, StateT.bind, empty]
  rfl

theorem drain_of_event {state : Draining Q σ} {event : LinkEvent} {after : Q}
    (taken : store.pop state.store = (some event, after)) (rounds : Nat) :
    store.drain handle (rounds + 1) state =
      let further := store.drain handle rounds
        ((handle event state.memory).run store { state with store := after })
      (event :: further.1, further.2) := by
  simp only [drain, drainEvents, bind, StateT.bind, taken]
  rfl

/-- A drain that ends before its rounds are over ends in the same way with more of them. -/
theorem drain_add_of_lt {rounds : Nat} {state : Draining Q σ}
    (ended : (store.drain handle rounds state).1.length < rounds) (more : Nat) :
    store.drain handle (rounds + more) state = store.drain handle rounds state := by
  -- A round that takes an event leaves one less, of the rounds and of what is to be passed.
  induction rounds generalizing state with
  | zero => exact absurd ended (Nat.not_lt_zero _)
  | succ rounds ih =>
    rw [Nat.add_right_comm]
    cases popped : store.pop state.store with
    | mk event after =>
      cases event with
      | none => rw [store.drain_of_empty handle popped, store.drain_of_empty handle popped]
      | some event =>
        rw [store.drain_of_event handle popped] at ended
        rw [store.drain_of_event handle popped, store.drain_of_event handle popped,
          ih (Nat.lt_of_succ_lt_succ ended)]

end Rounds

/-! ## Stores that agree -/

/-- The operations of two stores agree, and keep them related. -/
structure Agree (a : EventStore P) (b : EventStore Q) (R : P → Q → Prop) : Prop where
  push : ∀ event p q, R p q →
    (a.push event p).1 = (b.push event q).1 ∧ R (a.push event p).2 (b.push event q).2
  pop : ∀ p q, R p q → (a.pop p).1 = (b.pop q).1 ∧ R (a.pop p).2 (b.pop q).2
  size : ∀ p q, R p q → a.size p = b.size q

/-- Two drains have got to the same place, in stores that are related. -/
structure Abreast (R : P → Q → Prop) (s : Draining P σ) (t : Draining Q σ) : Prop where
  store : R s.store t.store
  memory : s.memory = t.memory
  noted : s.noted = t.noted

namespace Agree

variable {a : EventStore P} {b : EventStore Q} {R : P → Q → Prop} (agree : a.Agree b R)

include agree

theorem react (reaction : Reaction σ) {s : Draining P σ} {t : Draining Q σ}
    (there : Abreast R s t) : Abreast R (reaction.run a s) (reaction.run b t) := by
  induction reaction generalizing s t with
  | done memory => exact ⟨there.store, rfl, there.noted⟩
  | note event next ih =>
    -- The handler learns the same from both stores, and so it goes on in the same way.
    obtain ⟨same, onward⟩ := agree.push event _ _ there.store
    simp only [Reaction.run, same, there.noted]
    exact ih _ ⟨onward, there.memory, rfl⟩

theorem drain (handle : LinkEvent → σ → Reaction σ) (rounds : Nat) {s : Draining P σ}
    {t : Draining Q σ} (there : Abreast R s t) :
    (a.drain handle rounds s).1 = (b.drain handle rounds t).1 ∧
      Abreast R (a.drain handle rounds s).2 (b.drain handle rounds t).2 := by
  induction rounds generalizing s t with
  | zero => exact ⟨rfl, there⟩
  | succ rounds ih =>
    obtain ⟨same, onward⟩ := agree.pop _ _ there.store
    cases left : a.pop s.store with
    | mk event p =>
      cases right : b.pop t.store with
      | mk other q =>
        rw [left, right] at same onward
        obtain rfl : event = other := same
        cases event with
        | none =>
          rw [a.drain_of_empty handle left, b.drain_of_empty handle right]
          exact ⟨rfl, onward, there.memory, there.noted⟩
        | some event =>
          have handled : Abreast R ((handle event s.memory).run a { s with store := p })
              ((handle event t.memory).run b { t with store := q }) := by
            rw [there.memory]
            exact agree.react _ ⟨onward, rfl, there.noted⟩
          obtain ⟨passed, further⟩ := ih handled
          rw [a.drain_of_event handle left, b.drain_of_event handle right]
          exact ⟨congrArg (event :: ·) passed, further⟩

theorem use (use : Use σ) {p : P} {q : Q} (there : R p q) (memory : σ) :
    (use.run a p memory).1 = (use.run b q memory).1 ∧
      R (use.run a p memory).2.1 (use.run b q memory).2.1 ∧
      (use.run a p memory).2.2 = (use.run b q memory).2.2 := by
  cases use with
  | push event =>
    obtain ⟨same, onward⟩ := agree.push event p q there
    exact ⟨congrArg _ same, onward, rfl⟩
  | pop =>
    obtain ⟨same, onward⟩ := agree.pop p q there
    exact ⟨congrArg _ same, onward, rfl⟩
  | drain handle rounds =>
    obtain ⟨passed, further⟩ :=
      agree.drain handle rounds (s := { store := p, memory }) (t := { store := q, memory })
        ⟨there, rfl, rfl⟩
    exact ⟨congrArg _ passed, further.store, further.memory⟩

/-- What is seen of stores that agree is the same, whatever use is made of them. -/
theorem sights (uses : List (Use σ)) {p : P} {q : Q} (there : R p q) (memory : σ) :
    (a.sights uses p memory).1 = (b.sights uses q memory).1 ∧
      R (a.sights uses p memory).2.1 (b.sights uses q memory).2.1 ∧
      (a.sights uses p memory).2.2 = (b.sights uses q memory).2.2 := by
  induction uses generalizing p q memory with
  | nil => exact ⟨rfl, there, rfl⟩
  | cons use rest ih =>
    obtain ⟨result, onward, remembered⟩ := agree.use use there memory
    obtain ⟨others, last, memories⟩ := ih onward (use.run a p memory).2.2
    rw [remembered] at others last memories
    simp only [EventStore.sights, result, agree.size _ _ onward, remembered]
    exact ⟨congrArg _ others, last, memories⟩

end Agree

/-! ## Drains of a list -/

section Lists

variable {limit : Nat}

section Places

variable {events : List LinkEvent} (event : LinkEvent)

theorem list_push_of_room (room : events.length < limit) :
    (list limit).push event events = (true, events ++ [event]) :=
  if_pos room

theorem list_push_of_full (full : ¬events.length < limit) :
    (list limit).push event events = (false, events) :=
  if_neg full

end Places

variable (limit)

/-- What a handler notes comes behind what is in the list. -/
theorem list_react (reaction : Reaction σ) (state : Draining (List LinkEvent) σ) :
    ∃ more, (reaction.run (list limit) state).store = state.store ++ more ∧
      (reaction.run (list limit) state).noted = state.noted ++ more := by
  induction reaction generalizing state with
  | done memory => exact ⟨[], by simp [Reaction.run]⟩
  | note event next ih =>
    rw [Reaction.run]
    by_cases room : state.store.length < limit
    · obtain ⟨more, store, noted⟩ := ih true
        { state with store := state.store ++ [event], noted := state.noted ++ [event] }
      rw [list_push_of_room event room]
      exact ⟨event :: more, by simpa using store, by simpa using noted⟩
    · rw [list_push_of_full event room]
      exact ih false state

/-- What was passed and what is left are what was in the list and what was noted meanwhile, in
this order. Something is left only if the rounds were over. -/
theorem list_drain (handle : LinkEvent → σ → Reaction σ) (rounds : Nat)
    (state : Draining (List LinkEvent) σ) :
    ∃ more, ((list limit).drain handle rounds state).2.noted = state.noted ++ more ∧
      ((list limit).drain handle rounds state).1 ++
        ((list limit).drain handle rounds state).2.store = state.store ++ more ∧
      (((list limit).drain handle rounds state).1.length < rounds →
        ((list limit).drain handle rounds state).2.store = []) := by
  induction rounds generalizing state with
  | zero =>
    have still : (list limit).drain handle 0 state = ([], state) := rfl
    rw [still]
    exact ⟨[], by simp⟩
  | succ rounds ih =>
    cases waiting : state.store with
    | nil =>
      have popped : (list limit).pop state.store = (none, []) := by rw [waiting]; rfl
      rw [drain_of_empty _ handle popped]
      exact ⟨[], by simp⟩
    | cons event rest =>
      have popped : (list limit).pop state.store = (some event, rest) := by rw [waiting]; rfl
      rw [drain_of_event _ handle popped]
      -- What is noted about this event is waiting when the next round begins.
      obtain ⟨more, added, noted⟩ := list_react limit (handle event state.memory)
        { state with store := rest }
      obtain ⟨others, further, order, ended⟩ := ih
        ((handle event state.memory).run (list limit) { state with store := rest })
      refine ⟨more ++ others, ?_, ?_, ?_⟩
      · rw [further, noted, List.append_assoc]
      · rw [List.cons_append, order, added, List.append_assoc, List.cons_append]
      · exact fun short => ended (Nat.lt_of_succ_lt_succ short)

end Lists

end EventStore

/-! ## The ring -/

namespace EventRing

/-- The slot that is so many behind a slot. -/
def ahead (slot : Fin ringSize) (count : Nat) : Fin ringSize :=
  ⟨(slot.val + count) % ringSize, Nat.mod_lt _ (by decide)⟩

/-- The ring holds these events, the oldest one in the slot of the tail. -/
structure Holds (ring : EventRing) (events : List LinkEvent) : Prop where
  /-- A slot stays free. -/
  room : events.length < ringSize
  head : ring.head = ahead ring.tail events.length
  code : ∀ place event, events[place]? = some event →
    ring.slots.get (ahead ring.tail place) = event.code

section Slots

variable (slot : Fin ringSize) (count : Nat)

@[simp]
theorem ahead_zero : ahead slot 0 = slot := Fin.ext (Nat.mod_eq_of_lt slot.isLt)

theorem after_ahead : after (ahead slot count) = ahead slot (count + 1) :=
  Fin.ext (Nat.mod_add_mod _ _ _)

theorem ahead_after : ahead (after slot) count = ahead slot (count + 1) := by
  apply Fin.ext
  simp only [ahead, after, Nat.mod_add_mod, Nat.add_assoc, Nat.add_comm 1]

/-- Fewer steps than there are slots lead to different slots. -/
theorem ahead_inj {slot : Fin ringSize} {count other : Nat} (close : count < ringSize)
    (near : other < ringSize) (same : ahead slot count = ahead slot other) : count = other := by
  have remainders := congrArg Fin.val same
  have inside := slot.isLt
  simp only [ahead, ringSize] at remainders inside close near
  omega

theorem ahead_ne {slot : Fin ringSize} {count : Nat} (positive : 0 < count)
    (close : count < ringSize) : ahead slot count ≠ slot := fun same =>
  Nat.ne_of_gt positive (ahead_inj close (by decide) (same.trans (ahead_zero slot).symm))

end Slots

theorem holds_fresh : Holds {} [] :=
  ⟨by decide, rfl, fun place event there => by simp at there⟩

namespace Holds

variable {ring : EventRing} {events : List LinkEvent}

theorem size (holds : ring.Holds events) : ring.size = events.length := by
  have room := holds.room
  have inside := ring.tail.isLt
  simp only [EventRing.size, holds.head, ahead, ringSize] at room inside ⊢
  omega

theorem push_of_room (holds : ring.Holds events) (event : LinkEvent)
    (free : events.length + 1 < ringSize) :
    (ring.push event).1 = true ∧ (ring.push event).2.Holds (events ++ [event]) := by
  have apart : after ring.head ≠ ring.tail := by
    rw [holds.head, after_ahead]
    exact ahead_ne (Nat.succ_pos _) free
  rw [push, if_neg apart]
  refine ⟨rfl, ?_, ?_, ?_⟩
  · simpa using free
  · simp only [holds.head, after_ahead, List.length_append, List.length_singleton]
  · intro place other there
    by_cases last : place = events.length
    · subst last
      obtain rfl : event = other := by simpa using there
      rw [← holds.head]
      exact Vector.getElem_set_self _
    · -- The slot that was written is none of those that were in use.
      have bound := (List.getElem?_eq_some_iff.mp there).1
      have before : place < events.length := by
        rw [List.length_append, List.length_singleton] at bound
        omega
      have elsewhere : ring.head ≠ ahead ring.tail place := by
        rw [holds.head]
        exact fun same => last (ahead_inj holds.room (by omega) same).symm
      rw [List.getElem?_append_left before] at there
      have kept : (ring.slots.set ring.head event.code).get (ahead ring.tail place) =
          ring.slots.get (ahead ring.tail place) :=
        Vector.getElem_set_ne _ _ fun same => elsewhere (Fin.ext same)
      exact kept.trans (holds.code place other there)

theorem push_of_full (holds : ring.Holds events) (event : LinkEvent)
    (full : ringSize ≤ events.length + 1) : ring.push event = (false, ring) := by
  have count : events.length + 1 = ringSize := Nat.le_antisymm holds.room full
  -- The slot behind the head is a whole turn from the tail.
  have met : after ring.head = ring.tail := by
    rw [holds.head, after_ahead, count]
    exact Fin.ext ((Nat.add_mod_right _ _).trans (Nat.mod_eq_of_lt ring.tail.isLt))
  rw [push, if_pos met]

theorem pop_nil (holds : ring.Holds []) : ring.pop = (none, ring) := by
  have met : ring.tail = ring.head := holds.head.trans (ahead_zero _) |>.symm
  rw [pop, if_pos met]

theorem pop_cons {event : LinkEvent} (holds : ring.Holds (event :: events)) :
    ring.pop.1 = some event ∧ ring.pop.2.Holds events := by
  have apart : ring.tail ≠ ring.head := by
    rw [holds.head]
    exact (ahead_ne (Nat.succ_pos _) holds.room).symm
  have oldest : ring.slots[ring.tail] = event.code := by
    have code := holds.code 0 event rfl
    rwa [ahead_zero] at code
  rw [pop, if_neg apart, oldest, LinkEvent.ofCode?_code]
  refine ⟨rfl, Nat.lt_of_succ_lt holds.room, ?_, ?_⟩
  · exact holds.head.trans (ahead_after _ _).symm
  · intro place other there
    simp only [ahead_after]
    exact holds.code (place + 1) other there

end Holds

/-- A ring is a list of at most fifteen events. -/
theorem store_agree : store.Agree (EventStore.list (ringSize - 1)) Holds where
  push event ring events holds := by
    by_cases room : events.length < ringSize - 1
    · obtain ⟨taken, after⟩ := holds.push_of_room event (by omega)
      rw [EventStore.list_push_of_room event room]
      exact ⟨taken, after⟩
    · have full : store.push event ring = (false, ring) :=
        holds.push_of_full event (by omega)
      rw [full, EventStore.list_push_of_full event room]
      exact ⟨rfl, holds⟩
  pop ring events holds := by
    cases events with
    | nil =>
      have empty : store.pop ring = (none, ring) := holds.pop_nil
      rw [empty]
      exact ⟨rfl, holds⟩
    | cons event rest => exact holds.pop_cons
  size _ _ holds := holds.size

/-- What is drained of a ring and what is left of it are what it held and what was noted meanwhile.
There is something left only when the rounds are over, and they last for all of this. -/
theorem Holds.drain {ring : EventRing} {events : List LinkEvent} (holds : ring.Holds events)
    (handle : LinkEvent → σ → Reaction σ) (memory : σ) (rounds : Nat) :
    let start : Draining EventRing σ := { store := ring, memory }
    let drained := store.drain handle rounds start
    ∃ waiting, drained.2.store.Holds waiting ∧
      drained.1 ++ waiting = events ++ drained.2.noted ∧
      (events.length + drained.2.noted.length < rounds → drained.1.length < rounds) ∧
      (drained.1.length < rounds →
        waiting = [] ∧ ∀ more, store.drain handle (rounds + more) start = drained) := by
  intro start drained
  let queue : Draining (List LinkEvent) σ := { store := events, memory }
  have abreast : EventStore.Abreast Holds start queue := ⟨holds, rfl, rfl⟩
  obtain ⟨passed, further⟩ := store_agree.drain handle rounds abreast
  obtain ⟨more, noted, order, ended⟩ := EventStore.list_drain (ringSize - 1) handle rounds queue
  have all : drained.1 ++
      ((EventStore.list (ringSize - 1)).drain handle rounds queue).2.store =
        events ++ drained.2.noted := by
    rw [passed, further.noted, order, noted]
    rfl
  refine ⟨_, further.store, all, fun few => ?_, fun short => ⟨ended (passed ▸ short), ?_⟩⟩
  · have lengths := congrArg List.length all
    rw [List.length_append, List.length_append] at lengths
    exact Nat.lt_of_le_of_lt (Nat.le.intro lengths) few
  · exact store.drain_add_of_lt handle short

end EventRing

/-- Nothing that is done with a fresh ring, be it from a handler while others are taken, tells
it from a list of at most fifteen events. A drain passes what waits and what is noted meanwhile,
in this order, and unless its rounds are over it leaves the ring empty. They are not if there are
more of them than such events. -/
theorem event_ring_is_bounded_queue (uses : List (Use σ)) (memory : σ) :
    let ring := EventRing.store.sights uses {} memory
    let queue := (EventStore.list 15).sights uses [] memory
    ring.1 = queue.1 ∧ ring.2.2 = queue.2.2 ∧
      ring.2.1.Holds queue.2.1 ∧ queue.2.1.length ≤ 15 ∧
      (queue.2.1.length = 15 → ∀ event, ring.2.1.push event = (false, ring.2.1)) ∧
      ∀ (handle : LinkEvent → σ → Reaction σ) (memory : σ) (rounds : Nat),
        let start : Draining EventRing σ := { store := ring.2.1, memory }
        let drained := EventRing.store.drain handle rounds start
        ∃ waiting, drained.2.store.Holds waiting ∧
          drained.1 ++ waiting = queue.2.1 ++ drained.2.noted ∧
          (queue.2.1.length + drained.2.noted.length < rounds → drained.1.length < rounds) ∧
          (drained.1.length < rounds →
            waiting = [] ∧ ∀ more, EventRing.store.drain handle (rounds + more) start = drained) := by
  obtain ⟨same, holds, remembered⟩ :=
    EventRing.store_agree.sights uses EventRing.holds_fresh memory
  refine ⟨same, remembered, holds, Nat.le_of_lt_succ holds.room, ?_, ?_⟩
  · intro full event
    exact holds.push_of_full event (Nat.le_of_eq (congrArg Nat.succ full).symm)
  · intro handle memory rounds
    exact holds.drain handle memory rounds

/-- Note a change of the MTU for every link that comes up, and count. -/
def noteAndCount : LinkEvent → Nat → Reaction Nat
  | .connected, seen => .note .mtuChanged fun _ => .done (seen + 1)
  | _, seen => .done (seen + 1)

/-- The ring was full once, and its head is in front of its tail. -/
theorem full_ring_drained :
    let uses := List.replicate 16 (.push .connected) ++ [.pop, .pop, .push .disconnected]
    let ring := (EventRing.store.sights uses {} 0).2.1
    let drained := EventRing.store.drain noteAndCount 40 { store := ring, memory := 0 }
    ring.head < ring.tail ∧
      drained.1 =
        List.replicate 13 .connected ++ [.disconnected] ++ List.replicate 13 .mtuChanged ∧
      drained.2.store.Holds [] := by
  obtain ⟨-, -, -, -, -, drains⟩ := event_ring_is_bounded_queue
    (List.replicate 16 (.push .connected) ++ [.pop, .pop, .push .disconnected]) 0
  obtain ⟨waiting, holds, -, -, ended⟩ := drains noteAndCount 0 40
  obtain ⟨rfl, -⟩ := ended (by decide +kernel)
  exact ⟨by decide +kernel, by decide +kernel, holds⟩

end CommandLink
