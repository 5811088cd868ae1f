/-!
# Bounded queues

A first-in first-out queue that never holds more than `depth` elements. The
bound is part of the type, so every queue a caller can name respects it. A
full queue refuses the newcomer and keeps what it has.
-/

namespace CommandLink

structure Bounded (α : Type) (depth : Nat) where
  items : List α
  within : items.length ≤ depth

namespace Bounded

variable {α : Type} {depth : Nat}

def empty : Bounded α depth := ⟨[], Nat.zero_le depth⟩

def size (queue : Bounded α depth) : Nat := queue.items.length

def isEmpty (queue : Bounded α depth) : Bool := queue.items.isEmpty

/-- Append an element; `none` when all places are taken. -/
def offer? (queue : Bounded α depth) (a : α) : Option (Bounded α depth) :=
  if room : queue.items.length < depth then
    some ⟨queue.items ++ [a], by simp only [List.length_append, List.length_cons, List.length_nil]; omega⟩
  else
    none

/-- Remove the oldest element. -/
def take? (queue : Bounded α depth) : Option (α × Bounded α depth) :=
  match queue with
  | ⟨[], _⟩ => none
  | ⟨a :: rest, within⟩ => some (a, ⟨rest, by simp only [List.length_cons] at within; omega⟩)

@[simp] theorem items_empty : (empty : Bounded α depth).items = [] := rfl

theorem items_offer? (queue after : Bounded α depth) (a : α) (taken : queue.offer? a = some after) :
    after.items = queue.items ++ [a] := by
  unfold offer? at taken
  split at taken
  next => injection taken with same; rw [← same]
  next => simp at taken

theorem offer?_eq_none_iff (queue : Bounded α depth) (a : α) :
    queue.offer? a = none ↔ queue.items.length = depth := by
  have within := queue.within
  unfold offer?
  split
  next room => simp; omega
  next full => simp; omega

theorem take?_eq_none_iff (queue : Bounded α depth) : queue.take? = none ↔ queue.items = [] := by
  rcases queue with ⟨_ | ⟨a, rest⟩, within⟩ <;> simp [take?]

theorem items_take? (queue after : Bounded α depth) (a : α)
    (taken : queue.take? = some (a, after)) : queue.items = a :: after.items := by
  rcases queue with ⟨_ | ⟨b, rest⟩, within⟩
  · simp [take?] at taken
  · simp only [take?, Option.some.injEq, Prod.mk.injEq] at taken
    obtain ⟨rfl, rfl⟩ := taken
    rfl

end Bounded

end CommandLink
