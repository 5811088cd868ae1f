import CommandLink.Proofs.Reassembly
import Mathlib.Algebra.GroupWithZero.Nat

/-!
# A reassembly without a buffer

A machine that keeps the payload fragments of a partial command as a list, and
no bytes of its own. A reassembly, asked anything in any order, answers as this
machine does.

Which payload is put on the list is a parameter. The machine agrees with the
reassembly when payload of no bytes is accepted without being listed; a machine
that lists it takes a command of no bytes for one that has begun.
-/

namespace CommandLink

/-- What a reassembly can be asked. `refuses` says which copies cannot be made. -/
inductive Inquiry where
  | push (refuses : Nat → Bool) (fragment : Bytes) (now : Nat)
  | discard

inductive Answer where
  | report (report : Reassembly.Report)
  /-- So many bytes were dropped. -/
  | dropped (bytes : Nat)
  deriving DecidableEq, Repr

/-- What can be seen of a reassembly when it was asked. -/
structure Sight where
  answer : Answer
  length : Nat
  isEmpty : Bool
  deriving DecidableEq, Repr

structure FragmentList where
  capacity : Nat
  idleTimeout : Nat
  fragments : List Bytes := []
  rejecting : Bool := false
  lastFragment : Option Nat := none

namespace FragmentList

def length (list : FragmentList) : Nat := (list.fragments.map List.length).sum

def isEmpty (list : FragmentList) : Bool := list.fragments.isEmpty

def clear (list : FragmentList) : FragmentList :=
  { list with fragments := [], rejecting := false }

/-- Whether a fragment at `now` comes too long after the one before. -/
def late (now : Nat) (list : FragmentList) : Bool :=
  list.lastFragment.any fun last => list.idleTimeout < now - last

/-- Take payload. -/
def extend (listed : Bytes → Bool) (fragment : Bytes) (list : FragmentList) :
    Reassembly.Outcome × FragmentList :=
  let sum := list.length + fragment.length
  if list.capacity ≤ sum then
    (.overflow (.overflow sum list.capacity), { list with fragments := [], rejecting := true })
  else if listed fragment then
    (.buffered, { list with fragments := list.fragments ++ [fragment] })
  else
    (.buffered, list)

/-- Yield the concatenation of what is listed. -/
def conclude (refuses : Nat → Bool) (list : FragmentList) : Reassembly.Outcome × FragmentList :=
  let command := list.fragments.flatten
  let outcome :=
    if list.isEmpty then .emptyCommand
    else if refuses (command.length + 1) then .allocFailed command.length
    else .complete ⟨command⟩
  (outcome, { list with fragments := [] })

def accept (listed : Bytes → Bool) (refuses : Nat → Bool) (fragment : Bytes)
    (list : FragmentList) : Reassembly.Outcome × FragmentList :=
  match Marker.classify fragment with
  | some .start => (.started, list.clear)
  | some .cancel => (.cancelled, list.clear)
  | some .finish =>
    if list.rejecting then (.dropped, { list with rejecting := false }) else list.conclude refuses
  | none => if list.rejecting then (.dropped, list) else list.extend listed fragment

def ask (listed : Bytes → Bool) (inquiry : Inquiry) (list : FragmentList) :
    Answer × FragmentList :=
  match inquiry with
  | .push refuses fragment now =>
    let stale := list.late now && !list.isEmpty
    let awake := if list.late now then list.clear else list
    let (outcome, after) :=
      { awake with lastFragment := some now }.accept listed refuses fragment
    (.report ⟨stale, outcome⟩, after)
  | .discard => (.dropped list.length, { list.clear with lastFragment := none })

/-- What is seen while the machine is asked one thing after the other. -/
def sights (listed : Bytes → Bool) : List Inquiry → FragmentList → List Sight
  | [], _ => []
  | inquiry :: rest, list =>
    let (answer, after) := list.ask listed inquiry
    ⟨answer, after.length, after.isEmpty⟩ :: sights listed rest after

end FragmentList

namespace Reassembly

def ask (inquiry : Inquiry) (state : Reassembly) : Answer × Reassembly :=
  match inquiry with
  | .push refuses fragment now =>
    let (report, after) := state.push refuses fragment now
    (.report report, after)
  | .discard =>
    let (bytes, after) := state.discard
    (.dropped bytes, after)

/-- What is seen while a reassembly is asked one thing after the other. -/
def sights : List Inquiry → Reassembly → List Sight
  | [], _ => []
  | inquiry :: rest, state =>
    let (answer, after) := state.ask inquiry
    ⟨answer, after.length, after.isEmpty⟩ :: sights rest after

end Reassembly

/-! ## The two side by side -/

namespace FragmentList

/-- Payload that has bytes. -/
def hasBytes (fragment : Bytes) : Bool := !fragment.isEmpty

/-- The list says what the reassembly holds. No fragment of it is empty, so
that it is empty only when nothing is held. -/
structure Mirrors (list : FragmentList) (state : Reassembly) : Prop where
  sound : state.Sound
  capacity : list.capacity = state.capacity
  idleTimeout : list.idleTimeout = state.idleTimeout
  rejecting : list.rejecting = state.rejecting
  lastFragment : list.lastFragment = state.lastFragment
  held : list.fragments.flatten = state.held
  nonempty : ∀ fragment ∈ list.fragments, fragment ≠ []

variable {list : FragmentList} {state : Reassembly}

theorem length_eq_flatten (list : FragmentList) : list.length = list.fragments.flatten.length := by
  rw [length, List.length_flatten]

namespace Mirrors

theorem length (mirrors : list.Mirrors state) : list.length = state.length := by
  rw [length_eq_flatten, mirrors.held, mirrors.sound.length_held]

theorem isEmpty (mirrors : list.Mirrors state) : list.isEmpty = state.isEmpty := by
  apply Bool.eq_iff_iff.mpr
  rw [mirrors.sound.isEmpty_iff, ← mirrors.held, FragmentList.isEmpty, List.isEmpty_iff]
  constructor
  · intro empty
    rw [empty, List.flatten_nil]
  · intro none
    cases same : list.fragments with
    | nil => rfl
    | cons fragment rest =>
      rw [same, List.flatten_cons] at none
      have first : fragment ∈ list.fragments := by rw [same]; exact List.mem_cons_self
      exact absurd (List.append_eq_nil_iff.mp none).1 (mirrors.nonempty fragment first)

theorem late (mirrors : list.Mirrors state) (now : Nat) : list.late now = state.idle now := by
  rw [FragmentList.late, mirrors.lastFragment, mirrors.idleTimeout, Reassembly.idle]
  cases state.lastFragment <;> rfl

theorem clear (mirrors : list.Mirrors state) : list.clear.Mirrors state.reset where
  sound := mirrors.sound.reset
  capacity := mirrors.capacity
  idleTimeout := mirrors.idleTimeout
  rejecting := rfl
  lastFragment := mirrors.lastFragment
  held := (Reassembly.held_of_cursor_eq_zero rfl).symm
  nonempty := by simp [FragmentList.clear]

theorem at_time (mirrors : list.Mirrors state) (time : Option Nat) :
    { list with lastFragment := time }.Mirrors { state with lastFragment := time } :=
  { mirrors with sound := mirrors.sound.transfer rfl rfl rfl, lastFragment := rfl }

theorem extend (mirrors : list.Mirrors state) (fragment : Bytes) :
    (list.extend hasBytes fragment).1 = (state.append fragment).1 ∧
      (list.extend hasBytes fragment).2.Mirrors (state.append fragment).2 := by
  have sound := mirrors.sound.append fragment
  have length := mirrors.length
  have capacity := mirrors.capacity
  by_cases full : state.capacity ≤ state.length + fragment.length
  · rw [Reassembly.append_of_full full] at sound ⊢
    simp only [FragmentList.extend, length, if_pos (capacity ▸ full)]
    refine ⟨by rw [capacity], { mirrors with sound, rejecting := rfl, held := ?_, nonempty := ?_ }⟩
    · exact (Reassembly.held_of_cursor_eq_zero rfl).symm
    · simp
  · have room : state.length + fragment.length < state.capacity := Nat.not_le.mp full
    have held := Reassembly.held_append_of_room mirrors.sound room
    rw [Reassembly.append_of_room room] at sound held ⊢
    simp only [FragmentList.extend, length, if_neg (capacity ▸ full)]
    cases fragment with
    | nil =>
      refine ⟨rfl, { mirrors with sound, held := ?_ }⟩
      rw [held, List.append_nil]
      exact mirrors.held
    | cons byte rest =>
      refine ⟨rfl, { mirrors with sound, held := ?_, nonempty := ?_ }⟩
      · rw [held, ← mirrors.held]
        exact List.flatten_concat
      · intro other member
        rcases List.mem_append.mp member with earlier | last
        · exact mirrors.nonempty other earlier
        · rw [List.mem_singleton.mp last]
          exact List.cons_ne_nil byte rest

theorem conclude (mirrors : list.Mirrors state) (refuses : Nat → Bool) :
    (list.conclude refuses).1 = (state.finish refuses).1 ∧
      (list.conclude refuses).2.Mirrors (state.finish refuses).2 := by
  have sound := mirrors.sound.finish refuses
  obtain ⟨cells, after⟩ := Reassembly.finish_state state refuses
  constructor
  · have empty : list.isEmpty = true ↔ state.held = [] := by
      rw [mirrors.isEmpty, mirrors.sound.isEmpty_iff]
    rw [Reassembly.finish_outcome refuses mirrors.sound]
    simp only [FragmentList.conclude, mirrors.held, empty]
  · rw [after] at sound ⊢
    exact { mirrors with
      sound
      held := (Reassembly.held_of_cursor_eq_zero rfl).symm
      nonempty := by simp [FragmentList.conclude] }

theorem accept (mirrors : list.Mirrors state) (refuses : Nat → Bool) (fragment : Bytes) :
    (list.accept hasBytes refuses fragment).1 = (state.accept refuses fragment).1 ∧
      (list.accept hasBytes refuses fragment).2.Mirrors (state.accept refuses fragment).2 := by
  rw [FragmentList.accept, Reassembly.accept]
  cases Marker.classify fragment with
  | some marker =>
    cases marker with
    | start => exact ⟨rfl, mirrors.clear⟩
    | cancel => exact ⟨rfl, mirrors.clear⟩
    | finish =>
      simp only [mirrors.rejecting]
      split
      next =>
        exact ⟨rfl, { mirrors with sound := mirrors.sound.transfer rfl rfl rfl, rejecting := rfl }⟩
      next => exact mirrors.conclude refuses
  | none =>
    simp only [mirrors.rejecting]
    split
    next => exact ⟨rfl, mirrors⟩
    next => exact mirrors.extend fragment

/-- What the silence before `now` does to both. -/
theorem wake (mirrors : list.Mirrors state) (now : Nat) :
    (list.late now && !list.isEmpty) = (state.expire now).1 ∧
      (if list.late now then list.clear else list).Mirrors (state.expire now).2 := by
  rw [mirrors.late, mirrors.isEmpty, Reassembly.expire]
  split
  next late => exact ⟨by rw [late, Bool.true_and], mirrors.clear⟩
  next early => exact ⟨by rw [Bool.not_eq_true] at early; rw [early, Bool.false_and], mirrors⟩

theorem ask (mirrors : list.Mirrors state) (inquiry : Inquiry) :
    (list.ask hasBytes inquiry).1 = (state.ask inquiry).1 ∧
      (list.ask hasBytes inquiry).2.Mirrors (state.ask inquiry).2 := by
  cases inquiry with
  | push refuses fragment now =>
    obtain ⟨stale, awake⟩ := mirrors.wake now
    obtain ⟨outcome, after⟩ := (awake.at_time (some now)).accept refuses fragment
    refine ⟨?_, after⟩
    simp only [FragmentList.ask, Reassembly.ask, Reassembly.push, stale, outcome]
  | discard =>
    refine ⟨?_, mirrors.clear.at_time none⟩
    simp only [FragmentList.ask, Reassembly.ask, Reassembly.discard, mirrors.length]

theorem sights (mirrors : list.Mirrors state) (inquiries : List Inquiry) :
    state.sights inquiries = list.sights hasBytes inquiries := by
  induction inquiries generalizing list state with
  | nil => rfl
  | cons inquiry rest ih =>
    obtain ⟨answer, after⟩ := mirrors.ask inquiry
    simp only [Reassembly.sights, FragmentList.sights, answer, after.length, after.isEmpty,
      ih after]

end Mirrors

theorem mirrors_fresh (capacity idleTimeout : Nat) :
    ({ capacity, idleTimeout } : FragmentList).Mirrors { capacity, idleTimeout } where
  sound := Reassembly.sound_fresh capacity idleTimeout
  capacity := rfl
  idleTimeout := rfl
  rejecting := rfl
  lastFragment := rfl
  held := rfl
  nonempty := by simp

end FragmentList

/-- A reassembly cannot be told from a list of the fragments that have bytes,
whatever it is asked, at whatever times, and whichever copies fail. -/
theorem Reassembly.sights_eq_fragment_list (capacity idleTimeout : Nat)
    (inquiries : List Inquiry) :
    Reassembly.sights inquiries { capacity, idleTimeout } =
      FragmentList.sights FragmentList.hasBytes inquiries { capacity, idleTimeout } :=
  (FragmentList.mirrors_fresh capacity idleTimeout).sights inquiries

/-- A list of all payload can be told from a reassembly: payload of no bytes and
an end marker are a command for the list, and none for the reassembly. -/
theorem Reassembly.sights_ne_list_of_all_payload :
    ¬ ∀ (capacity idleTimeout : Nat) (inquiries : List Inquiry), 1 ≤ capacity →
      Reassembly.sights inquiries { capacity, idleTimeout } =
        FragmentList.sights (fun _ => true) inquiries { capacity, idleTimeout } := by
  intro same
  have told := same 8 5000 [.push (fun _ => false) [] 0, .push (fun _ => false) endMarker 1]
    (by decide)
  exact absurd told (by decide)

end CommandLink
