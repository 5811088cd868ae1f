import CommandLink.Inbound.Reassembly

/-!
# What a reassembly holds

A reassembly writes into a buffer that it never erases, so the cells behind the
cursor are arbitrary. What matters of the buffer is `held`: this module says
what every step does to it, and nothing else looks at cells.
-/

namespace CommandLink.Reassembly

/-! ## The cells -/

private theorem toList_write (cells : Array UInt8) (place : Nat) (byte : UInt8)
    (inside : place ≤ cells.size) :
    (write cells place byte).toList.take (place + 1) = cells.toList.take place ++ [byte] := by
  unfold write
  split
  next written =>
    rw [Array.toList_set, List.take_add_one, List.take_set_of_le (Nat.le_refl place)]
    simp [written]
  next fresh =>
    have last : place = cells.toList.length := by rw [Array.length_toList]; omega
    rw [Array.toList_push, last, List.take_length, List.take_of_length_le (by simp)]

theorem size_write (cells : Array UInt8) (place : Nat) (byte : UInt8)
    (inside : place ≤ cells.size) : (write cells place byte).size = max cells.size (place + 1) := by
  unfold write
  split
  next => rw [Array.size_set]; omega
  next => rw [Array.size_push]; omega

theorem size_copy (cells : Array UInt8) (place : Nat) (bytes : Bytes)
    (inside : place ≤ cells.size) :
    (copy cells place bytes).size = max cells.size (place + bytes.length) := by
  induction bytes generalizing cells place with
  | nil => simp only [copy, List.length_nil]; omega
  | cons byte rest ih =>
    have size := size_write cells place byte inside
    rw [copy, ih _ _ (by omega), size, List.length_cons]
    omega

/-- In front of the place nothing is touched, and from there on stand the bytes. -/
theorem toList_copy (cells : Array UInt8) (place : Nat) (bytes : Bytes)
    (inside : place ≤ cells.size) :
    (copy cells place bytes).toList.take (place + bytes.length) =
      cells.toList.take place ++ bytes := by
  induction bytes generalizing cells place with
  | nil => simp [copy]
  | cons byte rest ih =>
    have size := size_write cells place byte inside
    have written := ih (write cells place byte) (place + 1) (by omega)
    rw [copy, List.length_cons, Nat.add_comm rest.length 1, ← Nat.add_assoc, written,
      toList_write cells place byte inside, List.append_assoc, List.singleton_append]

/-! ## The bytes held -/

/-- The cursor never leaves what was written, nothing is written outside the
buffer, and a partial command leaves a place for its terminator. -/
structure Sound (state : Reassembly) : Prop where
  written : state.cursor ≤ state.cells.size
  bounded : state.cells.size ≤ state.capacity
  room : state.cursor = 0 ∨ state.cursor < state.capacity

theorem held_eq_take (state : Reassembly) :
    state.held = state.cells.toList.take state.cursor := by
  simp [held]

theorem Sound.length_held {state : Reassembly} (sound : state.Sound) :
    state.held.length = state.length := by
  have written := sound.written
  rw [held_eq_take, List.length_take, Array.length_toList, length]
  omega

theorem Sound.isEmpty_iff {state : Reassembly} (sound : state.Sound) :
    state.isEmpty = true ↔ state.held = [] := by
  rw [← List.length_eq_zero_iff, sound.length_held, isEmpty, beq_iff_eq, length]

theorem Sound.rewind {state after : Reassembly} (sound : state.Sound)
    (same : after.cells = state.cells) (capacity : after.capacity = state.capacity)
    (empty : after.cursor = 0) : after.Sound :=
  ⟨by omega, by rw [same, capacity]; exact sound.bounded, Or.inl empty⟩

theorem held_of_cursor_eq_zero {state : Reassembly} (empty : state.cursor = 0) :
    state.held = [] := by
  simp [held, empty]

theorem sound_fresh (capacity idleTimeout : Nat) :
    ({ capacity, idleTimeout } : Reassembly).Sound :=
  ⟨Nat.le_refl 0, Nat.zero_le capacity, Or.inl rfl⟩

/-! ## The steps -/

theorem append_of_full {state : Reassembly} {fragment : Bytes}
    (full : state.capacity ≤ state.length + fragment.length) :
    state.append fragment =
      (.overflow (.overflow (state.length + fragment.length) state.capacity),
        { state with cursor := 0, rejecting := true }) := by
  simp only [append, if_pos full]

theorem append_of_room {state : Reassembly} {fragment : Bytes}
    (room : state.length + fragment.length < state.capacity) :
    state.append fragment =
      (.buffered,
        { state with
          cells := copy state.cells state.cursor fragment
          cursor := state.length + fragment.length }) := by
  simp only [append, if_neg (Nat.not_le.mpr room)]

theorem held_append_of_room {state : Reassembly} {fragment : Bytes} (sound : state.Sound)
    (room : state.length + fragment.length < state.capacity) :
    (state.append fragment).2.held = state.held ++ fragment := by
  rw [append_of_room room, held_eq_take, held_eq_take]
  exact toList_copy state.cells state.cursor fragment sound.written

theorem Sound.append {state : Reassembly} (sound : state.Sound) (fragment : Bytes) :
    (state.append fragment).2.Sound := by
  by_cases full : state.capacity ≤ state.length + fragment.length
  · rw [append_of_full full]
    exact sound.rewind rfl rfl rfl
  · have room : state.length + fragment.length < state.capacity := Nat.not_le.mp full
    have size := size_copy state.cells state.cursor fragment sound.written
    have bounded := sound.bounded
    rw [append_of_room room]
    refine ⟨?_, ?_, Or.inr room⟩
    · simp only [size, length]
      omega
    · simp only [size]
      simp only [length] at room
      omega

/-- What the end marker yields depends on the bytes held only. -/
theorem finish_outcome {state : Reassembly} (refuses : Nat → Bool) (sound : state.Sound) :
    (state.finish refuses).1 =
      if state.held = [] then .emptyCommand
      else if refuses (state.held.length + 1) then .allocFailed state.held.length
      else .complete ⟨state.held⟩ := by
  have copied :
      ((write state.cells state.cursor 0).extract 0 state.cursor).toList = state.held := by
    have closed := congrArg (List.take state.cursor)
      (toList_write state.cells state.cursor 0 sound.written)
    have length := sound.length_held
    rw [held_eq_take] at length
    rw [held_eq_take]
    simpa [List.take_take, List.take_append, sound.written] using closed
  by_cases empty : state.isEmpty = true
  · simp only [finish, if_pos empty, if_pos (sound.isEmpty_iff.mp empty)]
  · simp only [finish, if_neg empty, if_neg (mt sound.isEmpty_iff.mpr empty), sound.length_held]
    split
    next => rfl
    next => rw [copied]

theorem finish_state (state : Reassembly) (refuses : Nat → Bool) :
    ∃ cells, (state.finish refuses).2 = { state with cells, cursor := 0 } := by
  unfold finish
  split
  next => exact ⟨state.cells, rfl⟩
  next => split <;> exact ⟨_, rfl⟩

theorem Sound.finish {state : Reassembly} (sound : state.Sound) (refuses : Nat → Bool) :
    (state.finish refuses).2.Sound := by
  have written := sound.written
  have bounded := sound.bounded
  unfold Reassembly.finish
  split
  next => exact sound.rewind rfl rfl rfl
  next partly =>
    -- The terminator takes the place that was kept for it.
    have size := size_write state.cells state.cursor 0 sound.written
    have room : state.cursor < state.capacity :=
      sound.room.resolve_left fun empty => partly (by simp [isEmpty, empty])
    split
    all_goals exact ⟨Nat.zero_le _, by simp only [size]; omega, Or.inl rfl⟩

theorem classify_startMarker : Marker.classify startMarker = some .start :=
  Marker.classify_bytes .start

theorem classify_endMarker : Marker.classify endMarker = some .finish :=
  Marker.classify_bytes .finish

theorem accept_payload {state : Reassembly} {fragment : Bytes}
    (unmarked : Marker.classify fragment = none) (calm : state.rejecting = false)
    (refuses : Nat → Bool) : state.accept refuses fragment = state.append fragment := by
  simp [accept, unmarked, calm]

theorem accept_payload_of_rejecting {state : Reassembly} {fragment : Bytes}
    (unmarked : Marker.classify fragment = none) (rejecting : state.rejecting = true)
    (refuses : Nat → Bool) : state.accept refuses fragment = (.dropped, state) := by
  simp [accept, unmarked, rejecting]

theorem accept_finish {state : Reassembly} (calm : state.rejecting = false)
    (refuses : Nat → Bool) : state.accept refuses endMarker = state.finish refuses := by
  simp [accept, classify_endMarker, calm]

theorem accept_finish_of_rejecting {state : Reassembly} (rejecting : state.rejecting = true)
    (refuses : Nat → Bool) :
    state.accept refuses endMarker = (.dropped, { state with rejecting := false }) := by
  simp [accept, classify_endMarker, rejecting]

theorem Sound.reset {state : Reassembly} (sound : state.Sound) : state.reset.Sound :=
  sound.rewind rfl rfl rfl

theorem Sound.expire {state : Reassembly} (sound : state.Sound) (now : Nat) :
    (state.expire now).2.Sound := by
  unfold Reassembly.expire
  split
  next => exact sound.reset
  next => exact sound

theorem Sound.discard {state : Reassembly} (sound : state.Sound) : state.discard.2.Sound :=
  sound.rewind rfl rfl rfl

/-- Neither the flag nor the time of the last fragment matters to soundness. -/
theorem Sound.transfer {state after : Reassembly} (sound : state.Sound)
    (cells : after.cells = state.cells) (cursor : after.cursor = state.cursor)
    (capacity : after.capacity = state.capacity) : after.Sound :=
  ⟨by rw [cells, cursor]; exact sound.written, by rw [cells, capacity]; exact sound.bounded,
    by rw [cursor, capacity]; exact sound.room⟩

theorem Sound.accept {state : Reassembly} (sound : state.Sound) (refuses : Nat → Bool)
    (fragment : Bytes) : (state.accept refuses fragment).2.Sound := by
  unfold Reassembly.accept
  split
  next => exact sound.reset
  next => exact sound.reset
  next =>
    split
    next => exact sound.transfer rfl rfl rfl
    next => exact sound.finish refuses
  next =>
    split
    next => exact sound
    next => exact sound.append fragment

theorem Sound.push {state : Reassembly} (sound : state.Sound) (refuses : Nat → Bool)
    (fragment : Bytes) (now : Nat) : (state.push refuses fragment now).2.Sound := by
  have awake := sound.expire now
  have timed : { (state.expire now).2 with lastFragment := some now }.Sound :=
    awake.transfer rfl rfl rfl
  exact timed.accept refuses fragment

/-! ## What no step changes -/

theorem expire_kept (now : Nat) (state : Reassembly) :
    (state.expire now).2.capacity = state.capacity ∧
      (state.expire now).2.idleTimeout = state.idleTimeout := by
  unfold expire
  split <;> exact ⟨rfl, rfl⟩

theorem append_kept (fragment : Bytes) (state : Reassembly) :
    (state.append fragment).2.capacity = state.capacity ∧
      (state.append fragment).2.idleTimeout = state.idleTimeout := by
  by_cases full : state.capacity ≤ state.length + fragment.length
  · rw [append_of_full full]
    exact ⟨rfl, rfl⟩
  · rw [append_of_room (Nat.not_le.mp full)]
    exact ⟨rfl, rfl⟩

theorem accept_kept (refuses : Nat → Bool) (fragment : Bytes) (state : Reassembly) :
    (state.accept refuses fragment).2.capacity = state.capacity ∧
      (state.accept refuses fragment).2.idleTimeout = state.idleTimeout := by
  unfold accept
  split
  next => exact ⟨rfl, rfl⟩
  next => exact ⟨rfl, rfl⟩
  next =>
    split
    next => exact ⟨rfl, rfl⟩
    next =>
      obtain ⟨cells, after⟩ := finish_state state refuses
      rw [after]
      exact ⟨rfl, rfl⟩
  next =>
    split
    next => exact ⟨rfl, rfl⟩
    next => exact append_kept fragment state

theorem push_kept (refuses : Nat → Bool) (fragment : Bytes) (now : Nat) (state : Reassembly) :
    (state.push refuses fragment now).2.capacity = state.capacity ∧
      (state.push refuses fragment now).2.idleTimeout = state.idleTimeout := by
  have accepted :=
    accept_kept refuses fragment { (state.expire now).2 with lastFragment := some now }
  have awake := expire_kept now state
  exact ⟨accepted.1.trans awake.1, accepted.2.trans awake.2⟩

/-! ## What is completed -/

/-- Only the end of a partial command completes one. -/
theorem finish_of_accept_complete {state : Reassembly} {refuses : Nat → Bool} {fragment : Bytes}
    {command : Command} (completed : (state.accept refuses fragment).1 = .complete command) :
    (state.finish refuses).1 = .complete command := by
  unfold accept at completed
  split at completed
  next => simp at completed
  next => simp at completed
  next =>
    split at completed
    next => simp at completed
    next => exact completed
  next =>
    split at completed
    next => simp at completed
    next =>
      by_cases full : state.capacity ≤ state.length + fragment.length
      · simp [append_of_full full] at completed
      · simp [append_of_room (Nat.not_le.mp full)] at completed

/-- What is completed was held by a buffer of the same size, and is something. -/
theorem Sound.held_of_complete {state : Reassembly} (sound : state.Sound) {refuses : Nat → Bool}
    {fragment : Bytes} {now : Nat} {command : Command}
    (completed : (state.push refuses fragment now).1.outcome = .complete command) :
    ∃ timed : Reassembly, timed.Sound ∧ timed.capacity = state.capacity ∧
      timed.held = command.payload ∧ command.payload ≠ [] := by
  have awake := sound.expire now
  obtain ⟨timed, was⟩ : ∃ timed, timed = { (state.expire now).2 with lastFragment := some now } :=
    ⟨_, rfl⟩
  have steady : timed.Sound := was ▸ awake.transfer rfl rfl rfl
  have capacity : timed.capacity = state.capacity := by
    rw [was]
    exact (expire_kept now state).1
  have finished : (timed.finish refuses).1 = .complete command :=
    finish_of_accept_complete (by rw [was]; exact completed)
  rw [finish_outcome refuses steady] at finished
  split at finished
  next => simp at finished
  next some =>
    split at finished
    next => simp at finished
    next =>
      have held : timed.held = command.payload :=
        congrArg Command.payload (Outcome.complete.inj finished)
      exact ⟨timed, steady, capacity, held, held ▸ some⟩

/-- A complete command has room for its terminator. -/
theorem Sound.complete_fits {state : Reassembly} (sound : state.Sound) {refuses : Nat → Bool}
    {fragment : Bytes} {now : Nat} {command : Command}
    (completed : (state.push refuses fragment now).1.outcome = .complete command) :
    command.terminated.length ≤ state.capacity := by
  obtain ⟨timed, steady, capacity, held, some⟩ := sound.held_of_complete completed
  -- What is not empty has left a place for the terminator.
  have room := steady.room.resolve_left fun empty =>
    some (held ▸ held_of_cursor_eq_zero empty)
  rw [Command.length_terminated, Command.length, ← held, steady.length_held, ← capacity]
  exact room

theorem Sound.complete_ne_nil {state : Reassembly} (sound : state.Sound) {refuses : Nat → Bool}
    {fragment : Bytes} {now : Nat} {command : Command}
    (completed : (state.push refuses fragment now).1.outcome = .complete command) :
    command.payload ≠ [] := by
  obtain ⟨-, -, -, -, some⟩ := sound.held_of_complete completed
  exact some

end CommandLink.Reassembly
