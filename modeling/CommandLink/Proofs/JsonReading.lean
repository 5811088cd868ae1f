import CommandLink.Proofs.JsonLists

/-!
# Reading documents

`Json.read` returns a value just when the grammar derives it from the bytes, with lists and
objects nested at most 127 deep.
-/

namespace CommandLink.Json

open Grammar

namespace Scan

/-! ## Values -/

/-- What a value without parts begins with. -/
def Initial (byte : UInt8) : Prop :=
  byte = 0x6E ∨ byte = 0x74 ∨ byte = 0x66 ∨ byte = 0x22 ∨ byte = 0x2D ∨ Cursor.digit byte

theorem Initial.unblank {byte : UInt8} (initial : Initial byte) : ¬Cursor.blank byte := by
  intro blank
  unfold Initial at initial
  rcases blank_iff.mp blank with rfl | rfl | rfl | rfl <;> revert initial <;> decide

theorem Initial.no_bracket {byte : UInt8} (initial : Initial byte) :
    byte ≠ 0x5B ∧ byte ≠ 0x5D ∧ byte ≠ 0x7B := by
  refine ⟨?_, ?_, ?_⟩ <;> rintro rfl <;> revert initial <;> unfold Initial <;> decide

theorem whole_begins {input whole rest : Bytes} (part : Whole input whole rest) :
    ∃ byte tail, input = byte :: tail ∧ Cursor.digit byte := by
  cases part with
  | zero => exact ⟨_, _, rfl, by decide⟩
  | run _ digit => exact ⟨_, _, rfl, digit⟩

theorem scalar_begins {input rest : Bytes} {value : Json} (scalar : Scalar False input value rest) :
    ∃ byte tail, input = byte :: tail ∧ Initial byte := by
  cases scalar with
  | null => exact ⟨_, _, rfl, by unfold Initial; decide⟩
  | yes => exact ⟨_, _, rfl, by unfold Initial; decide⟩
  | no => exact ⟨_, _, rfl, by unfold Initial; decide⟩
  | text => exact ⟨_, _, rfl, by unfold Initial; decide⟩
  | number minus written =>
    cases minus with
    | none =>
      cases written with
      | parts first =>
        obtain ⟨byte, tail, input, digit⟩ := whole_begins first
        exact ⟨byte, tail, input, by simp [Initial, digit]⟩
    | minus => exact ⟨_, _, rfl, by unfold Initial; decide⟩
  | beyond admitted => exact admitted.elim

theorem scalar_length_lt {input rest : Bytes} {value : Json}
    (scalar : Scalar False input value rest) : rest.length < input.length := by
  cases scalar with
  | null | yes | no =>
    simp only [List.length_cons]
    omega
  | text text => exact Nat.lt_succ_of_lt text.length_lt
  | number minus written =>
    have digits := written.length_lt
    cases minus with
    | none => exact digits
    | minus => exact Nat.lt_succ_of_lt digits
  | beyond admitted => exact admitted.elim

theorem solid_scalar : Solid (Scalar False) where
  begins scalar := by
    obtain ⟨byte, tail, input, initial⟩ := scalar_begins scalar
    exact ⟨byte, tail, input, initial.unblank, initial.no_bracket.2.1⟩
  shorter := scalar_length_lt

theorem solid_field {nested : Bytes → Json → Bytes → Prop} (solid : Solid nested) :
    Solid (Field False nested) where
  begins := by
    rintro _ _ _ ⟨⟩
    exact ⟨_, _, rfl, by decide, by decide⟩
  shorter := by
    intro input field rest derived
    cases derived with
    | pair text colon after value =>
      exact Nat.lt_succ_of_lt (Pair.length_lt solid (field_iff.mp (.pair text colon after value)))

theorem solid_over {nested : Bytes → Json → Bytes → Prop} (solid : Solid nested) :
    Solid (Over False nested) where
  begins := by
    rintro _ _ _ (scalar | _ | _)
    · exact solid_scalar.begins scalar
    · exact ⟨_, _, rfl, by decide, by decide⟩
    · exact ⟨_, _, rfl, by decide, by decide⟩
  shorter := by
    rintro _ _ _ (scalar | items | fields)
    · exact solid_scalar.shorter scalar
    · exact Nat.lt_succ_of_lt (enclosed_length_lt solid items)
    · exact Nat.lt_succ_of_lt (enclosed_length_lt (solid_field solid) fields)

theorem solid_value (depth : Nat) : Solid (Value False depth) := by
  induction depth with
  | zero => exact solid_scalar
  | succ depth ih => exact solid_over ih

/-- What stands behind the opening bracket of a value with parts, read by `nested`. -/
inductive Opened (nested : Scan Json) (after : Cursor) : Bytes → Json → Prop where
  | list {cursor values} (read : items nested cursor = .ok (values, after)) :
    Opened nested after (0x5B :: cursor.rest) (.list values)
  | object {cursor values} (read : fields nested cursor = .ok (values, after)) :
    Opened nested after (0x7B :: cursor.rest) (ofFields values)

theorem word_sound {letters tail : Bytes} {byte : UInt8} {word value : Json} {cursor after : Cursor}
    (read : (do advance; keyword letters; return word : Scan Json) cursor = .ok (value, after))
    (input : cursor.rest = byte :: tail) :
    word = value ∧ cursor.rest = byte :: (letters ++ after.rest) := by
  rw [advance_bind] at read
  obtain ⟨_, _, spelled, read⟩ := bind_eq_ok_iff.mp read
  obtain ⟨rfl, rfl⟩ := Prod.mk.inj (Except.ok.inj read)
  have spelled := (keyword_reads letters).sound spelled
  rw [Cursor.past_rest, input, List.tail_cons] at spelled
  exact ⟨rfl, by rw [input, spelled]⟩

theorem word_complete {letters rest : Bytes} {byte : UInt8} (word : Json) {cursor : Cursor}
    (input : cursor.rest = byte :: (letters ++ rest)) :
    ∃ after, (do advance; keyword letters; return word : Scan Json) cursor = .ok (word, after) ∧
      after.rest = rest := by
  have letters_rest : cursor.past.rest = letters ++ rest := by simp [input]
  obtain ⟨after, spelled, behind⟩ := (keyword_reads letters).complete (a := ()) letters_rest trivial
  exact ⟨after, by rw [advance_bind, bind_of_ok spelled]; rfl, behind⟩

theorem valueOver_sound {nested : Option (Scan Json)} {cursor after : Cursor} {value : Json}
    (read : valueOver nested cursor = .ok (value, after)) :
    ∃ begins, Blanks cursor.rest begins ∧
      (Scalar False begins value after.rest ∨
        ∃ inner, nested = some inner ∧ Opened inner after begins value) := by
  obtain ⟨head, behind, looked, read⟩ := bind_eq_ok_iff.mp read
  have token := peekToken_reads.sound looked
  refine ⟨behind.rest, token.blanks, ?_⟩
  split at read
  next => nomatch read
  next byte =>
    obtain ⟨tail, input⟩ := token.exists_cons
    have past : behind.past.rest = tail := by simp [input]
    split at read
    next =>
      obtain ⟨rfl, spelled⟩ := word_sound read input
      rw [spelled]
      exact .inl (.null _)
    next =>
      obtain ⟨rfl, spelled⟩ := word_sound read input
      rw [spelled]
      exact .inl (.yes _)
    next =>
      obtain ⟨rfl, spelled⟩ := word_sound read input
      rw [spelled]
      exact .inl (.no _)
    next =>
      rw [advance_bind] at read
      obtain ⟨said, _, text, read⟩ := bind_eq_ok_iff.mp read
      obtain ⟨rfl, rfl⟩ := Prod.mk.inj (Except.ok.inj read)
      have text := text_reads.sound text
      have scalar := Scalar.text text
      rw [past] at scalar
      rw [input]
      simpa using Or.inl scalar
    next =>
      rw [advance_bind] at read
      obtain ⟨n, _, number, read⟩ := bind_eq_ok_iff.mp read
      obtain ⟨rfl, rfl⟩ := Prod.mk.inj (Except.ok.inj read)
      obtain ⟨numeral, written, stands⟩ := (number_reads true).sound number
      rw [past] at written
      rw [input]
      exact .inl (.number (.minus _) written stands)
    next =>
      cases nested with
      | none => nomatch read
      | some inner =>
        simp only [advance_bind] at read
        obtain ⟨values, _, items, read⟩ := bind_eq_ok_iff.mp read
        obtain ⟨rfl, rfl⟩ := Prod.mk.inj (Except.ok.inj read)
        rw [input, ← past]
        exact .inr ⟨inner, rfl, .list items⟩
    next =>
      cases nested with
      | none => nomatch read
      | some inner =>
        simp only [advance_bind] at read
        obtain ⟨values, _, fields, read⟩ := bind_eq_ok_iff.mp read
        obtain ⟨rfl, rfl⟩ := Prod.mk.inj (Except.ok.inj read)
        rw [input, ← past]
        exact .inr ⟨inner, rfl, .object fields⟩
    next =>
      by_cases digit : Cursor.digit byte
      · rw [if_pos digit] at read
        obtain ⟨n, _, number, read⟩ := bind_eq_ok_iff.mp read
        obtain ⟨rfl, rfl⟩ := Prod.mk.inj (Except.ok.inj read)
        obtain ⟨numeral, written, stands⟩ := (number_reads false).sound number
        exact .inl (.number (.none _) written stands)
      · rw [if_neg digit] at read
        nomatch read

theorem scalar_complete (nested : Option (Scan Json)) {cursor : Cursor} {value : Json}
    {rest : Bytes} (derived : Spaced (Scalar False) cursor.rest value rest) (clear : Clear rest) :
    ∃ after, valueOver nested cursor = .ok (value, after) ∧ after.rest = rest := by
  obtain ⟨begins, blanks, scalar⟩ := derived
  obtain ⟨byte, tail, rfl, initial⟩ := scalar_begins scalar
  obtain ⟨behind, looked, stands⟩ :=
    peekToken_reads.complete (.of_cons blanks initial.unblank) trivial
  unfold valueOver
  rw [bind_of_ok looked]
  generalize input : byte :: tail = begins at scalar stands
  cases scalar with
  | null =>
    obtain ⟨rfl, rfl⟩ := List.cons.inj input
    exact word_complete _ stands
  | yes =>
    obtain ⟨rfl, rfl⟩ := List.cons.inj input
    exact word_complete _ stands
  | no =>
    obtain ⟨rfl, rfl⟩ := List.cons.inj input
    exact word_complete _ stands
  | @text _ chars _ text =>
    obtain ⟨rfl, rfl⟩ := List.cons.inj input
    have said : Text False behind.past.rest (String.ofList chars).toList rest := by
      simpa [stands] using text
    obtain ⟨after, read, done⟩ := text_reads.complete said trivial
    refine ⟨after, ?_, done⟩
    show (advance >>= _) behind = _
    rw [advance_bind, bind_of_ok read]
    rfl
  | number minus written value =>
    cases minus with
    | minus =>
      obtain ⟨rfl, rfl⟩ := List.cons.inj input
      have number : Numbers true behind.past.rest _ rest :=
        ⟨_, by simpa [stands] using written, value⟩
      obtain ⟨after, read, done⟩ := (number_reads true).complete number clear
      refine ⟨after, ?_, done⟩
      show (advance >>= _) behind = _
      rw [advance_bind, bind_of_ok read]
      rfl
    | none =>
      subst input
      have number : Numbers false behind.rest _ rest :=
        ⟨_, by simpa [stands] using written, value⟩
      obtain ⟨after, read, done⟩ := (number_reads false).complete number clear
      have digit : Cursor.digit byte := by
        cases written with
        | parts first =>
          obtain ⟨_, _, same, digit⟩ := whole_begins first
          rwa [(List.cons.inj same).1]
      refine ⟨after, ?_, done⟩
      dsimp only
      split
      case h_8 =>
        rw [if_pos digit, bind_of_ok read]
        rfl
      all_goals exact absurd digit (by decide)
  | beyond admitted => exact admitted.elim

theorem valueOver_none_reads : Reads (valueOver none) (Spaced (Scalar False)) Clear where
  sound := by
    intro cursor value after read
    obtain ⟨begins, blanks, scalar | ⟨_, nothing, _⟩⟩ := valueOver_sound read
    · exact ⟨begins, blanks, scalar⟩
    · nomatch nothing
  complete := scalar_complete none

theorem valueOver_some_reads {inner : Scan Json} {nested : Bytes → Json → Bytes → Prop}
    (reads : Reads inner (Spaced nested) Clear) (solid : Solid nested) :
    Reads (valueOver (some inner)) (Spaced (Over False nested)) Clear where
  sound := by
    intro cursor value after read
    obtain ⟨begins, blanks, scalar | ⟨_, same, opened⟩⟩ := valueOver_sound read
    · exact ⟨begins, blanks, .scalar scalar⟩
    · obtain rfl := Option.some.inj same
      cases opened with
      | list items => exact ⟨_, blanks, .list ((items_reads reads solid).sound items)⟩
      | object fields => exact ⟨_, blanks, .object ((fields_reads reads solid).sound fields)⟩
  complete := by
    rintro cursor value rest ⟨begins, blanks, derived⟩ clear
    cases derived with
    | scalar scalar => exact scalar_complete _ ⟨begins, blanks, scalar⟩ clear
    | @list _ values _ derived =>
      obtain ⟨behind, looked, stands⟩ :=
        peekToken_reads.complete (.of_cons blanks (by decide)) trivial
      have enclosed : Enclosed nested 0x5D behind.past.rest values rest := by
        simpa [stands] using derived
      obtain ⟨after, read, done⟩ := (items_reads reads solid).complete enclosed trivial
      refine ⟨after, ?_, done⟩
      rw [valueOver, bind_of_ok looked]
      show (advance >>= _) behind = _
      rw [advance_bind, bind_of_ok read]
      rfl
    | @object _ values _ derived =>
      obtain ⟨behind, looked, stands⟩ :=
        peekToken_reads.complete (.of_cons blanks (by decide)) trivial
      have enclosed : Enclosed (Field False nested) 0x7D behind.past.rest values rest := by
        simpa [stands] using derived
      obtain ⟨after, read, done⟩ := (fields_reads reads solid).complete enclosed trivial
      refine ⟨after, ?_, done⟩
      rw [valueOver, bind_of_ok looked]
      show (advance >>= _) behind = _
      rw [advance_bind, bind_of_ok read]
      rfl

/-- By induction on the depth that is still allowed. -/
theorem value_reads (depth : Nat) : Reads (value depth) (Spaced (Value False depth)) Clear := by
  induction depth with
  | zero => exact valueOver_none_reads
  | succ depth ih => exact valueOver_some_reads ih (solid_value depth)

end Scan

/-! ## Documents -/

section

open Scan

theorem finish_reads :
    Reads finish (fun input _ rest => Blanks input [] ∧ rest = []) anything where
  sound := by
    intro cursor _ after read
    obtain ⟨head, behind, looked, read⟩ := bind_eq_ok_iff.mp read
    have token := peekToken_reads.sound looked
    cases head with
    | none =>
      obtain ⟨-, rfl⟩ := Prod.mk.inj (Except.ok.inj read)
      have empty : behind.rest = [] := List.head?_eq_none_iff.mp token.head
      exact ⟨empty ▸ token.blanks, empty⟩
    | some byte => nomatch read
  complete := by
    rintro cursor _ _ ⟨blanks, rfl⟩ _
    have token : Token cursor.rest none [] := ⟨blanks, nofun, rfl⟩
    obtain ⟨behind, looked, empty⟩ := peekToken_reads.complete token trivial
    refine ⟨behind, ?_, empty⟩
    rw [finish, bind_of_ok looked]
    rfl

theorem run_eq_ok_iff {α : Type} {scan : Scan α} {bytes : Bytes} {a : α} :
    scan.run bytes = .ok a ↔
      ∃ after last, scan (Cursor.start bytes) = .ok (a, after) ∧ finish after = .ok ((), last) := by
  unfold Scan.run
  constructor
  · intro read
    generalize whole : (do let value ← scan; finish; return value : Scan α) _ = result at read
    cases result with
    | error => nomatch read
    | ok pair =>
      obtain rfl := Except.ok.inj read
      obtain ⟨b, after, taken, rest⟩ := bind_eq_ok_iff.mp whole
      obtain ⟨_, last, finished, rest⟩ := bind_eq_ok_iff.mp rest
      obtain ⟨rfl, rfl⟩ := Prod.mk.inj (Except.ok.inj rest)
      exact ⟨after, _, taken, finished⟩
  · rintro ⟨after, last, taken, finished⟩
    rw [bind_of_ok taken, bind_of_ok finished]
    rfl

/-- The reader returns what the grammar derives. -/
theorem read_eq_ok_iff {bytes : Bytes} {value : Json} :
    read bytes = .ok value ↔ Document False maxDepth bytes value := by
  rw [read, run_eq_ok_iff]
  constructor
  · rintro ⟨after, last, taken, finished⟩
    obtain ⟨begins, blanks, derived⟩ := (value_reads maxDepth).sound taken
    exact ⟨begins, after.rest, blanks, derived, (finish_reads.sound finished).1⟩
  · rintro ⟨begins, rest, blanks, derived, more⟩
    have spaced : Spaced (Value False maxDepth) (Cursor.start bytes).rest value rest :=
      ⟨begins, blanks, derived⟩
    obtain ⟨after, taken, rfl⟩ :=
      (value_reads maxDepth).complete spaced (clear_of_blanks more clear_nil)
    obtain ⟨last, finished, -⟩ := finish_reads.complete (a := ()) ⟨more, rfl⟩ trivial
    exact ⟨after, last, taken, finished⟩

/-- The reader refuses what the grammar does not derive. -/
theorem exists_read_eq_error_iff {bytes : Bytes} :
    (∃ problem, read bytes = .error problem) ↔ ¬∃ value, Document False maxDepth bytes value := by
  simp only [← read_eq_ok_iff]
  cases read bytes <;> simp

end

end CommandLink.Json
