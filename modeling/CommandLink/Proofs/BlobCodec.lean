import CommandLink.Settings.Blob
import Mathlib.Algebra.GroupWithZero.Nat
import Mathlib.Data.List.Forall2

/-!
# What a blob stands for

The first byte below 128 ends a stored number, so a reader knows where it ends, and a number
that was cut short is never taken for another one. The same is then true of the values of all
fields one after the other: the blob of some settings is read as these settings, no matter what
stands behind it, and nothing is read from a part of it.

Whether settings make sense is only looked at when all of them are read.
-/

namespace CommandLink.Settings

namespace Blob

/-! ## Numbers -/

/-- A number in groups of seven bits, lowest first. A byte with its high bit set says that there
are groups behind it, and then these are not all zero. -/
inductive Varint : Nat → Bytes → Prop where
  | last (byte : UInt8) (small : byte.toNat < 128) : Varint byte.toNat [byte]
  | more (byte : UInt8) {high : Nat} {rest : Bytes} (flagged : 128 ≤ byte.toNat)
    (positive : 0 < high) (further : Varint high rest) :
    Varint (byte.toNat - 128 + 128 * high) (byte :: rest)

theorem varint_groups (n : Nat) : Varint n (groups n) := by
  fun_induction groups n with
  | case1 n small =>
    have byte : (UInt8.ofNat n).toNat = n := by
      rw [UInt8.toNat_ofNat']
      omega
    have last := Varint.last (UInt8.ofNat n) (by omega)
    rwa [byte] at last
  | case2 n large ih =>
    have byte : (UInt8.ofNat (n % 128 + 128)).toNat = n % 128 + 128 := by
      rw [UInt8.toNat_ofNat']
      omega
    have more := Varint.more (UInt8.ofNat (n % 128 + 128)) (by omega) (by omega) ih
    have whole : n % 128 + 128 - 128 + 128 * (n / 128) = n := by omega
    rwa [byte, whole] at more

namespace Varint

variable {n : Nat} {bytes : Bytes}

/-- A number that the width can hold is read, and what stands behind it is left. -/
theorem ungroup_append (varint : Varint n bytes) (bits : Nat) (fits : n < 2 ^ bits)
    (rest : Bytes) : ungroup (2 ^ bits) (bytes ++ rest) = some (n, rest) := by
  have room (bits : Nat) : 2 ^ bits ≠ 0 := by simp
  -- Each group takes seven bits of those that are left.
  induction varint generalizing bits with
  | last byte small =>
    rw [List.singleton_append, ungroup, if_neg (room bits), if_pos small, if_pos fits]
  | @more byte high others flagged positive further ih =>
    obtain ⟨left, rfl⟩ : ∃ left, bits = left + 7 := by
      refine ⟨bits - 7, (Nat.sub_add_cancel ?_).symm⟩
      apply Nat.le_of_not_lt
      intro few
      have narrow : 2 ^ bits ≤ 2 ^ 6 := Nat.pow_le_pow_right (by decide) (by omega)
      omega
    have scale : 2 ^ (left + 7) = 2 ^ left * 128 := Nat.pow_add 2 left 7
    have remaining : 2 ^ (left + 7) / 128 = 2 ^ left := by
      rw [scale, Nat.mul_div_cancel _ (by decide)]
    rw [List.cons_append, ungroup, if_neg (room _), if_neg (by omega), remaining, ih left (by omega)]

/-- Every byte but the last says that more follow, so nothing is read without the last one. -/
theorem ungroup_cut (varint : Varint n bytes) {cut : Bytes} (front : cut <+: bytes)
    (short : cut ≠ bytes) (limit : Nat) : ungroup limit cut = none := by
  induction varint generalizing cut limit with
  | last byte small =>
    cases cut with
    | nil => rfl
    | cons first tail =>
      obtain ⟨rfl, nothing⟩ := List.cons_prefix_cons.mp front
      obtain rfl := List.prefix_nil.mp nothing
      exact absurd rfl short
  | more byte flagged positive further ih =>
    cases cut with
    | nil => rfl
    | cons first tail =>
      obtain ⟨rfl, behind⟩ := List.cons_prefix_cons.mp front
      have unread := ih behind (fun same => short (congrArg _ same)) (limit / 128)
      rw [ungroup, if_neg (Nat.not_lt.mpr flagged), unread]
      split
      next => rfl
      next => rfl

end Varint

/-! ## Values -/

/-- How a value of a width is stored: a byte as it is, and a wider value in groups. -/
def Stored : Width → Nat → Bytes → Prop
  | .byte, value, code => code.map UInt8.toNat = [value]
  | .half, value, code => Varint value code
  | .word, value, code => Varint value code

theorem stored_writeValue {width : Width} {value : Nat} (fits : value < width.limit) :
    Stored width value (writeValue width value) := by
  cases width with
  | byte =>
    have small : value < 256 := fits
    simp [Stored, writeValue]
    omega
  | half => exact varint_groups value
  | word => exact varint_groups value

namespace Stored

variable {width : Width} {value : Nat} {code : Bytes} (stored : Stored width value code)

include stored

theorem readValue_append (fits : value < width.limit) (rest : Bytes) :
    readValue width (code ++ rest) = some (value, rest) := by
  cases width with
  | byte =>
    obtain ⟨byte, rfl, rfl⟩ := List.map_eq_singleton_iff.mp stored
    rfl
  | half => exact Varint.ungroup_append stored 16 fits rest
  | word => exact Varint.ungroup_append stored 32 fits rest

theorem readValue_cut {cut : Bytes} (front : cut <+: code) (short : cut ≠ code) :
    readValue width cut = none := by
  cases width with
  | byte =>
    obtain ⟨byte, rfl, rfl⟩ := List.map_eq_singleton_iff.mp stored
    cases cut with
    | nil => rfl
    | cons first tail =>
      obtain ⟨rfl, nothing⟩ := List.cons_prefix_cons.mp front
      obtain rfl := List.prefix_nil.mp nothing
      exact absurd rfl short
  | half => exact Varint.ungroup_cut stored front short _
  | word => exact Varint.ungroup_cut stored front short _

end Stored

/-- Values with their widths, stored one after the other. -/
def writeValues (values : List (Width × Nat)) : Bytes :=
  values.flatMap fun value => writeValue value.1 value.2

theorem writeValues_cons (value : Width × Nat) (others : List (Width × Nat)) :
    writeValues (value :: others) = writeValue value.1 value.2 ++ writeValues others :=
  List.flatMap_cons

section Values

variable {values : List (Width × Nat)} (fit : ∀ value ∈ values, value.2 < value.1.limit)

include fit

theorem readValues_writeValues (rest : Bytes) :
    readValues (values.map (·.1)) (writeValues values ++ rest) =
      some (values.map (·.2), rest) := by
  induction values with
  | nil => rfl
  | cons value others ih =>
    rw [List.forall_mem_cons] at fit
    have first := (stored_writeValue fit.1).readValue_append fit.1 (writeValues others ++ rest)
    rw [writeValues_cons, List.append_assoc, List.map_cons, readValues]
    simp only [first, ih fit.2, Option.bind_eq_bind, Option.bind_some, List.map_cons,
      Option.pure_def]

/-- The value in which the bytes are cut is not read, and so none of them is. -/
theorem readValues_cut {cut : Bytes} (front : cut <+: writeValues values)
    (short : cut ≠ writeValues values) : readValues (values.map (·.1)) cut = none := by
  induction values generalizing cut with
  | nil => exact absurd (List.prefix_nil.mp front) short
  | cons value others ih =>
    rw [List.forall_mem_cons] at fit
    have stored := stored_writeValue fit.1
    rw [writeValues_cons] at front short
    rw [List.map_cons, readValues]
    by_cases within : writeValue value.1 value.2 <+: cut
    · -- The first value is there, so the cut is further behind.
      obtain ⟨tail, rfl⟩ := within
      have behind := (List.prefix_append_right_inj _).mp front
      have unread := ih fit.2 behind fun same => short (congrArg _ same)
      simp only [stored.readValue_append fit.1, unread, Option.bind_eq_bind, Option.bind_some,
        Option.bind_none]
    · have early : cut <+: writeValue value.1 value.2 :=
        (List.prefix_or_prefix_of_prefix front (List.prefix_append _ _)).resolve_right within
      have unread := stored.readValue_cut early fun same => within (same ▸ List.prefix_rfl)
      simp only [unread, Option.bind_eq_bind, Option.bind_none]

end Values

end Blob

open Blob

/-! ## Settings -/

/-- The values of all fields, with their widths. -/
def widthValues (settings : Settings) : List (Width × Nat) :=
  fields.map fun field => (field.width, field.get settings)

theorem widthValues_fit (settings : Settings) :
    ∀ value ∈ settings.widthValues, value.2 < value.1.limit := by
  intro value member
  obtain ⟨field, there, rfl⟩ := List.mem_map.mp member
  exact settings.get_lt field there

theorem toBlob_eq_writeValues (settings : Settings) :
    settings.toBlob = writeValues settings.widthValues := by
  rw [toBlob, writeValues, widthValues, List.flatMap_map]

theorem widths_eq (settings : Settings) : fields.map (·.width) = settings.widthValues.map (·.1) := by
  rw [widthValues, List.map_map]
  rfl

/-- Settings are read from their blob, whatever stands behind it. -/
theorem ofBlob?_toBlob_append (settings : Settings) (rest : Bytes) :
    ofBlob? (settings.toBlob ++ rest) = some settings := by
  have all : settings.widthValues.map (·.2) = settings.values := by
    rw [widthValues, values, List.map_map]
    rfl
  rw [ofBlob?, settings.widths_eq, toBlob_eq_writeValues,
    readValues_writeValues settings.widthValues_fit, all]
  exact congrArg some settings.ofValues_values

theorem ofBlob?_toBlob (settings : Settings) : ofBlob? settings.toBlob = some settings := by
  simpa using settings.ofBlob?_toBlob_append []

theorem ofBlob?_cut (settings : Settings) {cut : Bytes} (front : cut <+: settings.toBlob)
    (short : cut ≠ settings.toBlob) : ofBlob? cut = none := by
  rw [toBlob_eq_writeValues] at front short
  rw [ofBlob?, settings.widths_eq, readValues_cut settings.widthValues_fit front short,
    Option.map_none]

/-- A blob holds the values of the fields in their order, a byte as it is and wider ones in
groups of seven bits. It is read as the settings it was made from, which are refused if they
break a rule, and for the first one that they break. A blob that was cut short is not read at
all, so that no blob, whole or cut short, is taken for other settings. -/
theorem blob_read_as_written (settings : Settings) :
    (∃ codes, settings.toBlob = codes.flatten ∧
      List.Forall₂ (fun field code => Stored field.width (field.get settings) code) fields codes) ∧
    (settings.check = .ok () → ofBlob settings.toBlob = .ok settings) ∧
    (∀ error, settings.check = .error error → ofBlob settings.toBlob = .error error ∧
      ∃ violation, settings.breaks violation ∧ error = .invalid violation.message) ∧
    (∀ cut, cut <+: settings.toBlob → cut ≠ settings.toBlob → ofBlob cut = .error .decode) ∧
    (∀ other : Settings, other.toBlob <+: settings.toBlob → other = settings) := by
  refine ⟨?_, ?_, ?_, ?_, ?_⟩
  · refine ⟨fields.map fun field => writeValue field.width (field.get settings), rfl, ?_⟩
    rw [List.forall₂_map_right_iff, List.forall₂_same]
    exact fun field member => stored_writeValue (settings.get_lt field member)
  · intro sound
    rw [ofBlob, ofBlob?_toBlob]
    simp only [sound]
  · intro error refused
    constructor
    · rw [ofBlob, ofBlob?_toBlob]
      simp only [refused]
    · unfold check at refused
      split at refused
      next violation found =>
        exact ⟨violation, List.find?_some found, (Except.error.inj refused).symm⟩
      next => cases refused
  · intro cut front short
    rw [ofBlob, settings.ofBlob?_cut front short]
  · intro other front
    -- The other blob is read as what it was made from, so it is not cut out of this one.
    have read := other.ofBlob?_toBlob
    have whole : other.toBlob = settings.toBlob := by
      apply Decidable.byContradiction
      intro short
      rw [settings.ofBlob?_cut front short] at read
      cases read
    rw [whole, ofBlob?_toBlob] at read
    exact (Option.some.inj read).symm

/-- Settings with values at the ends of their widths and of their groups are read as they were
written, and not from all bytes but the last. With a step of more than a hundred percent they
are refused. -/
theorem blob_read_as_written_at_limits :
    let settings : Settings :=
      { reassemblyCapacity := 4294967295, reassemblyIdle := 127, workerWait := 128
        preferredMtu := 16383, maxRetries := 255, backoffBase := 16384, settleDelay := 2097151
        drainPoll := 2097152 }
    let refused : Settings := { settings with progressStep := 101 }
    settings.check = .ok () ∧ ofBlob settings.toBlob = .ok settings ∧
      refused.check = .error (.invalid "progress step must be 1-100") ∧
      ofBlob refused.toBlob = .error (.invalid "progress step must be 1-100") ∧
      settings.toBlob.dropLast <+: settings.toBlob ∧ settings.toBlob.dropLast ≠ settings.toBlob ∧
      ofBlob settings.toBlob.dropLast = .error .decode := by
  intro settings refused
  have sound : settings.check = .ok () := by decide
  have broken : refused.check = .error (.invalid "progress step must be 1-100") := by decide
  obtain ⟨-, read, -, cut, -⟩ := settings.blob_read_as_written
  obtain ⟨-, -, refuse, -, -⟩ := refused.blob_read_as_written
  have front : settings.toBlob.dropLast <+: settings.toBlob := List.dropLast_prefix _
  have short : settings.toBlob.dropLast ≠ settings.toBlob := by
    intro same
    have lengths := congrArg List.length same
    rw [List.length_dropLast] at lengths
    -- Nothing is read of no bytes, so there are some.
    have empty : settings.toBlob = [] := List.length_eq_zero_iff.mp (by omega)
    have nothing := settings.ofBlob?_toBlob
    rw [empty] at nothing
    cases nothing
  exact ⟨sound, read sound, broken, (refuse _ broken).1, front, short, cut _ front short⟩

end CommandLink.Settings
