import CommandLink.Json.Printer
import CommandLink.Proofs.JsonReading

/-!
# Reading what was printed

An object whose names need no escaping, and whose values are such texts and numbers of 64 bits, is
read as it was printed, with its fields sorted by name.
-/

namespace CommandLink.Json

open Grammar

/-! ## Numbers -/

namespace Numeral

theorem gather_concat {start significand : Nat} {digits : Bytes} {byte : UInt8}
    (gathered : gather start digits = (significand, []))
    (small : significand * 10 + digitValue byte < limit) :
    gather start (digits ++ [byte]) = (significand * 10 + digitValue byte, []) := by
  induction digits generalizing start with
  | nil =>
    obtain rfl := (Prod.mk.inj gathered).1
    simp only [List.nil_append, gather, if_pos small]
  | cons first rest ih =>
    rw [gather] at gathered
    rw [List.cons_append, gather]
    split at gathered
    next room => rw [if_pos room, ih gathered]
    next => cases gathered

end Numeral

/-- The digits of a number as they are printed. -/
def printed (n : Nat) : Bytes := Bytes.ofText n.repr

/-- The byte of a digit. -/
def digitByte (digit : Fin 10) : UInt8 := UInt8.ofNat (48 + digit)

theorem digit_digitByte (digit : Fin 10) : Cursor.digit (digitByte digit) := by
  revert digit
  decide

theorem digitValue_digitByte (digit : Fin 10) : Numeral.digitValue (digitByte digit) = digit := by
  revert digit
  decide

theorem digitByte_ne_zero {digit : Fin 10} (nonzero : digit ≠ 0) : digitByte digit ≠ 0x30 := by
  revert digit
  decide

theorem printed_eq (n : Nat) : printed n = (Nat.toDigits 10 n).flatMap String.utf8EncodeChar := by
  rw [printed, Bytes.ofText, Nat.toList_repr]

theorem utf8EncodeChar_digitChar (digit : Fin 10) :
    String.utf8EncodeChar (Nat.digitChar digit) = [digitByte digit] := by
  revert digit
  decide

/-- A number is printed as its last digit behind what remains of it without that one. -/
theorem printed_cases (n : Nat) :
    (∃ small : n < 10, printed n = [digitByte ⟨n, small⟩]) ∨
      (10 ≤ n ∧ printed n =
        printed (n / 10) ++ [digitByte ⟨n % 10, Nat.mod_lt n (by decide)⟩]) := by
  rcases Nat.lt_or_ge n 10 with small | large
  · refine .inl ⟨small, ?_⟩
    rw [printed_eq, Nat.toDigits_of_lt_base small, List.flatMap_singleton]
    exact utf8EncodeChar_digitChar ⟨n, small⟩
  · refine .inr ⟨large, ?_⟩
    rw [printed_eq, Nat.toDigits_of_base_le (by decide) large, List.flatMap_append,
      List.flatMap_singleton, ← printed_eq]
    congr 1
    exact utf8EncodeChar_digitChar ⟨n % 10, Nat.mod_lt n (by decide)⟩

/-- By induction on what remains of the number. -/
theorem digits_printed (n : Nat) : Digits (printed n) := by
  induction n using Nat.strong_induction_on with
  | _ n ih =>
    rcases printed_cases n with ⟨small, one⟩ | ⟨large, more⟩
    · rw [one]
      exact List.forall_mem_singleton.mpr (digit_digitByte _)
    · rw [more]
      exact List.forall_mem_append.mpr
        ⟨ih (n / 10) (by omega), List.forall_mem_singleton.mpr (digit_digitByte _)⟩

/-- There are no zeros in front. -/
theorem printed_eq_cons {n : Nat} (positive : 0 < n) :
    ∃ first run, printed n = first :: run ∧ first ≠ 0x30 := by
  induction n using Nat.strong_induction_on with
  | _ n ih =>
    rcases printed_cases n with ⟨small, one⟩ | ⟨large, more⟩
    · have nonzero : (⟨n, small⟩ : Fin 10) ≠ 0 := fun zero =>
        Nat.ne_of_gt positive (congrArg Fin.val zero)
      exact ⟨_, [], one, digitByte_ne_zero nonzero⟩
    · obtain ⟨first, run, front, nonzero⟩ := ih (n / 10) (by omega) (by omega)
      rw [more, front]
      exact ⟨first, _, rfl, nonzero⟩

/-- A number that fits into 64 bits is gathered from its digits. -/
theorem gather_printed {n : Nat} (few : n < Numeral.limit) :
    Numeral.gather 0 (printed n) = (n, []) := by
  induction n using Nat.strong_induction_on with
  | _ n ih =>
    rcases printed_cases n with ⟨small, one⟩ | ⟨large, more⟩
    · rw [one]
      have value : 0 * 10 + Numeral.digitValue (digitByte ⟨n, small⟩) = n := by
        rw [digitValue_digitByte, Nat.zero_mul, Nat.zero_add]
      simp only [Numeral.gather, value, if_pos few]
    · -- The digits in front are a smaller number, so that they fit as well.
      have whole : n / 10 * 10 + n % 10 = n := by omega
      have value : n / 10 * 10 +
          Numeral.digitValue (digitByte ⟨n % 10, Nat.mod_lt n (by decide)⟩) = n := by
        rw [digitValue_digitByte]
        exact whole
      have gathered := Numeral.gather_concat (ih (n / 10) (by omega) (by omega))
        (by rw [value]; exact few)
      rw [more, gathered, value]

theorem whole_printed (n : Nat) (rest : Bytes) : Whole (printed n ++ rest) (printed n) rest := by
  -- Zero is the only number that begins with a zero.
  rcases Nat.eq_zero_or_pos n with rfl | positive
  · have zero : printed 0 = [0x30] := by decide
    rw [zero]
    exact .zero rest
  · obtain ⟨first, run, parts, nonzero⟩ := printed_eq_cons positive
    have digits := digits_printed n
    rw [parts] at digits ⊢
    rw [Digits, List.forall_mem_cons] at digits
    exact .run rest digits.1 nonzero digits.2

theorem scalar_ofNat {n : Nat} (few : n < Numeral.limit) (rest : Bytes) :
    Scalar False ((ofNat n).serialize ++ rest) (ofNat n) rest := by
  have stands : Numeral.value? false ⟨printed n, [], none⟩ = some (.integer n) := by
    simp [Grammar.Numeral.value?, gather_printed few, Numeral.integer]
  exact .number (.none _) (.parts (whole_printed n rest) (.none rest) (.none rest)) stands

/-! ## Texts -/

theorem text_printed {chars : List Char} (ok : chars.all plain = true) (rest : Bytes) :
    Text False (chars.flatMap String.utf8EncodeChar ++ 0x22 :: rest) chars rest := by
  induction chars with
  | nil => exact .close rest
  | cons c chars ih =>
    rw [List.all_cons, Bool.and_eq_true] at ok
    obtain ⟨first, further⟩ := ok
    simp only [plain, Bool.and_eq_true, bne_iff_ne, decide_eq_true_eq] at first
    obtain ⟨⟨unquoted, unescaped⟩, visible⟩ := first
    rw [List.flatMap_cons, List.append_assoc]
    exact .plain visible unquoted unescaped (ih further)

theorem ofText_quoted {text : String} (ok : text.toList.all plain = true) :
    Bytes.ofText (quoted text) = 0x22 :: (Bytes.ofText text ++ [0x22]) := by
  rw [quoted_plain ok, Bytes.ofText_append, Bytes.ofText_append]
  rfl

theorem scalar_text {text : String} (ok : text.toList.all plain = true) (rest : Bytes) :
    Scalar False ((Json.text text).serialize ++ rest) (.text text) rest := by
  have parts : (Json.text text).serialize ++ rest =
      0x22 :: (Bytes.ofText text ++ 0x22 :: rest) := by
    rw [serialize, render, ofText_quoted ok, List.cons_append, List.append_assoc]
    rfl
  have scalar : Scalar False _ _ rest := .text (text_printed ok rest)
  rw [String.ofList_toList] at scalar
  rw [parts]
  exact scalar

/-! ## Objects -/

/-- A field that is printed without escapes, and whose value has no parts. -/
structure Flat (field : String × Json) : Prop where
  name : field.1.toList.all plain = true
  value : ∀ rest, Scalar False (field.2.serialize ++ rest) field.2 rest

/-- The bytes of a field. -/
def serializeField (field : String × Json) : Bytes :=
  Bytes.ofText (quoted field.1) ++ 0x3A :: field.2.serialize

theorem serialize_renderFields (field : String × Json) (fields : List (String × Json)) :
    Bytes.ofText (renderFields (field :: fields)) =
      serializeField field ++ fields.flatMap fun next => 0x2C :: serializeField next := by
  have colon : Bytes.ofText ":" = [0x3A] := by decide
  have comma : Bytes.ofText "," = [0x2C] := by decide
  induction fields generalizing field with
  | nil => simp [renderFields, serializeField, serialize, Bytes.ofText_append, colon]
  | cons next fields ih =>
    simp [renderFields, serializeField, serialize, Bytes.ofText_append, colon, comma, ih]

theorem value_of_scalar {depth : Nat} {input rest : Bytes} {value : Json}
    (scalar : Scalar False input value rest) : Value False depth input value rest := by
  cases depth with
  | zero => exact scalar
  | succ depth => exact .scalar scalar

theorem field_printed {depth : Nat} {field : String × Json} (flat : Flat field) (rest : Bytes) :
    Field False (Value False depth) (serializeField field ++ rest) field rest := by
  have parts : serializeField field ++ rest =
      0x22 :: (Bytes.ofText field.1 ++ 0x22 :: 0x3A :: (field.2.serialize ++ rest)) := by
    rw [serializeField, ofText_quoted flat.name]
    simp
  have pair : Field False (Value False depth) _ _ rest :=
    .pair (text_printed flat.name _) (.none _) (.none _) (value_of_scalar (flat.value rest))
  rw [String.ofList_toList] at pair
  rw [parts]
  exact pair

theorem further_printed {depth : Nat} {fields : List (String × Json)}
    (flat : ∀ field ∈ fields, Flat field) (rest : Bytes) :
    Further (Field False (Value False depth)) 0x7D
      ((fields.flatMap fun next => 0x2C :: serializeField next) ++ 0x7D :: rest) fields rest := by
  induction fields with
  | nil => exact .close (.none _)
  | cons field fields ih =>
    rw [List.forall_mem_cons] at flat
    rw [List.flatMap_cons, List.append_assoc, List.cons_append]
    exact .comma (.none _) (.none _) (field_printed flat.1 _) (ih flat.2)

/-- Flat objects are read as they were printed. -/
theorem read_serialize {fields : List (String × Json)} (flat : ∀ field ∈ fields, Flat field) :
    read (Json.object fields).serialize = .ok (ofFields fields) := by
  have brackets : (Json.object fields).serialize =
      0x7B :: (Bytes.ofText (renderFields fields) ++ [0x7D]) := by
    rw [serialize, render, Bytes.ofText_append, Bytes.ofText_append]
    rfl
  have enclosed : Enclosed (Field False (Value False (maxDepth - 1))) 0x7D
      (Bytes.ofText (renderFields fields) ++ [0x7D]) fields [] := by
    cases fields with
    | nil => exact .empty (.none _)
    | cons field fields =>
      rw [List.forall_mem_cons] at flat
      rw [serialize_renderFields, List.append_assoc]
      exact .items (.none _) (field_printed flat.1 _) (further_printed flat.2 [])
  rw [read_eq_ok_iff, brackets]
  exact ⟨_, [], .none _, .object enclosed, .none _⟩

/-! ## Fields that are sorted -/

theorem field?_cons (name other : String) (value : Json) (fields : List (String × Json)) :
    (Json.object ((name, value) :: fields)).field? other =
      if name = other then some value else (Json.object fields).field? other := by
  by_cases same : name = other
  · simp [field?, same]
  · simp [field?, same]

/-- To give a name a value changes that field and no other. -/
theorem field?_assign (name other : String) (value : Json) (fields : List (String × Json)) :
    (Json.object (assign name value fields)).field? other =
      if name = other then some value else (Json.object fields).field? other := by
  fun_induction assign name value fields with
  | case1 => rw [field?_cons]
  | case2 held rest =>
    rw [field?_cons, field?_cons]
    by_cases same : name = other
    · rw [if_pos same, if_pos same]
    · rw [if_neg same, if_neg same, if_neg same]
  | case3 => rw [field?_cons]
  | case4 first held rest unlike later ih =>
    rw [field?_cons, ih, field?_cons]
    by_cases same : name = other
    · subst same
      rw [if_neg (Ne.symm unlike), if_pos rfl, if_pos rfl]
    · rw [if_neg same, if_neg same]

theorem field?_foldl_of_notMem {name : String} {fields : List (String × Json)}
    (missing : name ∉ fields.map Prod.fst) (sorted : List (String × Json)) :
    (Json.object (fields.foldl (fun sorted field => assign field.1 field.2 sorted) sorted)).field?
        name = (Json.object sorted).field? name := by
  induction fields generalizing sorted with
  | nil => rfl
  | cons field fields ih =>
    rw [List.map_cons, List.mem_cons, not_or] at missing
    rw [List.foldl_cons, ih missing.2, field?_assign, if_neg (Ne.symm missing.1)]

/-- Fields with names of their own are found when they are sorted. -/
theorem field?_ofFields {fields : List (String × Json)} (distinct : (fields.map Prod.fst).Nodup) :
    ∀ field ∈ fields, (ofFields fields).field? field.1 = some field.2 := by
  unfold ofFields
  generalize ([] : List (String × Json)) = sorted
  induction fields generalizing sorted with
  | nil => exact List.forall_mem_nil _
  | cons field fields ih =>
    rw [List.map_cons, List.nodup_cons] at distinct
    rw [List.foldl_cons]
    refine List.forall_mem_cons.mpr ⟨?_, ih distinct.2 _⟩
    -- No field behind this one has its name.
    rw [field?_foldl_of_notMem distinct.1, field?_assign, if_pos rfl]

end CommandLink.Json
