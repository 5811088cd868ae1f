import CommandLink.Proofs.JsonStrings
import Mathlib.Data.List.TakeWhile

/-!
# Reading numbers

A number ends where nothing follows that could belong to it, and then what was read of it is the
number that its digits stand for.
-/

namespace CommandLink.Json

open Grammar

/-! ## Numbers take bytes -/

namespace Grammar

theorem Whole.length_lt {input whole rest : Bytes} (part : Whole input whole rest) :
    rest.length < input.length := by
  cases part with
  | zero => exact Nat.lt_succ_self _
  | run =>
    simp only [List.length_cons, List.length_append]
    omega

theorem Fraction.length_le {input fraction rest : Bytes} (part : Fraction input fraction rest) :
    rest.length ≤ input.length := by
  cases part with
  | none => exact Nat.le_refl _
  | digits =>
    simp only [List.length_cons, List.length_append]
    omega

theorem Sign.length_le {input rest : Bytes} {down : Bool} (sign : Sign input down rest) :
    rest.length ≤ input.length := by
  cases sign with
  | none => exact Nat.le_refl _
  | plus | minus => exact Nat.le_succ _

theorem Exponent.length_le {input rest : Bytes} {exponent : Option (Bool × Bytes)}
    (part : Exponent input exponent rest) : rest.length ≤ input.length := by
  cases part with
  | none => exact Nat.le_refl _
  | some _ power =>
    cases power with
    | digits _ sign =>
      have signed := sign.length_le
      simp only [List.length_cons, List.length_append] at signed ⊢
      omega

theorem Written.length_lt {input rest : Bytes} {numeral : Numeral}
    (written : Written input numeral rest) : rest.length < input.length := by
  cases written with
  | parts first second third =>
    exact Nat.lt_of_le_of_lt (Nat.le_trans third.length_le second.length_le) first.length_lt

end Grammar

namespace Scan

/-! ## Where numbers end -/

/-- No digit follows. -/
def Stops (rest : Bytes) : Prop := ∀ byte ∈ rest.head?, ¬Cursor.digit byte

/-- Nothing follows that could belong to a number. -/
structure Clear (rest : Bytes) : Prop where
  stops : Stops rest
  unpointed : rest.head? ≠ some 0x2E
  unscaled : rest.head? ≠ some 0x65 ∧ rest.head? ≠ some 0x45

@[simp] theorem stops_cons_iff {byte : UInt8} {rest : Bytes} :
    Stops (byte :: rest) ↔ ¬Cursor.digit byte := by
  simp [Stops]

theorem stops_of_exponent {input rest : Bytes} {exponent : Option (Bool × Bytes)}
    (part : Exponent input exponent rest) (stops : Stops rest) : Stops input := by
  cases part with
  | none => exact stops
  | some letter_e => rcases letter_e with rfl | rfl <;> exact stops_cons_iff.mpr (by decide)

theorem unpointed_of_exponent {input rest : Bytes} {exponent : Option (Bool × Bytes)}
    (part : Exponent input exponent rest) (clear : Clear rest) : input.head? ≠ some 0x2E := by
  cases part with
  | none => exact clear.unpointed
  | some letter_e => rcases letter_e with rfl | rfl <;> simp

/-! ## Runs of digits -/

/-- The longest run of digits. -/
structure Run (input run rest : Bytes) : Prop where
  parts : input = run ++ rest
  all : Digits run
  stops : Stops rest

theorem Run.head?_of_ne_nil {input run rest : Bytes} (taken : Run input run rest)
    (nonempty : run ≠ []) : ∃ byte, input.head? = some byte ∧ Cursor.digit byte := by
  obtain ⟨first, further, rfl⟩ := List.exists_cons_of_ne_nil nonempty
  exact ⟨first, by simp [taken.parts], taken.all first (List.mem_cons_self ..)⟩

theorem Run.ne_nil_of_head? {input run rest : Bytes} (taken : Run input run rest) {byte : UInt8}
    (first : input.head? = some byte) (digit : Cursor.digit byte) : run ≠ [] := by
  rintro rfl
  rw [taken.parts, List.nil_append] at first
  exact taken.stops byte first digit

theorem digits_eq (cursor : Cursor) : digits cursor = .ok cursor.digits := rfl

theorem digits_reads : Reads digits Run anything where
  sound := by
    intro cursor run after read
    obtain ⟨rfl, rfl⟩ := Prod.mk.inj (Except.ok.inj read)
    refine ⟨List.takeWhile_append_dropWhile.symm, fun _ member => List.mem_takeWhile_imp member, ?_⟩
    intro byte first
    have fails := List.head?_dropWhile_not Cursor.digit cursor.rest
    rw [Option.mem_def.mp first] at fails
    simpa using fails
  complete := by
    rintro ⟨line, column, input⟩ run rest ⟨rfl, all, stops⟩ _
    have taken : rest.takeWhile Cursor.digit = [] ∧ rest.dropWhile Cursor.digit = rest := by
      cases rest with
      | nil => exact ⟨rfl, rfl⟩
      | cons byte rest => simp [stops_cons_iff.mp stops]
    refine ⟨⟨line, column + run.length, rest⟩, ?_, rfl⟩
    rw [digits_eq, Cursor.digits]
    simp only [List.takeWhile_append_of_pos all, List.dropWhile_append_of_pos all, taken,
      List.append_nil]

/-! ## The parts of a number -/

theorem wholePart_reads : Reads wholePart Whole Stops where
  sound := by
    intro cursor whole after read
    rw [wholePart, next_bind] at read
    cases input : cursor.rest with
    | nil => simp [input, refuse] at read
    | cons byte tail =>
      have behind : cursor.past.rest = tail := by simp [input]
      simp only [input, List.head?_cons] at read
      by_cases digit : Cursor.digit byte
      case neg => simp [digit, refuse] at read
      rw [if_neg (by simpa using digit)] at read
      by_cases zero : byte = 0x30
      · rw [if_pos zero, peek_bind] at read
        have stays : [byte] = whole ∧ cursor.past = after := by
          generalize cursor.past.rest.head? = next at read
          cases next with
          | none => exact Prod.mk.inj (Except.ok.inj read)
          | some follower =>
            by_cases more : Cursor.digit follower
            · simp [more, refuseNext] at read
            · simp only [more] at read
              exact Prod.mk.inj (Except.ok.inj read)
        obtain ⟨rfl, rfl⟩ := stays
        rw [zero, behind]
        exact .zero tail
      · rw [if_neg zero] at read
        obtain ⟨run, _, taken, read⟩ := bind_eq_ok_iff.mp read
        obtain ⟨rfl, rfl⟩ := Prod.mk.inj (Except.ok.inj read)
        have longest := digits_reads.sound taken
        rw [← behind, longest.parts]
        exact .run _ digit zero longest.all
  complete := by
    rintro ⟨line, column, input⟩ whole rest derived stops
    cases derived with
    | zero =>
      refine ⟨Cursor.past ⟨line, column, 0x30 :: rest⟩, ?_, by simp⟩
      rw [wholePart, next_bind]
      show (peek >>= _) _ = _
      rw [peek_bind, Cursor.past_rest, List.tail_cons]
      cases rest with
      | nil => rfl
      | cons follower =>
        simp only [List.head?_cons, stops_cons_iff.mp stops]
        rfl
    | @run first run _ digit nonzero all =>
      obtain ⟨after, taken, behind⟩ :=
        @digits_reads.complete (Cursor.past ⟨line, column, first :: (run ++ rest)⟩) run rest
          ⟨by simp, all, stops⟩ trivial
      refine ⟨after, ?_, behind⟩
      rw [wholePart, next_bind]
      simp only [List.head?_cons, digit, nonzero, Bool.not_true, if_false, Bool.false_eq_true]
      rw [bind_of_ok taken]
      rfl

theorem exponentSign_reads : Reads exponentSign Sign
    (fun rest => rest.head? ≠ some 0x2B ∧ rest.head? ≠ some 0x2D) where
  sound := by
    intro cursor down after read
    rw [exponentSign, peek_bind] at read
    generalize sign : cursor.rest.head? = head at read
    split at read
    next =>
      obtain ⟨rfl, rfl⟩ := Prod.mk.inj (Except.ok.inj read)
      obtain ⟨tail, input⟩ := List.head?_eq_some_iff.mp sign
      simpa [input] using Sign.plus tail
    next =>
      obtain ⟨rfl, rfl⟩ := Prod.mk.inj (Except.ok.inj read)
      obtain ⟨tail, input⟩ := List.head?_eq_some_iff.mp sign
      simpa [input] using Sign.minus tail
    next =>
      obtain ⟨rfl, rfl⟩ := Prod.mk.inj (Except.ok.inj read)
      exact .none _
  complete := by
    rintro ⟨line, column, input⟩ down rest sign ⟨unplus, unminus⟩
    cases sign with
    | none =>
      refine ⟨⟨line, column, input⟩, ?_, rfl⟩
      rw [exponentSign, peek_bind]
      dsimp only
      generalize input.head? = head at unplus unminus ⊢
      split
      · exact absurd rfl unplus
      · exact absurd rfl unminus
      · rfl
    | plus => exact ⟨_, rfl, by simp⟩
    | minus => exact ⟨_, rfl, by simp⟩

section

open Grammar.Numeral

variable (negative : Bool) (significand : Nat) (shift : Int)

theorem real_eq (cursor : Cursor) : real negative significand shift cursor =
    match real? negative significand shift with
    | some n => .ok (n, cursor)
    | none => refuse .numberOutOfRange cursor := by
  unfold real real?
  cases Json.Numeral.magnitude? significand shift <;> rfl

/-- A rule for scanners that take nothing. -/
def Staying {α : Type} (holds : α → Prop) (input : Bytes) (a : α) (rest : Bytes) : Prop :=
  holds a ∧ input = rest

theorem pure_reads {α : Type} (a : α) : Reads (pure a) (Staying (a = ·)) anything where
  sound := by
    intro cursor b after read
    obtain ⟨rfl, rfl⟩ := Prod.mk.inj (Except.ok.inj read)
    exact ⟨rfl, rfl⟩
  complete := by
    rintro cursor _ rest ⟨rfl, rfl⟩ _
    exact ⟨cursor, rfl, rfl⟩

theorem real_reads : Reads (real negative significand shift)
    (Staying (real? negative significand shift = some ·)) anything where
  sound := by
    intro cursor n after read
    rw [real_eq] at read
    cases value : real? negative significand shift with
    | none => simp [value, refuse] at read
    | some m =>
      rw [value] at read
      obtain ⟨rfl, rfl⟩ := Prod.mk.inj (Except.ok.inj read)
      exact ⟨rfl, rfl⟩
  complete := by
    rintro cursor n rest ⟨value, rfl⟩ _
    exact ⟨cursor, by rw [real_eq, value], rfl⟩

theorem exponentDigits_reads (down : Bool) :
    Reads (exponentDigits negative significand shift down)
      (fun input n rest => ∃ run, Run input run rest ∧
        scaled? negative significand shift (some (down, run)) = some n) anything where
  sound := by
    intro cursor n after read
    obtain ⟨_, _, looked, read⟩ := bind_eq_ok_iff.mp read
    obtain ⟨rfl, rfl⟩ := Prod.mk.inj (Except.ok.inj looked)
    obtain ⟨run, behind, taken, read⟩ := bind_eq_ok_iff.mp read
    have longest := digits_reads.sound taken
    refine ⟨run, ?_⟩
    cases size : Json.Numeral.exponentValue 0 0 run with
    | ok value =>
      rw [size] at read
      obtain ⟨number, stays⟩ := (real_reads ..).sound read
      rw [stays] at longest
      exact ⟨longest, by simpa only [scaled?, size] using number⟩
    | error count =>
      rw [size] at read
      by_cases beyond : significand ≠ 0 ∧ (!down) = true
      · simp only [if_pos beyond] at read
        nomatch read
      · simp only [if_neg beyond] at read
        obtain ⟨rfl, rfl⟩ := Prod.mk.inj (Except.ok.inj read)
        exact ⟨longest, by simp only [scaled?, size, if_neg beyond]⟩
  complete := by
    rintro cursor n rest ⟨run, longest, value⟩ _
    obtain ⟨behind, taken, rfl⟩ := digits_reads.complete longest trivial
    have looked : (get : Scan Cursor) cursor = .ok (cursor, cursor) := rfl
    rw [exponentDigits, bind_of_ok looked, bind_of_ok taken]
    cases size : Json.Numeral.exponentValue 0 0 run with
    | ok exponent =>
      simp only [scaled?, size] at value
      exact (real_reads ..).complete ⟨value, rfl⟩ trivial
    | error count =>
      simp only [scaled?, size] at value
      by_cases beyond : significand ≠ 0 ∧ (!down) = true
      · rw [if_pos beyond] at value
        nomatch value
      · rw [if_neg beyond] at value
        obtain rfl := Option.some.inj value
        refine ⟨behind, ?_, rfl⟩
        simp only [if_neg beyond]
        rfl

/-- The letter in front has been looked at. -/
theorem exponentPart_reads :
    Reads (exponentPart negative significand shift)
      (fun input n rest => ∃ power, Power input.tail power rest ∧
        scaled? negative significand shift (some power) = some n) Stops where
  sound := by
    intro cursor n after read
    rw [exponentPart, advance_bind] at read
    obtain ⟨down, signed, taken, read⟩ := bind_eq_ok_iff.mp read
    rw [peek_bind] at read
    have sign := exponentSign_reads.sound taken
    generalize first : signed.rest.head? = head at read
    cases head with
    | none => nomatch read
    | some byte =>
      by_cases digit : Cursor.digit byte
      · simp only [if_pos digit] at read
        obtain ⟨run, longest, value⟩ := (exponentDigits_reads ..).sound read
        rw [Cursor.past_rest, longest.parts] at sign
        have nonempty := longest.ne_nil_of_head? first digit
        exact ⟨(down, run), .digits _ sign nonempty longest.all, value⟩
      · simp only [if_neg digit] at read
        nomatch read
  complete := by
    rintro cursor n rest ⟨_, power, value⟩ stops
    cases power with
    | @digits down run _ sign nonempty all =>
      have longest : Run (run ++ rest) run rest := ⟨rfl, all, stops⟩
      obtain ⟨byte, first, digit⟩ := longest.head?_of_ne_nil nonempty
      have unsigned : (run ++ rest).head? ≠ some 0x2B ∧ (run ++ rest).head? ≠ some 0x2D := by
        rw [first]
        constructor <;> rintro same <;> cases Option.some.inj same <;> nomatch digit
      rw [← Cursor.past_rest] at sign
      obtain ⟨signed, taken, behind⟩ := exponentSign_reads.complete sign unsigned
      rw [← behind] at longest first
      rw [exponentPart, advance_bind, bind_of_ok taken, peek_bind, first]
      simp only [if_pos digit]
      exact (exponentDigits_reads ..).complete ⟨run, longest, value⟩ trivial

/-- A significand up to its exponent, or something else without one. -/
inductive Scaled (without : Number → Prop) : Bytes → Number → Bytes → Prop where
  | plain {n} (rest) (holds : without n) : Scaled without rest n rest
  | power {letter input power n rest} (letter_e : letter = 0x65 ∨ letter = 0x45)
    (behind : Power input power rest)
    (value : scaled? negative significand shift (some power) = some n) :
    Scaled without (letter :: input) n rest

theorem scaledPart_reads {plain : Scan Number} {without : Number → Prop}
    (reads : Reads plain (Staying without) anything) :
    Reads (scaledPart negative significand shift plain)
      (Scaled negative significand shift without) Clear where
  sound := by
    intro cursor n after read
    rw [scaledPart, peek_bind] at read
    have scaled (letter : UInt8) (letter_e : letter = 0x65 ∨ letter = 0x45)
        (first : cursor.rest.head? = some letter)
        (read : exponentPart negative significand shift cursor = .ok (n, after)) :
        Scaled negative significand shift without cursor.rest n after.rest := by
      obtain ⟨tail, input⟩ := List.head?_eq_some_iff.mp first
      obtain ⟨power, behind, value⟩ := (exponentPart_reads ..).sound read
      rw [input] at behind ⊢
      exact .power letter_e behind value
    generalize first : cursor.rest.head? = head at read
    split at read
    next => exact scaled _ (.inl rfl) first read
    next => exact scaled _ (.inr rfl) first read
    next =>
      obtain ⟨holds, stays⟩ := reads.sound read
      rw [stays]
      exact .plain _ holds
  complete := by
    rintro ⟨line, column, input⟩ n rest scaled clear
    rw [scaledPart, peek_bind]
    cases scaled with
    | plain _ holds =>
      obtain ⟨unscaled, unscaled'⟩ := clear.unscaled
      generalize input.head? = head at unscaled unscaled' ⊢
      split
      · exact absurd rfl unscaled
      · exact absurd rfl unscaled'
      · exact reads.complete ⟨holds, rfl⟩ trivial
    | power letter_e behind value =>
      rcases letter_e with rfl | rfl <;>
        exact (exponentPart_reads ..).complete ⟨_, behind, value⟩ clear.stops

theorem scaled_iff {input rest : Bytes} {n : Number} :
    Scaled negative significand shift (real? negative significand shift = some ·) input n rest ↔
      ∃ exponent, Exponent input exponent rest ∧
        scaled? negative significand shift exponent = some n := by
  constructor
  · rintro (⟨_, holds⟩ | ⟨letter_e, behind, value⟩)
    · exact ⟨none, .none _, holds⟩
    · exact ⟨some _, .some letter_e behind, value⟩
  · rintro ⟨_, _ | ⟨letter_e, behind⟩, value⟩
    · exact .plain _ value
    · exact .power letter_e behind value

/-- The digits behind a point, for a significand that was gathered in front of it. -/
def Decimals (input : Bytes) (n : Number) (rest : Bytes) : Prop :=
  ∃ run between exponent, run ≠ [] ∧ Run input run between ∧ Exponent between exponent rest ∧
    let (gathered, ignored) := Json.Numeral.gather significand run
    scaled? negative gathered (shift - (run.length - ignored.length : Nat)) exponent = some n

/-- The point in front has been looked at. -/
theorem fractionPart_reads : Reads (fractionPart negative significand shift)
    (fun input => Decimals negative significand shift input.tail) Clear where
  sound := by
    intro cursor n after read
    rw [fractionPart, advance_bind] at read
    obtain ⟨run, behind, taken, read⟩ := bind_eq_ok_iff.mp read
    have longest := digits_reads.sound taken
    rw [Cursor.past_rest] at longest
    by_cases empty : run.isEmpty
    · rw [if_pos empty] at read
      obtain ⟨head, _, looked, read⟩ := bind_eq_ok_iff.mp read
      cases head <;> nomatch read
    · rw [if_neg empty] at read
      have scaled := (scaledPart_reads _ _ _ (real_reads ..)).sound read
      obtain ⟨exponent, part, value⟩ := (scaled_iff ..).mp scaled
      exact ⟨run, _, exponent, by simpa using empty, longest, part, value⟩
  complete := by
    rintro cursor n rest ⟨run, between, exponent, nonempty, longest, part, value⟩ clear
    rw [← Cursor.past_rest] at longest
    obtain ⟨behind, taken, rfl⟩ := digits_reads.complete longest trivial
    have scaled := (scaled_iff ..).mpr ⟨exponent, part, value⟩
    obtain ⟨after, read, done⟩ := (scaledPart_reads _ _ _ (real_reads ..)).complete scaled clear
    refine ⟨after, ?_, done⟩
    rw [fractionPart, advance_bind, bind_of_ok taken, if_neg (by simpa using nonempty)]
    exact read

theorem value?_of_power (whole : Bytes) (power : Bool × Bytes) :
    value? negative ⟨whole, [], some power⟩ =
      scaled? negative (Json.Numeral.gather 0 whole).1 (Json.Numeral.gather 0 whole).2.length
        (some power) := by
  simp [value?, Json.Numeral.gather]

/-- A number without fraction and exponent. -/
def unscaled (whole : Bytes) : Scan Number :=
  if (Json.Numeral.gather 0 whole).2.isEmpty then
    return Json.Numeral.integer negative (Json.Numeral.gather 0 whole).1
  else
    real negative (Json.Numeral.gather 0 whole).1 (Json.Numeral.gather 0 whole).2.length

theorem unscaled_reads (whole : Bytes) : Reads (unscaled negative whole)
    (Staying (value? negative ⟨whole, [], none⟩ = some ·)) anything := by
  by_cases fits : (Json.Numeral.gather 0 whole).2 = []
  · simpa [unscaled, value?, Json.Numeral.gather, fits] using
      pure_reads (Json.Numeral.integer negative (Json.Numeral.gather 0 whole).1)
  · simpa [unscaled, value?, Json.Numeral.gather, fits, scaled?] using
      real_reads negative (Json.Numeral.gather 0 whole).1 (Json.Numeral.gather 0 whole).2.length

theorem number_eq {cursor behind : Cursor} {whole : Bytes}
    (taken : wholePart cursor = .ok (whole, behind)) :
    number negative cursor =
      (match behind.rest.head? with
      | some 0x2E =>
        fractionPart negative (Json.Numeral.gather 0 whole).1 (Json.Numeral.gather 0 whole).2.length
      | _ =>
        scaledPart negative (Json.Numeral.gather 0 whole).1 (Json.Numeral.gather 0 whole).2.length
          (unscaled negative whole) : Scan Number) behind := by
  rw [number, bind_of_ok taken]
  rfl

/-- A number behind its sign. -/
def Numbers (input : Bytes) (n : Number) (rest : Bytes) : Prop :=
  ∃ numeral, Written input numeral rest ∧ numeral.value? negative = some n

theorem number_reads : Reads (number negative) (Numbers negative) Clear where
  sound := by
    intro cursor n after read
    obtain ⟨whole, behind, taken, -⟩ := bind_eq_ok_iff.mp read
    rw [number_eq negative taken] at read
    have first := wholePart_reads.sound taken
    generalize point : behind.rest.head? = head at read
    split at read
    next =>
      obtain ⟨run, between, exponent, nonempty, longest, third, value⟩ :=
        (fractionPart_reads ..).sound read
      obtain ⟨tail, input⟩ := List.head?_eq_some_iff.mp point
      rw [input] at longest first
      obtain rfl : tail = run ++ between := longest.parts
      refine ⟨⟨whole, run, exponent⟩, .parts first (.digits _ nonempty longest.all) third, ?_⟩
      simpa [value?, nonempty] using value
    next =>
      have scaled := (scaledPart_reads _ _ _ (unscaled_reads negative whole)).sound read
      generalize behind.rest = between at first scaled
      rcases scaled with ⟨_, holds⟩ | ⟨letter_e, power, value⟩
      · exact ⟨⟨whole, [], none⟩, .parts first (.none _) (.none _), holds⟩
      · refine ⟨⟨whole, [], some _⟩, .parts first (.none _) (.some letter_e power), ?_⟩
        rwa [value?_of_power]
  complete := by
    rintro cursor n rest ⟨numeral, written, value⟩ clear
    cases written with
    | @parts whole behindWhole fraction behindFraction exponent _ first second third =>
      have stops := stops_of_exponent third clear.stops
      cases second with
      | none =>
        obtain ⟨behind, taken, rfl⟩ := wholePart_reads.complete first stops
        rw [number_eq negative taken]
        have scaled : Scaled negative (Json.Numeral.gather 0 whole).1
            (Json.Numeral.gather 0 whole).2.length
            (value? negative ⟨whole, [], none⟩ = some ·) behind.rest n rest := by
          generalize behind.rest = between at third
          cases third with
          | none => exact .plain _ value
          | some letter_e power => exact .power letter_e power (value?_of_power .. ▸ value)
        have unpointed := unpointed_of_exponent third clear
        have read := (scaledPart_reads _ _ _ (unscaled_reads negative whole)).complete scaled clear
        generalize behind.rest.head? = head at unpointed ⊢
        split
        · exact absurd rfl unpointed
        · exact read
      | digits _ nonempty all =>
        have longest : Run (fraction ++ behindFraction) fraction behindFraction :=
          ⟨rfl, all, stops⟩
        obtain ⟨behind, taken, point⟩ :=
          wholePart_reads.complete first (stops_cons_iff.mpr (by decide))
        rw [number_eq negative taken, point]
        have decimals : Decimals negative (Json.Numeral.gather 0 whole).1
            (Json.Numeral.gather 0 whole).2.length behind.rest.tail n rest :=
          ⟨fraction, behindFraction, exponent, nonempty, by simpa [point] using longest, third,
            by simpa [value?, nonempty] using value⟩
        exact (fractionPart_reads ..).complete decimals clear

end

end Scan

end CommandLink.Json
