import CommandLink.Json.Basic
import CommandLink.Json.Scan

/-!
# Reading numbers

The digits of a number are gathered into a significand of 64 bits. The first
digit that would make it outgrow 64 bits ends the gathering: further digits of
the whole part only count as powers of ten, further digits of the fraction do
not count at all.

A number without fraction and exponent whose value fits is an integer. Every
other number is real: the significand is multiplied or divided by a power of
ten in one floating-point operation, so that the result can be off by a unit
in the last place from the nearest double. Results beyond the doubles are
refused; results too small for them are zero.
-/

namespace CommandLink.Json

namespace Numeral

/-- The first number beyond 64 bits. -/
def limit : Nat := 0x10000000000000000

def digitValue (byte : UInt8) : Nat := byte.toNat - 48

/-- Append digits to a significand while it stays below the limit. Returns it
with the digits left over. -/
def gather (significand : Nat) : Bytes → Nat × Bytes
  | [] => (significand, [])
  | byte :: rest =>
    let next := significand * 10 + digitValue byte
    if next < limit then gather next rest else (significand, byte :: rest)

/-- The largest power of ten that is a double. -/
def maxPower : Nat := 308

def power (exponent : Nat) : Float := Float.ofScientific 1 false exponent

/-- Divide by `10 ^ exponent`, in steps where that is no double. -/
def divide (value : Float) (exponent : Nat) : Float :=
  if exponent ≤ maxPower then
    value / power exponent
  else if value == 0 then
    value
  else
    divide (value / power maxPower) (exponent - maxPower)
termination_by exponent
decreasing_by simp only [maxPower] at *; omega

/-- `significand * 10 ^ exponent`, or `none` beyond the doubles. -/
def magnitude? (significand : Nat) (exponent : Int) : Option Float :=
  let value := significand.toUInt64.toFloat
  if exponent < 0 then
    some (divide value exponent.natAbs)
  else if exponent.natAbs ≤ maxPower then
    let product := value * power exponent.natAbs
    if product.isInf then none else some product
  else if significand = 0 then
    some value
  else
    none

def signed (negative : Bool) (value : Float) : Float := if negative then -value else value

/-- The magnitude of the lowest integer. -/
def lowest : Nat := 0x8000000000000000

/-- The number that 64 bits of digits and a sign stand for. There is no integer
`-0`, and none below `-2 ^ 63`. -/
def integer (negative : Bool) (whole : Nat) : Number :=
  if !negative then
    .integer whole
  -- As an integer, zero would lose its sign.
  else if whole = 0 ∨ lowest < whole then
    .real (signed true whole.toUInt64.toFloat)
  else
    .integer (-whole)

/-- The first exponent that is not told apart from larger ones. -/
def exponentLimit : Nat := 0x80000000

/-- The value of the digits of an exponent; `none` with the number of digits
it took to reach the limit. -/
def exponentValue (value count : Nat) : Bytes → Except Nat Nat
  | [] => .ok value
  | byte :: rest =>
    let next := value * 10 + digitValue byte
    if next < exponentLimit then exponentValue next (count + 1) rest else .error (count + 1)

end Numeral

namespace Scan

open Numeral

def real (negative : Bool) (significand : Nat) (exponent : Int) : Scan Number :=
  match magnitude? significand exponent with
  | some value => return .real (signed negative value)
  | none => refuse .numberOutOfRange

/-- The sign of an exponent, and whether it is negative. -/
def exponentSign : Scan Bool := do
  match ← peek with
  | some 0x2B =>
    advance
    return false
  | some 0x2D =>
    advance
    return true
  | _ => return false

/-- The digits of an exponent. An exponent beyond all limits makes the number
zero or puts it out of range; the latter is blamed on the digit that went
beyond. -/
def exponentDigits (negative : Bool) (significand : Nat) (shift : Int) (down : Bool) :
    Scan Number := do
  let before ← get
  let run ← digits
  match exponentValue 0 0 run with
  | .ok value => real negative significand (if down then shift - value else shift + value)
  | .error count =>
    if significand ≠ 0 ∧ !down then
      set { before with column := before.column + count }
      refuse .numberOutOfRange
    else
      return .real (signed negative 0)

/-- The exponent behind its letter. -/
def exponentPart (negative : Bool) (significand : Nat) (shift : Int) : Scan Number := do
  advance
  let down ← exponentSign
  match ← peek with
  | none => refuse .endInValue
  | some byte =>
    if Cursor.digit byte then
      exponentDigits negative significand shift down
    else
      advance
      refuse .invalidNumber

/-- A number whose digits were taken, up to an exponent; it is `plain` without
one. -/
def scaledPart (negative : Bool) (significand : Nat) (shift : Int) (plain : Scan Number) :
    Scan Number := do
  match ← peek with
  | some 0x65 => exponentPart negative significand shift
  | some 0x45 => exponentPart negative significand shift
  | _ => plain

/-- The fraction behind its point. -/
def fractionPart (negative : Bool) (significand : Nat) (shift : Int) : Scan Number := do
  advance
  let run ← digits
  if run.isEmpty then
    match ← peek with
    | none => refuseNext .endInValue
    | some _ => refuseNext .invalidNumber
  else
    let (gathered, ignored) := gather significand run
    let shift := shift - (run.length - ignored.length : Nat)
    scaledPart negative gathered shift (real negative gathered shift)

/-- The whole part without superfluous zeros in front. -/
def wholePart : Scan Bytes := do
  match ← next with
  | none => refuse .endInValue
  | some byte =>
    if !Cursor.digit byte then
      refuse .invalidNumber
    else if byte = 0x30 then
      match ← peek with
      | some follower =>
        if Cursor.digit follower then refuseNext .invalidNumber else return [byte]
      | none => return [byte]
    else
      return byte :: (← digits)

/-- A number behind its sign. -/
def number (negative : Bool) : Scan Number := do
  let (significand, ignored) := gather 0 (← wholePart)
  match ← peek with
  | some 0x2E => fractionPart negative significand ignored.length
  | _ =>
    scaledPart negative significand ignored.length <|
      if ignored.isEmpty then return integer negative significand
      else real negative significand ignored.length

/-! ## Numbers that are passed over -/

private def skipExponent : Scan Unit := do
  advance
  discard exponentSign
  match ← next with
  | some byte => if Cursor.digit byte then discard digits else refuse .invalidNumber
  | none => refuse .invalidNumber

private def skipFraction : Scan Unit := do
  advance
  if (← digits).isEmpty then refuseNext .invalidNumber
  match ← peek with
  | some 0x65 => skipExponent
  | some 0x45 => skipExponent
  | _ => pure ()

/-- Pass over a number behind its sign: its form is checked, its size is not. -/
def skipNumber : Scan Unit := do
  match ← next with
  | none => refuse .invalidNumber
  | some byte =>
    if !Cursor.digit byte then
      refuse .invalidNumber
    else if byte = 0x30 then
      match ← peek with
      | some follower => if Cursor.digit follower then refuseNext .invalidNumber
      | none => pure ()
    else
      discard digits
  match ← peek with
  | some 0x2E => skipFraction
  | some 0x65 => skipExponent
  | some 0x45 => skipExponent
  | _ => pure ()

end Scan

end CommandLink.Json
