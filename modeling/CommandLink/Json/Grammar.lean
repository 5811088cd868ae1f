import CommandLink.Json.Numeral

/-!
# The grammar of JSON

What a text says, apart from any way to read it. A rule relates the bytes where something begins,
what is said there, and the bytes behind it.

Two things that the form of a text admits say nothing: a surrogate that stands without its
partner, and a number beyond the doubles. Rules that are `lax` let them pass as if they said
something.
-/

namespace CommandLink.Json.Grammar

/-- Any number of blanks. -/
inductive Blanks : Bytes → Bytes → Prop where
  | none (rest) : Blanks rest rest
  | more {byte input rest} (blank : Cursor.blank byte) (further : Blanks input rest) :
    Blanks (byte :: input) rest

/-! ## Strings -/

/-- Four hexadecimal digits and their value. -/
inductive HexUnit : Bytes → Nat → Bytes → Prop where
  | digits {a b c d : UInt8} {w x y z : Nat} (rest) (first : Scan.hexValue? a = some w)
    (second : Scan.hexValue? b = some x) (third : Scan.hexValue? c = some y)
    (fourth : Scan.hexValue? d = some z) :
    HexUnit (a :: b :: c :: d :: rest) (((w * 16 + x) * 16 + y) * 16 + z) rest

def leading (unit : Nat) : Prop := 0xD800 ≤ unit ∧ unit ≤ 0xDBFF

def trailing (unit : Nat) : Prop := 0xDC00 ≤ unit ∧ unit ≤ 0xDFFF

/-- The character that a leading and a trailing surrogate name together. -/
def paired (first second : Nat) : Char :=
  Char.ofNat ((first - 0xD800) * 1024 + (second - 0xDC00) + 0x10000)

variable (lax : Prop)

/-- An escape behind its backslash, and the character it names. -/
inductive Escape : Bytes → Char → Bytes → Prop where
  | short {letter byte} (rest) (stands : Scan.shortEscape? letter = some byte) :
    Escape (letter :: rest) (Char.ofNat byte.toNat) rest
  | unit {input unit rest} (digits : HexUnit input unit rest)
    (whole : ¬leading unit ∧ ¬trailing unit) : Escape (0x75 :: input) (Char.ofNat unit) rest
  | pair {input first between second rest}
    (digits : HexUnit input first (0x5C :: 0x75 :: between)) (begins : leading first)
    (further : HexUnit between second rest) (ends : trailing second) :
    Escape (0x75 :: input) (paired first second) rest
  | lone (admitted : lax) {input unit rest} (digits : HexUnit input unit rest)
    (surrogate : leading unit ∨ trailing unit) : Escape (0x75 :: input) '\uFFFD' rest

/-- A string behind its opening quote. -/
inductive Text : Bytes → List Char → Bytes → Prop where
  | close (rest) : Text (0x22 :: rest) [] rest
  | plain {c input text rest} (visible : 0x20 ≤ c.toNat) (unquoted : c ≠ '"')
    (unescaped : c ≠ '\\') (further : Text input text rest) :
    Text (String.utf8EncodeChar c ++ input) (c :: text) rest
  | escape {input c between text rest} (escape : Escape lax input c between)
    (further : Text between text rest) : Text (0x5C :: input) (c :: text) rest

/-! ## Numbers -/

def Digits (run : Bytes) : Prop := ∀ byte ∈ run, Cursor.digit byte

/-- The whole part has no superfluous zeros in front. -/
inductive Whole : Bytes → Bytes → Bytes → Prop where
  | zero (rest) : Whole (0x30 :: rest) [0x30] rest
  | run {first run} (rest) (digit : Cursor.digit first) (nonzero : first ≠ 0x30)
    (digits : Digits run) : Whole (first :: (run ++ rest)) (first :: run) rest

inductive Fraction : Bytes → Bytes → Bytes → Prop where
  | none (rest) : Fraction rest [] rest
  | digits {run} (rest) (nonempty : run ≠ []) (digits : Digits run) :
    Fraction (0x2E :: (run ++ rest)) run rest

/-- The sign of an exponent, and whether it is negative. -/
inductive Sign : Bytes → Bool → Bytes → Prop where
  | none (rest) : Sign rest false rest
  | plus (rest) : Sign (0x2B :: rest) false rest
  | minus (rest) : Sign (0x2D :: rest) true rest

/-- An exponent behind its letter: whether it is negative, and its digits. -/
inductive Power : Bytes → Bool × Bytes → Bytes → Prop where
  | digits {input down run} (rest) (sign : Sign input down (run ++ rest)) (nonempty : run ≠ [])
    (digits : Digits run) : Power input (down, run) rest

inductive Exponent : Bytes → Option (Bool × Bytes) → Bytes → Prop where
  | none (rest) : Exponent rest none rest
  | some {letter input power rest} (letter_e : letter = 0x65 ∨ letter = 0x45)
    (behind : Power input power rest) : Exponent (letter :: input) (some power) rest

/-- The digits of a number: none in the fraction, and no exponent, where these are not written. -/
structure Numeral where
  whole : Bytes
  fraction : Bytes
  exponent : Option (Bool × Bytes)

/-- The digits of a number behind its sign. -/
inductive Written : Bytes → Numeral → Bytes → Prop where
  | parts {input whole behindWhole fraction behindFraction exponent rest}
    (first : Whole input whole behindWhole) (second : Fraction behindWhole fraction behindFraction)
    (third : Exponent behindFraction exponent rest) : Written input ⟨whole, fraction, exponent⟩ rest

namespace Numeral

open Json.Numeral

/-- A number in floating point, if it is no larger than the doubles. -/
def real? (negative : Bool) (significand : Nat) (exponent : Int) : Option Number :=
  (magnitude? significand exponent).map fun value => .real (signed negative value)

/-- A significand scaled by a power of ten, to which an exponent may add. An exponent beyond all
limits makes the number zero or puts it out of range. -/
def scaled? (negative : Bool) (significand : Nat) (shift : Int) :
    Option (Bool × Bytes) → Option Number
  | none => real? negative significand shift
  | some (down, digits) =>
    match exponentValue 0 0 digits with
    | .ok exponent =>
      real? negative significand (if down then shift - exponent else shift + exponent)
    | .error _ => if significand ≠ 0 ∧ !down then none else some (.real (signed negative 0))

/-- The number that digits with a sign stand for. Without fraction and exponent it is an integer
if it fits into 64 bits. -/
def value? (negative : Bool) (numeral : Numeral) : Option Number :=
  let (whole, beyond) := gather 0 numeral.whole
  let (significand, ignored) := gather whole numeral.fraction
  if numeral.fraction = [] ∧ numeral.exponent = none ∧ beyond = [] then
    some (integer negative whole)
  else
    scaled? negative significand
      (beyond.length - (numeral.fraction.length - ignored.length : Nat)) numeral.exponent

end Numeral

/-- The sign of a number. -/
inductive Minus : Bytes → Bool → Bytes → Prop where
  | none (rest) : Minus rest false rest
  | minus (rest) : Minus (0x2D :: rest) true rest

/-! ## Values -/

/-- A value without parts. -/
inductive Scalar : Bytes → Json → Bytes → Prop where
  | null (rest) : Scalar (0x6E :: 0x75 :: 0x6C :: 0x6C :: rest) .null rest
  | yes (rest) : Scalar (0x74 :: 0x72 :: 0x75 :: 0x65 :: rest) (.boolean true) rest
  | no (rest) : Scalar (0x66 :: 0x61 :: 0x6C :: 0x73 :: 0x65 :: rest) (.boolean false) rest
  | text {input chars rest} (text : Text lax input chars rest) :
    Scalar (0x22 :: input) (.text (String.ofList chars)) rest
  | number {input negative digits numeral rest value} (minus : Minus input negative digits)
    (written : Written digits numeral rest) (stands : numeral.value? negative = some value) :
    Scalar input (.number value) rest
  | beyond (admitted : lax) {input negative digits numeral rest}
    (minus : Minus input negative digits) (written : Written digits numeral rest) :
    Scalar input (.number (.integer 0)) rest

section Enclosed

variable {α : Type} (item : Bytes → α → Bytes → Prop) (closing : UInt8)

/-- The items behind another one, up to the closing bracket. -/
inductive Further : Bytes → List α → Bytes → Prop where
  | close {input rest} (blanks : Blanks input (closing :: rest)) : Further input [] rest
  | comma {input next begins value behind values rest} (blanks : Blanks input (0x2C :: next))
    (more : Blanks next begins) (first : item begins value behind)
    (further : Further behind values rest) : Further input (value :: values) rest

/-- The items behind an opening bracket. -/
inductive Enclosed : Bytes → List α → Bytes → Prop where
  | empty {input rest} (blanks : Blanks input (closing :: rest)) : Enclosed input [] rest
  | items {input begins value behind values rest} (blanks : Blanks input begins)
    (first : item begins value behind) (further : Further item closing behind values rest) :
    Enclosed input (value :: values) rest

end Enclosed

/-- A name with its value, where values are derived by `nested`. -/
inductive Field (nested : Bytes → Json → Bytes → Prop) :
    Bytes → String × Json → Bytes → Prop where
  | pair {input name behindName colon begins value rest} (text : Text lax input name behindName)
    (blanks : Blanks behindName (0x3A :: colon)) (more : Blanks colon begins)
    (value_of : nested begins value rest) :
    Field nested (0x22 :: input) (String.ofList name, value) rest

/-- A value whose parts are derived by `nested`. -/
inductive Over (nested : Bytes → Json → Bytes → Prop) : Bytes → Json → Bytes → Prop where
  | scalar {input value rest} (scalar : Scalar lax input value rest) :
    Over nested input value rest
  | list {input items rest} (items_of : Enclosed nested 0x5D input items rest) :
    Over nested (0x5B :: input) (.list items) rest
  | object {input fields rest} (fields_of : Enclosed (Field lax nested) 0x7D input fields rest) :
    Over nested (0x7B :: input) (ofFields fields) rest

/-- A value that nests at most `depth` deep. -/
def Value : Nat → Bytes → Json → Bytes → Prop
  | 0 => Scalar lax
  | depth + 1 => Over lax (Value depth)

/-- A text that holds one value between blanks. -/
def Document (depth : Nat) (bytes : Bytes) (value : Json) : Prop :=
  ∃ begins behind, Blanks bytes begins ∧ Value lax depth begins value behind ∧ Blanks behind []

end CommandLink.Json.Grammar
