import CommandLink.Bytes
import CommandLink.Decimal.Shortest
import CommandLink.Json.Basic

/-!
# Writing JSON

Documents are written without blanks. In a string only what JSON forbids raw
is escaped: the quote, the backslash and the control characters below U+0020.

A real number is written with the fewest digits that read back as it. It is
written positionally, with at least one digit after the point, when its first
digit stands between the fifth place after the point and the sixteenth before
it, and with an exponent otherwise.
-/

namespace CommandLink

namespace Number

/-- `digits * 10 ^ exponent` with a point, or with an exponent when its size
leaves the range of positional writing. -/
def positional (x : Decimal.Scientific) : String :=
  let digits := x.digits.repr.toList
  let count := digits.length
  let order : Int := x.exponent + count - 1
  let zeros (n : Nat) := List.replicate n '0'
  if -5 ≤ order && order < 16 then
    if 0 ≤ x.exponent then
      String.ofList (digits ++ zeros x.exponent.toNat ++ ['.', '0'])
    else if 0 ≤ order then
      let whole := order.toNat + 1
      String.ofList (digits.take whole ++ '.' :: digits.drop whole)
    else
      String.ofList ('0' :: '.' :: zeros (order.natAbs - 1) ++ digits)
  else
    let fraction := if count = 1 then [] else '.' :: digits.drop 1
    let sign := if 0 ≤ order then '+' else '-'
    String.ofList (digits.take 1 ++ fraction ++ 'e' :: sign :: order.natAbs.repr.toList)

/-- A finite real number. -/
def realText (value : Float) : String :=
  let bits := value.toBits
  let sign := if bits >>> 63 = 1 then "-" else ""
  let magnitude := Decimal.Binary.ofBits bits
  if magnitude.mantissa = 0 then
    sign ++ "0.0"
  else
    sign ++ positional (Decimal.shortest magnitude)

def render : Number → String
  | .integer value => toString value
  | .real value => realText value

end Number

namespace Json

def hexDigit (n : Nat) : Char := if n < 10 then Char.ofNat (48 + n) else Char.ofNat (87 + n)

/-- One character inside a string. -/
def escapeChar (c : Char) : List Char :=
  if c = '"' then ['\\', '"']
  else if c = '\\' then ['\\', '\\']
  else if c.toNat = 8 then ['\\', 'b']
  else if c.toNat = 9 then ['\\', 't']
  else if c.toNat = 10 then ['\\', 'n']
  else if c.toNat = 12 then ['\\', 'f']
  else if c.toNat = 13 then ['\\', 'r']
  else if c.toNat < 32 then ['\\', 'u', '0', '0', hexDigit (c.toNat / 16), hexDigit (c.toNat % 16)]
  else [c]

/-- Whether a character may stand in a string as itself. -/
def plain (c : Char) : Bool := c != '"' && c != '\\' && 32 ≤ c.toNat

def escape (text : String) : String := String.ofList (text.toList.flatMap escapeChar)

def quoted (text : String) : String := "\"" ++ escape text ++ "\""

mutual

/-- The text of a value. -/
def render : Json → String
  | .null => "null"
  | .boolean true => "true"
  | .boolean false => "false"
  | .number value => value.render
  | .text value => quoted value
  | .list items => "[" ++ renderItems items ++ "]"
  | .object fields => "\x7b" ++ renderFields fields ++ "\x7d"

def renderItems : List Json → String
  | [] => ""
  | [item] => render item
  | item :: next :: rest => render item ++ "," ++ renderItems (next :: rest)

def renderFields : List (String × Json) → String
  | [] => ""
  | [(name, value)] => quoted name ++ ":" ++ render value
  | (name, value) :: next :: rest =>
    quoted name ++ ":" ++ render value ++ "," ++ renderFields (next :: rest)

end

/-- The serialized form of a value. -/
def serialize (value : Json) : Bytes := Bytes.ofText (render value)

theorem escapeChar_plain (c : Char) (ok : plain c = true) : escapeChar c = [c] := by
  simp only [plain, Bool.and_eq_true, bne_iff_ne, decide_eq_true_eq] at ok
  obtain ⟨⟨quote, slash⟩, low⟩ := ok
  simp only [escapeChar, quote, slash, if_false]
  repeat rw [if_neg (by omega)]

/-- Text without special characters is written as it is. -/
theorem escape_plain (text : String) (ok : text.toList.all plain = true) : escape text = text := by
  have same : ∀ chars : List Char, chars.all plain = true → chars.flatMap escapeChar = chars := by
    intro chars
    induction chars with
    | nil => intro; rfl
    | cons c rest ih =>
      intro all
      simp only [List.all_cons, Bool.and_eq_true] at all
      rw [List.flatMap_cons, escapeChar_plain c all.1, ih all.2, List.singleton_append]
  rw [escape, same _ ok, String.ofList_toList]

theorem quoted_plain {text : String} (ok : text.toList.all plain = true) :
    quoted text = "\"" ++ text ++ "\"" := by
  rw [quoted, escape_plain text ok]

end Json

end CommandLink
