import CommandLink.Bytes

/-!
# Scanning JSON text

A reader walks over the bytes of a text with a cursor that knows its line and
column. A scanner either returns what it read and the cursor behind it, or the
first problem it met.

A problem is found at one of two places. A byte that was already taken is
blamed where the cursor stands (`refuse`); a byte that was only looked at is
blamed one place further (`refuseNext`), as if it had been taken too.

The open-ended loops are bounded by the number of bytes left, since each round
takes at least one.
-/

namespace CommandLink.Json

inductive Cause where
  | endInValue
  | endInList
  | endInObject
  | endInText
  | expectedValue
  | expectedIdentifier
  | expectedColon
  | expectedListCommaOrEnd
  | expectedObjectCommaOrEnd
  | trailingComma
  | trailingCharacters
  | nameNotText
  | invalidNumber
  | numberOutOfRange
  | invalidEscape
  | invalidCodePoint
  | controlCharacter
  | loneSurrogate
  | endOfSurrogate
  | tooDeep
  | mismatch (found expected : String)
  | badValue (found expected : String)
  | missingField (name : String)
  | repeatedField (name : String)
  | tooShort (length : Nat) (expected : String)
  deriving DecidableEq, Repr

def Cause.message : Cause → String
  | .endInValue => "EOF while parsing a value"
  | .endInList => "EOF while parsing a list"
  | .endInObject => "EOF while parsing an object"
  | .endInText => "EOF while parsing a string"
  | .expectedValue => "expected value"
  | .expectedIdentifier => "expected ident"
  | .expectedColon => "expected `:`"
  | .expectedListCommaOrEnd => "expected `,` or `]`"
  | .expectedObjectCommaOrEnd => "expected `,` or `\x7d`"
  | .trailingComma => "trailing comma"
  | .trailingCharacters => "trailing characters"
  | .nameNotText => "key must be a string"
  | .invalidNumber => "invalid number"
  | .numberOutOfRange => "number out of range"
  | .invalidEscape => "invalid escape"
  | .invalidCodePoint => "invalid unicode code point"
  | .controlCharacter => "control character (\\u0000-\\u001F) found while parsing a string"
  | .loneSurrogate => "lone leading surrogate in hex escape"
  | .endOfSurrogate => "unexpected end of hex escape"
  | .tooDeep => "recursion limit exceeded"
  | .mismatch found expected => "invalid type: " ++ found ++ ", expected " ++ expected
  | .badValue found expected => "invalid value: " ++ found ++ ", expected " ++ expected
  | .missingField name => "missing field `" ++ name ++ "`"
  | .repeatedField name => "duplicate field `" ++ name ++ "`"
  | .tooShort length expected =>
    "invalid length " ++ toString length ++ ", expected " ++ expected

structure Problem where
  cause : Cause
  line : Nat
  column : Nat
  deriving DecidableEq, Repr

def Problem.message (problem : Problem) : String :=
  problem.cause.message ++ " at line " ++ toString problem.line ++
    " column " ++ toString problem.column

/-- Lines count from one, columns from zero: a column is the number of bytes
before the cursor in its line. -/
structure Cursor where
  line : Nat
  column : Nat
  rest : Bytes
  deriving DecidableEq, Repr

namespace Cursor

def start (text : Bytes) : Cursor := ⟨1, 0, text⟩

/-- The cursor behind the next byte; at the end of the text it stays. -/
def past (cursor : Cursor) : Cursor :=
  match cursor.rest with
  | [] => cursor
  | byte :: rest =>
    if byte = 0x0A then ⟨cursor.line + 1, 0, rest⟩ else ⟨cursor.line, cursor.column + 1, rest⟩

def blank (byte : UInt8) : Bool := byte = 0x20 || byte = 0x0A || byte = 0x09 || byte = 0x0D

/-- The cursor behind a run of blanks. -/
def pastBlanks (cursor : Cursor) : Cursor := go cursor.line cursor.column cursor.rest
where
  go (line column : Nat) : Bytes → Cursor
    | [] => ⟨line, column, []⟩
    | byte :: rest =>
      if blank byte then
        if byte = 0x0A then go (line + 1) 0 rest else go line (column + 1) rest
      else
        ⟨line, column, byte :: rest⟩

def digit (byte : UInt8) : Bool := 0x30 ≤ byte && byte ≤ 0x39

/-- The digits at the cursor and the cursor behind them. -/
def digits (cursor : Cursor) : Bytes × Cursor :=
  let run := cursor.rest.takeWhile digit
  (run, ⟨cursor.line, cursor.column + run.length, cursor.rest.dropWhile digit⟩)

end Cursor

abbrev Scan (α : Type) := StateT Cursor (Except Problem) α

namespace Scan

variable {α : Type}

/-- Give up, blaming the place of the cursor. -/
def refuse (cause : Cause) : Scan α := fun cursor => .error ⟨cause, cursor.line, cursor.column⟩

/-- Give up, blaming the byte that was looked at. -/
def refuseNext (cause : Cause) : Scan α :=
  fun cursor => .error ⟨cause, cursor.past.line, cursor.past.column⟩

def peek : Scan (Option UInt8) := fun cursor => .ok (cursor.rest.head?, cursor)

def advance : Scan Unit := fun cursor => .ok ((), cursor.past)

/-- Take the next byte, if there is one. -/
def next : Scan (Option UInt8) := fun cursor => .ok (cursor.rest.head?, cursor.past)

def skipBlanks : Scan Unit := fun cursor => .ok ((), cursor.pastBlanks)

/-- Skip blanks and look at the byte behind them. -/
def peekToken : Scan (Option UInt8) := do
  skipBlanks
  peek

def digits : Scan Bytes := fun cursor => .ok cursor.digits

/-- Enough rounds for a loop that takes a byte in each. -/
def rounds : Scan Nat := fun cursor => .ok (cursor.rest.length + 1, cursor)

/-- The remaining letters of a keyword whose first letter was taken. -/
def keyword : Bytes → Scan Unit
  | [] => pure ()
  | expected :: letters => do
    match ← next with
    | none => refuse .endInValue
    | some found => if found = expected then keyword letters else refuse .expectedIdentifier

/-! ## Strings -/

def hexValue? (byte : UInt8) : Option Nat :=
  if 0x30 ≤ byte ∧ byte ≤ 0x39 then some (byte.toNat - 48)
  else if 0x41 ≤ byte ∧ byte ≤ 0x46 then some (byte.toNat - 55)
  else if 0x61 ≤ byte ∧ byte ≤ 0x66 then some (byte.toNat - 87)
  else none

/-- The four hexadecimal digits of an escape. All four are taken before any of
them is judged; fewer than four exhaust the text. -/
def hexUnit : Scan Nat := fun cursor =>
  match cursor.rest with
  | a :: b :: c :: d :: _ =>
    let after := cursor.past.past.past.past
    match hexValue? a, hexValue? b, hexValue? c, hexValue? d with
    | some a, some b, some c, some d => .ok (((a * 16 + b) * 16 + c) * 16 + d, after)
    | _, _, _, _ => refuse .invalidEscape after
  | [] => refuse .endInText cursor
  | [_] => refuse .endInText cursor.past
  | [_, _] => refuse .endInText cursor.past.past
  | [_, _, _] => refuse .endInText cursor.past.past.past

/-- The character named by a `\u` escape. Characters beyond U+FFFF are written
as a leading and a trailing surrogate in two escapes. -/
def unicodeEscape : Scan Bytes := do
  let unit ← hexUnit
  if 0xDC00 ≤ unit ∧ unit ≤ 0xDFFF then
    refuse .loneSurrogate
  else if unit < 0xD800 ∨ 0xDBFF < unit then
    return String.utf8EncodeChar (Char.ofNat unit)
  else
    expectPart 0x5C
    expectPart 0x75
    let second ← hexUnit
    if second < 0xDC00 ∨ 0xDFFF < second then
      refuse .loneSurrogate
    else
      return String.utf8EncodeChar
        (Char.ofNat ((unit - 0xD800) * 1024 + (second - 0xDC00) + 0x10000))
where
  expectPart (byte : UInt8) : Scan Unit := do
    match ← next with
    | none => refuse .endInText
    | some found => if found = byte then pure () else refuse .endOfSurrogate

/-- What a one-letter escape stands for. -/
def shortEscape? (letter : UInt8) : Option UInt8 :=
  match letter with
  | 0x22 => some 0x22
  | 0x5C => some 0x5C
  | 0x2F => some 0x2F
  | 0x62 => some 0x08
  | 0x66 => some 0x0C
  | 0x6E => some 0x0A
  | 0x72 => some 0x0D
  | 0x74 => some 0x09
  | _ => none

/-- The bytes an escape stands for, behind its backslash. -/
def escape : Scan Bytes := do
  match ← next with
  | none => refuse .endInText
  | some letter =>
    if letter = 0x75 then
      unicodeEscape
    else
      match shortEscape? letter with
      | some byte => return [byte]
      | none => refuse .invalidEscape

/-- The bytes a string stands for, read behind its opening quote; `taken` holds
what came before, last byte first. -/
def textTail : Nat → Bytes → Scan Bytes
  | 0, _ => refuse .endInText
  | rounds + 1, taken => do
    match ← peek with
    | none => refuse .endInText
    | some byte =>
      advance
      if byte = 0x22 then
        return taken.reverse
      else if byte = 0x5C then
        textTail rounds ((← escape).reverse ++ taken)
      else if byte < 0x20 then
        refuse .controlCharacter
      else
        textTail rounds (byte :: taken)

/-- A string, read behind its opening quote. The bytes that it stands for must
form UTF-8, which is judged when the closing quote was taken. The place blamed
is counted back from there, by the bytes from the first one on that breaks the
form. It lies in the same line, for no escape is shorter than what it stands
for, and a string holds no line break. -/
def text : Scan String := do
  let bytes ← textTail (← rounds) []
  match Bytes.text? bytes with
  | some text => return text
  | none =>
    let cursor ← get
    let broken := bytes.length - Bytes.textLength bytes
    throw ⟨.invalidCodePoint, cursor.line, cursor.column - broken⟩

/-- Pass over the rest of a string. Escapes are checked for their form only,
and a control character is blamed where it stands. -/
def skipTextTail : Nat → Scan Unit
  | 0 => refuse .endInText
  | rounds + 1 => do
    match ← peek with
    | none => refuse .endInText
    | some byte =>
      if byte = 0x22 then
        advance
      else if byte = 0x5C then
        advance
        match ← next with
        | none => refuse .endInText
        | some letter =>
          if letter = 0x75 then
            discard hexUnit
          else if (shortEscape? letter).isNone then
            refuse .invalidEscape
        skipTextTail rounds
      else if byte < 0x20 then
        refuse .controlCharacter
      else
        advance
        skipTextTail rounds

def skipText : Scan Unit := do skipTextTail (← rounds)

/-! ## Lists and objects -/

variable (item : Scan α)

/-- The items behind the first one, up to the closing bracket. -/
def itemsTail : Nat → List α → Scan (List α)
  | 0, _ => refuse .endInList
  | rounds + 1, taken => do
    match ← peekToken with
    | none => refuseNext .endInList
    | some 0x5D =>
      advance
      return taken.reverse
    | some 0x2C =>
      advance
      match ← peekToken with
      | none => refuseNext .endInValue
      | some 0x5D => refuseNext .trailingComma
      | some _ => itemsTail rounds ((← item) :: taken)
    | some _ => refuseNext .expectedListCommaOrEnd

/-- The items of a list behind its opening bracket. -/
def items : Scan (List α) := do
  match ← peekToken with
  | none => refuseNext .endInList
  | some 0x5D =>
    advance
    return []
  | some _ =>
    let first ← item
    itemsTail item (← rounds) [first]

/-- The colon between a name and its value. -/
def colon : Scan Unit := do
  match ← peekToken with
  | none => refuseNext .endInObject
  | some 0x3A => advance
  | some _ => refuseNext .expectedColon

/-- Go to the next name of an object and take its opening quote; `false` at
the closing brace, which stays. -/
def nextName (first : Bool) : Scan Bool := do
  match ← peekToken with
  | none => refuseNext .endInObject
  | some 0x7D => return false
  | some byte =>
    if first then
      if byte = 0x22 then
        advance
        return true
      else
        refuseNext .nameNotText
    else if byte = 0x2C then
      advance
      match ← peekToken with
      | none => refuseNext .endInValue
      | some 0x22 =>
        advance
        return true
      | some 0x7D => refuseNext .trailingComma
      | some _ => refuseNext .nameNotText
    else
      refuseNext .expectedObjectCommaOrEnd

def fieldsTail : Nat → Bool → List (String × α) → Scan (List (String × α))
  | 0, _, _ => refuse .endInObject
  | rounds + 1, first, taken => do
    if ← nextName first then
      let name ← text
      colon
      let value ← item
      fieldsTail rounds false ((name, value) :: taken)
    else
      advance
      return taken.reverse

/-- The fields of an object behind its opening brace, in their order. -/
def fields : Scan (List (String × α)) := do fieldsTail item (← rounds) true []

/-- Only blanks may follow. -/
def finish : Scan Unit := do
  match ← peekToken with
  | none => pure ()
  | some _ => refuseNext .trailingCharacters

end Scan

/-- Read a whole text. -/
def Scan.run {α : Type} (scan : Scan α) (text : Bytes) : Except Problem α :=
  match (do let value ← scan; Scan.finish; return value : Scan α) (Cursor.start text) with
  | .ok (value, _) => .ok value
  | .error problem => .error problem

end CommandLink.Json
