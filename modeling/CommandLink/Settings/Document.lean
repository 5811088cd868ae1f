import CommandLink.Json.Printer
import CommandLink.Json.Reader
import CommandLink.Quoted
import CommandLink.Settings.Basic

/-!
# Settings as a document

Settings are written as an object with all fields in their order. They are
read from such an object, in any order and with further fields passed over, or
from a list of the values alone. Every field must be there once and must be an
integer that its width can hold. A document that is read is not checked for
sense.

When a list or object ends too early, or names a field twice, the blame falls
behind the blanks and the closing bracket that follow.
-/

namespace CommandLink.Settings

open Json (Scan)
open Json.Scan

def toJson (settings : Settings) : Json :=
  .object (fields.map fun field => (field.name, Json.ofNat (field.get settings)))

namespace Document

/-- How a problem names the thing that was expected. -/
def expectation : String := "struct TransportConfig"

def widthName : Width → String
  | .byte => "u8"
  | .half => "u16"
  | .word => "u32"

def describe : Number → String
  | .integer value => "integer `" ++ toString value ++ "`"
  | .real value => "floating point `" ++ Number.realText value ++ "`"

/-- Refuse a value of the wrong kind. Scalars are read to their end first. -/
def refuseKind {α : Type} (expected : String) (byte : UInt8) : Scan α := do
  match byte with
  | 0x6E =>
    advance
    keyword [0x75, 0x6C, 0x6C]
    refuse (.mismatch "null" expected)
  | 0x74 =>
    advance
    keyword [0x72, 0x75, 0x65]
    refuse (.mismatch "boolean `true`" expected)
  | 0x66 =>
    advance
    keyword [0x61, 0x6C, 0x73, 0x65]
    refuse (.mismatch "boolean `false`" expected)
  | 0x22 =>
    advance
    let found ← text
    refuse (.mismatch ("string " ++ quotedText found) expected)
  | 0x2D =>
    advance
    let found ← number true
    refuse (.mismatch (describe found) expected)
  | 0x5B => refuse (.mismatch "sequence" expected)
  | 0x7B => refuse (.mismatch "map" expected)
  | _ =>
    if Json.Cursor.digit byte then
      let found ← number false
      refuse (.mismatch (describe found) expected)
    else
      refuseNext .expectedValue

/-- The value of a field of this width. -/
def value (width : Width) : Scan Nat := do
  match ← peekToken with
  | none => refuseNext .endInValue
  | some byte =>
    if byte = 0x2D then
      advance
      accept (← number true)
    else if Json.Cursor.digit byte then
      accept (← number false)
    else
      refuseKind (widthName width) byte
where
  accept : Number → Scan Nat
    | .integer n =>
      if 0 ≤ n ∧ n < width.limit then
        return n.toNat
      else
        refuse (.badValue (describe (.integer n)) (widthName width))
    | .real x => refuse (.mismatch (describe (.real x)) (widthName width))

/-- Refuse an object as a whole, behind its end if that is next. -/
def refuseObject {α : Type} (cause : Json.Cause) : Scan α := do
  if (← peekToken) = some 0x7D then advance
  refuse cause

/-- The named values of an object behind its opening brace. -/
def namedTail : Nat → Bool → List (String × Nat) → Scan (List (String × Nat))
  | 0, _, _ => refuse .endInObject
  | rounds + 1, first, taken => do
    if ← nextName first then
      let name ← text
      match fields.find? (·.name == name) with
      | none =>
        colon
        skipValue
        namedTail rounds false taken
      | some field =>
        -- The second mention is refused before its value is looked at.
        if (taken.lookup name).isSome then
          refuseObject (.repeatedField name)
        else
          colon
          let found ← value field.width
          namedTail rounds false ((name, found) :: taken)
    else
      return taken

def named : Scan Settings := do
  let found ← namedTail (← rounds) true []
  match fields.find? fun field => (found.lookup field.name).isNone with
  | some field => refuseObject (.missingField field.name)
  | none =>
    advance
    return ofValues (fields.map fun field => (found.lookup field.name).getD 0)

/-- The end of a list behind all its values. -/
def endOfList : Scan Unit := do
  match ← peekToken with
  | none => refuseNext .endInList
  | some 0x5D => advance
  | some 0x2C =>
    advance
    if (← peekToken) = some 0x5D then
      refuseNext .trailingComma
    else
      refuseNext .trailingCharacters
  | some _ => refuseNext .trailingCharacters

/-- The values of a list behind its opening bracket, one for each width. -/
def listedTail : List Width → Nat → Scan (List Nat)
  | [], _ => do
    endOfList
    return []
  | width :: widths, count => do
    match ← peekToken with
    | none => refuseNext .endInList
    | some byte =>
      if byte = 0x5D then
        advance
        refuse (.tooShort count (expectation ++ " with " ++ toString fields.length ++ " elements"))
      else if count ≠ 0 then
        if byte ≠ 0x2C then refuseNext .expectedListCommaOrEnd
        advance
        match ← peekToken with
        | none => refuseNext .endInValue
        | some 0x5D => refuseNext .trailingComma
        | some _ => pure ()
      let found ← value width
      return found :: (← listedTail widths (count + 1))

def listed : Scan Settings := do
  return ofValues (← listedTail (fields.map (·.width)) 0)

def settings : Scan Settings := do
  match ← peekToken with
  | none => refuseNext .endInValue
  | some 0x5B =>
    advance
    listed
  | some 0x7B =>
    advance
    named
  | some byte => refuseKind expectation byte

end Document

/-- The settings written in a document, valid or not. -/
def ofDocument (text : Bytes) : Except Json.Problem Settings := Document.settings.run text

end CommandLink.Settings
