import CommandLink.Json.Numeral

/-!
# Reading JSON

`read` accepts exactly one value between blanks. Lists and objects may nest
127 deep. The recursion runs over the depth still allowed; the loops inside
one level run over the bytes left.

Some values are of no interest to the reader of a structure, and `skipValue`
passes over them. It keeps the open brackets on a stack of its own, so no depth
is too deep for it.
-/

namespace CommandLink.Json

namespace Scan

/-- A value whose lists and objects hold values read by `nested`; without it
they are too deep. -/
def valueOver (nested : Option (Scan Json)) : Scan Json := do
  match ← peekToken with
  | none => refuseNext .endInValue
  | some byte =>
    match byte with
    | 0x6E =>
      advance
      keyword [0x75, 0x6C, 0x6C]
      return .null
    | 0x74 =>
      advance
      keyword [0x72, 0x75, 0x65]
      return .boolean true
    | 0x66 =>
      advance
      keyword [0x61, 0x6C, 0x73, 0x65]
      return .boolean false
    | 0x22 =>
      advance
      return .text (← text)
    | 0x2D =>
      advance
      return .number (← number true)
    | 0x5B =>
      match nested with
      | none => refuseNext .tooDeep
      | some inner =>
        advance
        return .list (← items inner)
    | 0x7B =>
      match nested with
      | none => refuseNext .tooDeep
      | some inner =>
        advance
        return ofFields (← fields inner)
    | _ =>
      if Cursor.digit byte then
        return .number (← number false)
      else
        refuseNext .expectedValue

/-- A value that nests at most `depth` deep. -/
def value : Nat → Scan Json
  | 0 => valueOver none
  | depth + 1 => valueOver (some (value depth))

/-- A bracket that waits for its partner. -/
inductive Opening where
  | list
  | object
  deriving DecidableEq, Repr

/-- Close what can be closed behind a value, and stand where the next value
begins; `none` when nothing is open any more. -/
def closeAll : Nat → Bool → List Opening → Scan (Option (List Opening))
  | 0, _, _ => refuse .endInValue
  | _ + 1, _, [] => return none
  | rounds + 1, behindValue, opening :: outer => do
    match ← peekToken, opening with
    | none, .list => refuseNext .endInList
    | none, .object => refuseNext .endInObject
    | some 0x5D, .list =>
      advance
      closeAll rounds true outer
    | some 0x7D, .object =>
      advance
      closeAll rounds true outer
    | some byte, _ =>
      -- Behind an opening bracket the first value needs no comma.
      if !behindValue then
        return some (opening :: outer)
      else if byte = 0x2C then
        advance
        return some (opening :: outer)
      else
        match opening with
        | .list => refuseNext .expectedListCommaOrEnd
        | .object => refuseNext .expectedObjectCommaOrEnd

/-- Pass over a name and its colon. -/
def skipName : Scan Unit := do
  match ← peekToken with
  | none => refuseNext .endInObject
  | some 0x22 => advance
  | some _ => refuseNext .nameNotText
  skipText
  colon

def skipValues : Nat → List Opening → Scan Unit
  | 0, _ => refuse .endInValue
  | rounds + 1, openings => do
    match ← peekToken with
    | none => refuseNext .endInValue
    | some byte =>
      let opened ← match byte with
        | 0x6E => do advance; keyword [0x75, 0x6C, 0x6C]; pure none
        | 0x74 => do advance; keyword [0x72, 0x75, 0x65]; pure none
        | 0x66 => do advance; keyword [0x61, 0x6C, 0x73, 0x65]; pure none
        | 0x22 => do advance; skipText; pure none
        | 0x2D => do advance; skipNumber; pure none
        | 0x5B => do advance; pure (some Opening.list)
        | 0x7B => do advance; pure (some Opening.object)
        | _ => do
          if Cursor.digit byte then skipNumber else refuseNext .expectedValue
          pure none
      match ← closeAll (← Scan.rounds) opened.isNone (opened.toList ++ openings) with
      | none => pure ()
      | some waiting =>
        if waiting.head? = some .object then skipName
        skipValues rounds waiting

/-- Pass over one value. -/
def skipValue : Scan Unit := do skipValues (← rounds) []

end Scan

/-- How deep lists and objects may nest. -/
def maxDepth : Nat := 127

/-- The one value that the text holds. -/
def read (text : Bytes) : Except Problem Json := (Scan.value maxDepth).run text

end CommandLink.Json
