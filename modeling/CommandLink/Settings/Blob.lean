import CommandLink.Bytes
import CommandLink.Settings.Validation

/-!
# Settings as a blob

The stored form is the values of the fields one after the other. A byte is
stored as itself. A wider value is stored in groups of seven bits, lowest
group first, with the high bit set on every byte but the last.

A reader takes as many bytes as the width can fill and refuses a value whose
last group does not fit it. Groups of zeros at the top are accepted, and so is
anything behind the last field.
-/

namespace CommandLink.Settings

namespace Blob

/-- The groups of a number, lowest first. -/
def groups (n : Nat) : Bytes :=
  if n < 128 then [UInt8.ofNat n] else UInt8.ofNat (n % 128 + 128) :: groups (n / 128)
termination_by n
decreasing_by omega

/-- The number whose groups stand in front and the bytes behind it, if the
number is below `limit` and takes no more groups than such numbers do. -/
def ungroup (limit : Nat) : Bytes → Option (Nat × Bytes)
  | [] => none
  | byte :: rest =>
    if limit = 0 then
      none
    else if byte.toNat < 128 then
      if byte.toNat < limit then some (byte.toNat, rest) else none
    else
      match ungroup (limit / 128) rest with
      | some (high, after) => some (byte.toNat - 128 + 128 * high, after)
      | none => none

def writeValue (width : Width) (value : Nat) : Bytes :=
  match width with
  | .byte => [UInt8.ofNat value]
  | .half => groups value
  | .word => groups value

def readValue (width : Width) (bytes : Bytes) : Option (Nat × Bytes) :=
  match width with
  | .byte =>
    match bytes with
    | [] => none
    | byte :: rest => some (byte.toNat, rest)
  | .half => ungroup Width.half.limit bytes
  | .word => ungroup Width.word.limit bytes

/-- The values of fields with these widths, and the bytes behind them. -/
def readValues : List Width → Bytes → Option (List Nat × Bytes)
  | [], bytes => some ([], bytes)
  | width :: widths, bytes => do
    let (value, rest) ← readValue width bytes
    let (values, after) ← readValues widths rest
    return (value :: values, after)

end Blob

open Blob

def toBlob (settings : Settings) : Bytes :=
  fields.flatMap fun field => writeValue field.width (field.get settings)

/-- The settings stored in a blob, valid or not. -/
def ofBlob? (blob : Bytes) : Option Settings :=
  (readValues (fields.map (·.width)) blob).map fun (values, _) => ofValues values

/-- The settings stored in a blob. -/
def ofBlob (blob : Bytes) : Except SettingsError Settings :=
  match ofBlob? blob with
  | none => .error .decode
  | some settings =>
    match settings.check with
    | .ok () => .ok settings
    | .error error => .error error

end CommandLink.Settings
