import CommandLink.Failure
import CommandLink.Json.Printer

/-!
# Documents

A document is serialized twice: once to be measured and once to be written.
The two passes may disagree, because a document may show something that changes
in between, and each may fail.
-/

namespace CommandLink

structure Document where
  /-- What the first pass yields; `none` when it fails. -/
  measured : Option Bytes
  /-- What the second pass yields. -/
  written : Option Bytes
  deriving DecidableEq, Repr

namespace Document

/-- A document that is the same each time. -/
def steady (bytes : Bytes) : Document := ⟨some bytes, some bytes⟩

def ofJson (value : Json) : Document := steady value.serialize

/-- The length of the serialized document. -/
def serializedLength (document : Document) : Except SendError Nat :=
  match document.measured with
  | some bytes => .ok bytes.length
  | none => .error .serialize

end Document

end CommandLink
