import CommandLink.Bytes

/-!
# Text of bounded size

Short documents are written into a text of fixed capacity, which needs no
memory beyond itself. They are written piece by piece; a piece goes in whole or
not at all, and the first one that does not fit ends the writing.
-/

namespace CommandLink.Inline

/-- The text `written` followed by as many of the pieces as fit. -/
def append (capacity : Nat) (written : String) : List String → String
  | [] => written
  | piece :: rest =>
    if (written ++ piece).utf8ByteSize ≤ capacity then
      append capacity (written ++ piece) rest
    else
      written

/-- As many of the pieces, from the first on, as fit. -/
def write (capacity : Nat) (pieces : List String) : String := append capacity "" pieces

theorem append_fitting (capacity : Nat) (written : String) (pieces : List String)
    (fits : (written ++ String.join pieces).utf8ByteSize ≤ capacity) :
    append capacity written pieces = written ++ String.join pieces := by
  induction pieces generalizing written with
  | nil => simp [append]
  | cons piece rest ih =>
    have joined : written ++ String.join (piece :: rest) = written ++ piece ++ String.join rest := by
      simp [String.append_assoc]
    rw [joined] at fits ⊢
    rw [append, if_pos (by simp only [String.utf8ByteSize_append] at fits ⊢; omega), ih _ fits]

theorem size_append_le (capacity : Nat) (written : String) (pieces : List String)
    (fits : written.utf8ByteSize ≤ capacity) :
    (append capacity written pieces).utf8ByteSize ≤ capacity := by
  induction pieces generalizing written with
  | nil => exact fits
  | cons piece rest ih =>
    rw [append]
    split
    next room => exact ih _ room
    next => exact fits

theorem size_write_le (capacity : Nat) (pieces : List String) :
    (write capacity pieces).utf8ByteSize ≤ capacity :=
  size_append_le capacity "" pieces (by simp)

end CommandLink.Inline
