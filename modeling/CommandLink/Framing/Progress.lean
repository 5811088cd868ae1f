import CommandLink.Framing.Inline

/-!
# Progress documents

While something large goes on, the peer is told how far it is: a kind of
activity, whole percents, and bytes done of bytes in total. A progress document
is one notification, formatted inline.
-/

namespace CommandLink

inductive Activity where
  | ota
  | configDownload
  | configUpload
  | configRestore
  deriving DecidableEq, Repr

namespace Activity

/-- The kind that the progress documents of an activity carry. -/
def kind : Activity → String
  | .ota => "ota_progress"
  | .configDownload => "config_download_progress"
  | .configUpload => "config_upload_progress"
  | .configRestore => "config_restore_progress"

/-- What an activity calls the bytes that are done. -/
def counter : Activity → String
  | .ota => "bytes_written"
  | .configDownload => "bytes_sent"
  | .configUpload => "bytes_received"
  | .configRestore => "bytes_applied"

end Activity

/-- Whole percents, never above 100. Nothing to do is complete. -/
def percent (done total : Nat) : Nat :=
  if total = 0 then 100 else min done total * 100 / total

namespace Progress

/-- The size of a progress document. -/
def capacity : Nat := 128

def pieces (activity : Activity) (done total : Nat) : List String :=
  ["\x7b\"type\":\"", activity.kind, "\",\"progress\":", toString (percent done total), ",\"",
    activity.counter, "\":", toString done, ",\"total_bytes\":", toString total, "\x7d"]

def document (activity : Activity) (done total : Nat) : String :=
  Inline.write capacity (pieces activity done total)

end Progress

theorem percent_le (done total : Nat) : percent done total ≤ 100 := by
  unfold percent
  split
  next => exact Nat.le_refl 100
  next => exact Nat.div_le_of_le_mul (Nat.mul_le_mul_right 100 (Nat.min_le_right done total))

end CommandLink
