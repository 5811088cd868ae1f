import CommandLink.Bytes

/-!
# Markers

Control fragments that stand between the documents of either direction. A
fragment is a marker only as a whole, byte for byte; one that merely contains
a marker is payload.
-/

namespace CommandLink

/-- The peer begins a command, gives up what is going on, or ends a command. -/
inductive Marker where
  | start
  | cancel
  | finish
  deriving DecidableEq, Repr

def startMarker : Bytes := Bytes.ofText "<START>"

def cancelMarker : Bytes := Bytes.ofText "<CANCEL>"

/-- Ends a command of the peer, and a document sent to it. -/
def endMarker : Bytes := Bytes.ofText "<END>"

/-- Ends a document that was broken off at the peer's request. -/
def cancelledMarker : Bytes := Bytes.ofText "<CANCELLED>"

/-- Acknowledges a request to cancel. -/
def ackMarker : Bytes := Bytes.ofText "<ACK>"

namespace Marker

def bytes : Marker → Bytes
  | .start => startMarker
  | .cancel => cancelMarker
  | .finish => endMarker

/-- The marker that a fragment is; `none` for payload. -/
def classify (fragment : Bytes) : Option Marker :=
  if fragment = startMarker then some .start
  else if fragment = cancelMarker then some .cancel
  else if fragment = endMarker then some .finish
  else none

theorem classify_bytes (marker : Marker) : classify marker.bytes = some marker := by
  cases marker <;> decide

theorem classify_eq_some_iff (fragment : Bytes) (marker : Marker) :
    classify fragment = some marker ↔ fragment = marker.bytes := by
  constructor
  · unfold classify
    repeat' split
    all_goals intro same; simp only [Option.some.injEq, reduceCtorEq] at same
    all_goals subst same; assumption
  · rintro rfl
    exact classify_bytes marker

theorem classify_eq_none {fragment : Bytes} (unmarked : ∀ marker : Marker, fragment ≠ marker.bytes) :
    classify fragment = none := by
  cases marked : classify fragment with
  | none => rfl
  | some marker => exact absurd ((classify_eq_some_iff fragment marker).mp marked) (unmarked marker)

end Marker

end CommandLink
