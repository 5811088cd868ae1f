import CommandLink.Failure
import CommandLink.Settings.Basic

/-!
# Which settings make sense

Inconsistent settings are refused, not repaired. `violation?` names the first
rule that settings break, in the order of the rules below.
-/

namespace CommandLink

namespace Settings

inductive Violation where
  | capacityTooSmall
  | idleTimeoutZero
  | negotiationTimingZero
  | fallbackTooLow
  | preferredTooLow
  | tiersInverted
  | thresholdsInverted
  | lowMemoryChunkOutside
  | progressStepOutside
  | responseCapZero
  deriving DecidableEq, Repr

def Violation.message : Violation → String
  | .capacityTooSmall => "reassembly capacity too small"
  | .idleTimeoutZero => "reassembly idle timeout is zero"
  | .negotiationTimingZero => "negotiation timing is zero"
  | .fallbackTooLow => "fallback MTU below 100"
  | .preferredTooLow => "preferred MTU not above default"
  | .tiersInverted => "medium payload tier not below large tier"
  | .thresholdsInverted => "emergency threshold not below low-memory threshold"
  | .lowMemoryChunkOutside => "low-memory chunk outside scratch capacity"
  | .progressStepOutside => "progress step must be 1-100"
  | .responseCapZero => "response cap is zero"

/-- Whether settings break a rule. -/
def breaks (settings : Settings) : Violation → Bool
  | .capacityTooSmall => settings.reassemblyCapacity.toNat < 2
  | .idleTimeoutZero => settings.reassemblyIdle.toNat = 0
  | .negotiationTimingZero =>
    settings.attemptTimeout.toNat = 0 || settings.monitorInterval.toNat = 0
  | .fallbackTooLow => settings.fallbackMtu.toNat < minFallbackMtu
  | .preferredTooLow => settings.preferredMtu.toNat ≤ defaultMtu
  | .tiersInverted => settings.largePayload.toNat ≤ settings.mediumPayload.toNat
  | .thresholdsInverted => settings.lowMemoryFree.toNat ≤ settings.emergencyFree.toNat
  | .lowMemoryChunkOutside =>
    settings.lowMemoryChunk.toNat = 0 || maxChunk < settings.lowMemoryChunk.toNat
  | .progressStepOutside => settings.progressStep.toNat = 0 || 100 < settings.progressStep.toNat
  | .responseCapZero => settings.maxResponse.toNat = 0

/-- The rules in the order in which they are checked. -/
def rules : List Violation :=
  [.capacityTooSmall, .idleTimeoutZero, .negotiationTimingZero, .fallbackTooLow, .preferredTooLow,
    .tiersInverted, .thresholdsInverted, .lowMemoryChunkOutside, .progressStepOutside,
    .responseCapZero]

def violation? (settings : Settings) : Option Violation := rules.find? settings.breaks

def check (settings : Settings) : Except SettingsError Unit :=
  match settings.violation? with
  | some violation => .error (.invalid violation.message)
  | none => .ok ()

/-- Settings that break no rule. -/
def Valid (settings : Settings) : Prop := settings.violation? = none

instance (settings : Settings) : Decidable settings.Valid :=
  inferInstanceAs (Decidable (settings.violation? = none))

theorem mem_rules (rule : Violation) : rule ∈ rules := by cases rule <;> decide

theorem valid_iff (settings : Settings) : settings.Valid ↔ ∀ rule, settings.breaks rule = false := by
  simp [Valid, violation?, List.find?_eq_none, mem_rules]

end Settings

end CommandLink
