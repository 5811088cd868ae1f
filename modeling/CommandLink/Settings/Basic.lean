/-!
# Settings

What can be tuned about the link. Times are in milliseconds and sizes in
bytes. Settings are stored and exchanged field by field, so their order, names
and widths are laid down once, in `Settings.fields`, and every format is
written over that list.
-/

namespace CommandLink

structure Settings where
  /-- The size of the buffer that holds a partial command. -/
  reassemblyCapacity : UInt32 := 32 * 1024
  /-- The silence after which a partial command is given up. -/
  reassemblyIdle : UInt32 := 5000
  /-- How long the worker waits for a command before it looks up. -/
  workerWait : UInt32 := 100
  /-- MTU asked for on every connect. -/
  preferredMtu : UInt16 := 517
  /-- How long one negotiation attempt may take. -/
  attemptTimeout : UInt32 := 5000
  /-- Attempts after the first one. -/
  maxRetries : UInt8 := 2
  /-- The pause before the first retry; it doubles with each. -/
  backoffBase : UInt32 := 100
  /-- The upper bound of the random part of a pause. -/
  backoffJitter : UInt32 := 100
  /-- The unit installed when negotiation fails. -/
  fallbackMtu : UInt16 := 185
  /-- The period of the monitor. -/
  monitorInterval : UInt32 := 500
  /-- The pause between a connect and the first check. -/
  settleDelay : UInt32 := 200
  /-- The longest document that is sent. -/
  maxResponse : UInt32 := 96 * 1024
  /-- The slack allocated behind a document. -/
  responseMargin : UInt32 := 64
  /-- The free memory below which nothing is sent. -/
  emergencyFree : UInt32 := 8 * 1024
  /-- The free memory below which chunks shrink. -/
  lowMemoryFree : UInt32 := 24 * 1024
  /-- The size of a shrunken chunk. -/
  lowMemoryChunk : UInt16 := 64
  /-- The longest document sent at the fast pace, without progress. -/
  mediumPayload : UInt32 := 5 * 1024
  /-- The longest document sent at the moderate pace. -/
  largePayload : UInt32 := 50 * 1024
  /-- The pause behind a chunk at the fast pace. -/
  fastDelay : UInt32 := 10
  /-- The pause behind a chunk at the moderate pace. -/
  moderateDelay : UInt32 := 20
  /-- The pause behind a chunk at the slow pace. -/
  slowDelay : UInt32 := 40
  /-- The percentage between two progress reports. -/
  progressStep : UInt8 := 10
  /-- The bounded wait for the outbound lock. -/
  outboundWait : UInt32 := 3000
  /-- The bounded wait for the negotiation lock. -/
  negotiationWait : UInt32 := 50
  /-- The bounded wait for the counters. -/
  countersWait : UInt32 := 10
  /-- The bounded wait for the streaming flag. -/
  streamingWait : UInt32 := 10
  /-- Monitor ticks from one publication to the next. -/
  publishTicks : UInt32 := 20
  /-- The period of the streamer. -/
  streamPoll : UInt32 := 50
  /-- The period of the check for open transmissions at shutdown. -/
  drainPoll : UInt32 := 10
  deriving DecidableEq, Repr

/-- Commands that may wait for the worker. -/
def commandDepth : Nat := 20

/-- Inbound failures that may wait for their report. -/
def faultDepth : Nat := 4

/-- The longest notification. -/
def maxChunk : Nat := 512

/-- Bytes of a unit that the link keeps for itself. -/
def unitOverhead : Nat := 3

/-- The unit of a link before any exchange. -/
def defaultMtu : Nat := 23

/-- The smallest unit that may be installed when negotiation fails. -/
def minFallbackMtu : Nat := 100

/-- The bytes of a unit that a notification can carry, which is never less
than what the default unit carries. -/
def notifyLength (unit : UInt16) : Nat := max unit.toNat defaultMtu - unitOverhead

namespace Settings

/-- The unit installed when negotiation fails. -/
def fallbackUnit (settings : Settings) : UInt16 :=
  max settings.fallbackMtu (UInt16.ofNat minFallbackMtu)

inductive Width where
  | byte
  | half
  | word
  deriving DecidableEq, Repr

/-- The first number that does not fit a width. -/
def Width.limit : Width → Nat
  | .byte => 0x100
  | .half => 0x10000
  | .word => 0x100000000

/-- One tunable value: its name, its width, and how to read and replace it. -/
structure Field where
  name : String
  width : Width
  get : Settings → Nat
  put : Nat → Settings → Settings

/-- All fields in the order in which they are stored. -/
def fields : List Field := [
  ⟨"reassembly_capacity", .word, (·.reassemblyCapacity.toNat), fun n s => { s with reassemblyCapacity := .ofNat n }⟩,
  ⟨"reassembly_idle_timeout_ms", .word, (·.reassemblyIdle.toNat), fun n s => { s with reassemblyIdle := .ofNat n }⟩,
  ⟨"worker_wait_ms", .word, (·.workerWait.toNat), fun n s => { s with workerWait := .ofNat n }⟩,
  ⟨"preferred_mtu", .half, (·.preferredMtu.toNat), fun n s => { s with preferredMtu := .ofNat n }⟩,
  ⟨"negotiation_timeout_ms", .word, (·.attemptTimeout.toNat), fun n s => { s with attemptTimeout := .ofNat n }⟩,
  ⟨"negotiation_max_retries", .byte, (·.maxRetries.toNat), fun n s => { s with maxRetries := .ofNat n }⟩,
  ⟨"negotiation_backoff_base_ms", .word, (·.backoffBase.toNat), fun n s => { s with backoffBase := .ofNat n }⟩,
  ⟨"negotiation_jitter_ms", .word, (·.backoffJitter.toNat), fun n s => { s with backoffJitter := .ofNat n }⟩,
  ⟨"fallback_mtu", .half, (·.fallbackMtu.toNat), fun n s => { s with fallbackMtu := .ofNat n }⟩,
  ⟨"monitor_interval_ms", .word, (·.monitorInterval.toNat), fun n s => { s with monitorInterval := .ofNat n }⟩,
  ⟨"connect_settle_ms", .word, (·.settleDelay.toNat), fun n s => { s with settleDelay := .ofNat n }⟩,
  ⟨"max_response_bytes", .word, (·.maxResponse.toNat), fun n s => { s with maxResponse := .ofNat n }⟩,
  ⟨"response_margin_bytes", .word, (·.responseMargin.toNat), fun n s => { s with responseMargin := .ofNat n }⟩,
  ⟨"emergency_free_bytes", .word, (·.emergencyFree.toNat), fun n s => { s with emergencyFree := .ofNat n }⟩,
  ⟨"low_memory_free_bytes", .word, (·.lowMemoryFree.toNat), fun n s => { s with lowMemoryFree := .ofNat n }⟩,
  ⟨"low_memory_chunk", .half, (·.lowMemoryChunk.toNat), fun n s => { s with lowMemoryChunk := .ofNat n }⟩,
  ⟨"medium_payload_bytes", .word, (·.mediumPayload.toNat), fun n s => { s with mediumPayload := .ofNat n }⟩,
  ⟨"large_payload_bytes", .word, (·.largePayload.toNat), fun n s => { s with largePayload := .ofNat n }⟩,
  ⟨"fast_chunk_delay_ms", .word, (·.fastDelay.toNat), fun n s => { s with fastDelay := .ofNat n }⟩,
  ⟨"moderate_chunk_delay_ms", .word, (·.moderateDelay.toNat), fun n s => { s with moderateDelay := .ofNat n }⟩,
  ⟨"slow_chunk_delay_ms", .word, (·.slowDelay.toNat), fun n s => { s with slowDelay := .ofNat n }⟩,
  ⟨"progress_step_percent", .byte, (·.progressStep.toNat), fun n s => { s with progressStep := .ofNat n }⟩,
  ⟨"transmission_lock_timeout_ms", .word, (·.outboundWait.toNat), fun n s => { s with outboundWait := .ofNat n }⟩,
  ⟨"negotiation_lock_timeout_ms", .word, (·.negotiationWait.toNat), fun n s => { s with negotiationWait := .ofNat n }⟩,
  ⟨"metrics_lock_timeout_ms", .word, (·.countersWait.toNat), fun n s => { s with countersWait := .ofNat n }⟩,
  ⟨"streaming_lock_timeout_ms", .word, (·.streamingWait.toNat), fun n s => { s with streamingWait := .ofNat n }⟩,
  ⟨"metrics_publish_ticks", .word, (·.publishTicks.toNat), fun n s => { s with publishTicks := .ofNat n }⟩,
  ⟨"stream_poll_ms", .word, (·.streamPoll.toNat), fun n s => { s with streamPoll := .ofNat n }⟩,
  ⟨"drain_poll_ms", .word, (·.drainPoll.toNat), fun n s => { s with drainPoll := .ofNat n }⟩]

/-- The values of all fields. -/
def values (settings : Settings) : List Nat := fields.map (·.get settings)

/-- The settings with these values, in the order of the fields. -/
def ofValues (values : List Nat) : Settings :=
  (fields.zip values).foldl (fun settings pair => pair.1.put pair.2 settings) {}

/-- Replace the field called `name`, if there is one. -/
def replace (name : String) (value : Nat) (settings : Settings) : Settings :=
  match fields.find? (·.name == name) with
  | some field => field.put value settings
  | none => settings

theorem ofValues_values (settings : Settings) : ofValues settings.values = settings := by
  simp [ofValues, values, fields]

theorem get_lt (settings : Settings) :
    ∀ field ∈ fields, field.get settings < field.width.limit := by
  intro field member
  simp only [fields, List.mem_cons, List.not_mem_nil, or_false] at member
  rcases member with rfl | rfl | rfl | rfl | rfl | rfl | rfl | rfl | rfl | rfl | rfl | rfl | rfl |
    rfl | rfl | rfl | rfl | rfl | rfl | rfl | rfl | rfl | rfl | rfl | rfl | rfl | rfl | rfl | rfl
  all_goals first | exact UInt32.toNat_lt _ | exact UInt16.toNat_lt _ | exact UInt8.toNat_lt _

end Settings

end CommandLink
