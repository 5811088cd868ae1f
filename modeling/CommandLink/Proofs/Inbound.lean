import CommandLink.Endpoint.Reception
import CommandLink.Proofs.Reassembly

/-!
# The inbound half of an endpoint

What fragments can change of an endpoint: the reassembly, the two queues and
their counters. A fragment acts on this half as on an endpoint, so that what
happens elsewhere in the endpoint does not matter to it.
-/

namespace CommandLink

structure Inbound where
  settings : Settings
  reassembly : Reassembly
  commands : List Command
  faults : List Fault
  commandsQueued : Nat
  queueDrops : Nat
  framingErrors : Nat
  reportsDropped : Nat

variable {H : Type}

def Endpoint.inbound (endpoint : Endpoint H) : Inbound where
  settings := endpoint.settings
  reassembly := endpoint.reassembly
  commands := endpoint.commands.items
  faults := endpoint.faults.items
  commandsQueued := endpoint.counters.commandsQueued
  queueDrops := endpoint.counters.queueDrops
  framingErrors := endpoint.counters.framingErrors
  reportsDropped := endpoint.counters.reportsDropped

namespace Inbound

/-- Queue a command, or shed it when no place is left. -/
def dispatch (command : Command) (inbound : Inbound) : Inbound :=
  if inbound.commands.length < commandDepth then
    { inbound with
      commands := inbound.commands ++ [command]
      commandsQueued := inbound.commandsQueued + 1 }
  else
    { inbound with queueDrops := inbound.queueDrops + 1 }

/-- Note a fault, or count its loss when no place is left. -/
def report (fault : Fault) (inbound : Inbound) : Inbound :=
  if inbound.faults.length < faultDepth then
    { inbound with faults := inbound.faults ++ [fault] }
  else
    { inbound with reportsDropped := inbound.reportsDropped + 1 }

def overflow (inbound : Inbound) : Inbound :=
  { inbound with framingErrors := inbound.framingErrors + 1 }.report .overflow

theorem dispatch_of_room {command : Command} {inbound : Inbound}
    (room : inbound.commands.length < commandDepth) :
    inbound.dispatch command =
      { inbound with
        commands := inbound.commands ++ [command]
        commandsQueued := inbound.commandsQueued + 1 } := if_pos room

theorem dispatch_of_full {command : Command} {inbound : Inbound}
    (full : inbound.commands.length = commandDepth) :
    inbound.dispatch command = { inbound with queueDrops := inbound.queueDrops + 1 } :=
  if_neg (by omega)

theorem dispatch_faults (command : Command) (inbound : Inbound) :
    (inbound.dispatch command).faults = inbound.faults ∧
      (inbound.dispatch command).framingErrors = inbound.framingErrors := by
  unfold dispatch
  split <;> exact ⟨rfl, rfl⟩

theorem overflow_of_room {inbound : Inbound} (room : inbound.faults.length < faultDepth) :
    inbound.overflow =
      { inbound with
        framingErrors := inbound.framingErrors + 1
        faults := inbound.faults ++ [.overflow] } := if_pos room

theorem overflow_of_full {inbound : Inbound} (full : inbound.faults.length = faultDepth) :
    inbound.overflow =
      { inbound with
        framingErrors := inbound.framingErrors + 1
        reportsDropped := inbound.reportsDropped + 1 } :=
  if_neg (by show ¬inbound.faults.length < faultDepth; omega)

theorem overflow_commands (inbound : Inbound) :
    inbound.overflow.commands = inbound.commands ∧
      inbound.overflow.queueDrops = inbound.queueDrops := by
  simp only [overflow, report]
  split <;> exact ⟨rfl, rfl⟩

theorem overflow_framingErrors (inbound : Inbound) :
    inbound.overflow.framingErrors = inbound.framingErrors + 1 := by
  simp only [overflow, report]
  split <;> rfl

def settle (outcome : Reassembly.Outcome) (inbound : Inbound) : Inbound :=
  match outcome with
  | .started => inbound
  | .buffered => inbound
  | .emptyCommand => inbound
  | .dropped => inbound
  | .cancelled => inbound
  | .overflow _ => inbound.overflow
  | .allocFailed _ => inbound.report .noMemory
  | .complete command => inbound.dispatch command

def receive (refuses : Nat → Bool) (fragment : Bytes) (now : Nat) (inbound : Inbound) : Inbound :=
  let (report, reassembly) := inbound.reassembly.push refuses fragment now
  { inbound with reassembly }.settle report.outcome

end Inbound

/-! ## An endpoint and its inbound half -/

namespace Endpoint

theorem inbound_dispatch (command : Command) (endpoint : Endpoint H) :
    (endpoint.dispatch command).2.inbound = endpoint.inbound.dispatch command := by
  by_cases room : endpoint.commands.items.length < commandDepth
  · simp [dispatch, Inbound.dispatch, Bounded.offer?, inbound, count, room]
  · simp [dispatch, Inbound.dispatch, Bounded.offer?, inbound, count, room]

theorem inbound_report (fault : Fault) (endpoint : Endpoint H) :
    (endpoint.report fault).2.inbound = endpoint.inbound.report fault := by
  by_cases room : endpoint.faults.items.length < faultDepth
  · simp [report, Inbound.report, Bounded.offer?, inbound, room]
  · simp [report, Inbound.report, Bounded.offer?, inbound, count, room]

theorem inbound_settle (outcome : Reassembly.Outcome) (endpoint : Endpoint H) :
    (endpoint.settle outcome).inbound = endpoint.inbound.settle outcome := by
  cases outcome with
  | started => rfl
  | cancelled => rfl
  | buffered => rfl
  | emptyCommand => rfl
  | dropped => rfl
  | overflow error => exact inbound_report .overflow _
  | complete command => exact inbound_dispatch command endpoint
  | allocFailed length => exact inbound_report .noMemory endpoint

theorem receive_outcome (refuses : Nat → Bool) (fragment : Bytes) (now : Nat)
    (endpoint : Endpoint H) :
    (endpoint.receive refuses fragment now).1 =
      (endpoint.reassembly.push refuses fragment now).1.outcome := rfl

theorem inbound_receive (refuses : Nat → Bool) (fragment : Bytes) (now : Nat)
    (endpoint : Endpoint H) :
    (endpoint.receive refuses fragment now).2.inbound =
      endpoint.inbound.receive refuses fragment now := by
  simp only [receive, inbound_settle]
  -- A stale partial command is counted among what this half leaves out.
  split <;> rfl

theorem dispatch_responder (command : Command) (endpoint : Endpoint H) :
    (endpoint.dispatch command).2.responder = endpoint.responder := by
  unfold dispatch
  split <;> rfl

theorem report_responder (fault : Fault) (endpoint : Endpoint H) :
    (endpoint.report fault).2.responder = endpoint.responder := by
  unfold report
  split <;> rfl

theorem receive_responder (refuses : Nat → Bool) (fragment : Bytes) (now : Nat)
    (endpoint : Endpoint H) :
    (endpoint.receive refuses fragment now).2.responder = endpoint.responder := by
  have told : ∀ (outcome : Reassembly.Outcome) (endpoint : Endpoint H),
      (endpoint.settle outcome).responder = endpoint.responder := by
    intro outcome endpoint
    cases outcome with
    | started => rfl
    | cancelled => rfl
    | buffered => rfl
    | emptyCommand => rfl
    | dropped => rfl
    | overflow error => exact report_responder .overflow _
    | complete command => exact dispatch_responder command endpoint
    | allocFailed length => exact report_responder .noMemory endpoint
  simp only [receive, told]
  split <;> rfl

end Endpoint

/-! ## What is kept -/

namespace Inbound

@[simp] theorem settle_reassembly (outcome : Reassembly.Outcome) (inbound : Inbound) :
    (inbound.settle outcome).reassembly = inbound.reassembly := by
  cases outcome <;> simp only [settle, overflow, report, dispatch]
  all_goals split <;> rfl

@[simp] theorem settle_settings (outcome : Reassembly.Outcome) (inbound : Inbound) :
    (inbound.settle outcome).settings = inbound.settings := by
  cases outcome <;> simp only [settle, overflow, report, dispatch]
  all_goals split <;> rfl

/-- A fragment that completes a command has it queued or shed. -/
theorem receive_of_complete {inbound : Inbound} {refuses : Nat → Bool} {fragment : Bytes}
    {now : Nat} {command : Command}
    (completed : (inbound.reassembly.push refuses fragment now).1.outcome = .complete command) :
    inbound.receive refuses fragment now =
      { inbound with
        reassembly := (inbound.reassembly.push refuses fragment now).2 }.dispatch command := by
  simp only [receive, completed, settle]

/-- A fragment that completes no command leaves the queue of commands alone. -/
theorem receive_of_incomplete {inbound : Inbound} {refuses : Nat → Bool} {fragment : Bytes}
    {now : Nat}
    (incomplete : ∀ command,
      (inbound.reassembly.push refuses fragment now).1.outcome ≠ .complete command) :
    (inbound.receive refuses fragment now).commands = inbound.commands ∧
      (inbound.receive refuses fragment now).commandsQueued = inbound.commandsQueued ∧
      (inbound.receive refuses fragment now).queueDrops = inbound.queueDrops := by
  simp only [receive]
  cases outcome : (inbound.reassembly.push refuses fragment now).1.outcome with
  | started => exact ⟨rfl, rfl, rfl⟩
  | cancelled => exact ⟨rfl, rfl, rfl⟩
  | buffered => exact ⟨rfl, rfl, rfl⟩
  | emptyCommand => exact ⟨rfl, rfl, rfl⟩
  | dropped => exact ⟨rfl, rfl, rfl⟩
  | complete command => exact absurd outcome (incomplete command)
  | overflow error =>
    simp only [settle, overflow, report]
    split <;> exact ⟨rfl, rfl, rfl⟩
  | allocFailed length =>
    simp only [settle, report]
    split <;> exact ⟨rfl, rfl, rfl⟩

@[simp] theorem receive_settings (refuses : Nat → Bool) (fragment : Bytes) (now : Nat)
    (inbound : Inbound) : (inbound.receive refuses fragment now).settings = inbound.settings := by
  simp only [receive, settle_settings]

/-- The reassembly is the one that the settings ask for. -/
structure Wired (inbound : Inbound) : Prop where
  sound : inbound.reassembly.Sound
  capacity : inbound.reassembly.capacity = inbound.settings.reassemblyCapacity.toNat
  idleTimeout : inbound.reassembly.idleTimeout = inbound.settings.reassemblyIdle.toNat

theorem Wired.receive {inbound : Inbound} (wired : inbound.Wired) (refuses : Nat → Bool)
    (fragment : Bytes) (now : Nat) : (inbound.receive refuses fragment now).Wired := by
  obtain ⟨capacity, idleTimeout⟩ := Reassembly.push_kept refuses fragment now inbound.reassembly
  refine ⟨?_, ?_, ?_⟩
  · simp only [Inbound.receive, settle_reassembly]
    exact wired.sound.push refuses fragment now
  · simp only [Inbound.receive, settle_reassembly, settle_settings]
    exact capacity.trans wired.capacity
  · simp only [Inbound.receive, settle_reassembly, settle_settings]
    exact idleTimeout.trans wired.idleTimeout

theorem wired_fresh (settings : Settings) : (Endpoint.fresh settings : Endpoint H).inbound.Wired :=
  ⟨Reassembly.sound_fresh _ _, rfl, rfl⟩

end Inbound

end CommandLink
