import CommandLink.Bench.Inbound
import CommandLink.Proofs.RoundTrip
import CommandLink.Proofs.WorkingApart
import Mathlib.Data.List.DropRight
import Mathlib.Logic.Relation

/-!
# Commands are delivered once and in order

The diary of a run says which commands were completed, and how many were pending
then, which were taken up by the worker, what the handler was called with, and
when a peer connected.

Between the worker's own steps anything may go on: wherever a port is called,
fragments may arrive, peers may come and go, and everything that leaves queue,
reassembly and handler alone may happen (`Passage`). What the diary then says of
the endpoint is a `Ledger`, and every step keeps it.
-/

namespace CommandLink

/-- What matters to the delivery of commands. -/
inductive Happening where
  /-- A command was completed while so many were pending. -/
  | completed (command : Command) (pending : Nat)
  | processed (command : Command)
  /-- The handler was called. -/
  | handled (parsed : Json)
  | connected

namespace Happening

/-- The command that was completed while the queue had room. -/
@[simp] def accepted? : Happening → Option Command
  | .completed command pending => if pending = commandDepth then none else some command
  | .processed _ => none
  | .handled _ => none
  | .connected => none

/-- The command that was completed while the queue was full. -/
@[simp] def shed? : Happening → Option Command
  | .completed command pending => if pending = commandDepth then some command else none
  | .processed _ => none
  | .handled _ => none
  | .connected => none

@[simp] def processed? : Happening → Option Command
  | .processed command => some command
  | .completed _ _ => none
  | .handled _ => none
  | .connected => none

@[simp] def handled? : Happening → Option Json
  | .handled parsed => some parsed
  | .completed _ _ => none
  | .processed _ => none
  | .connected => none

@[simp] def isConnected : Happening → Bool
  | .connected => true
  | .completed _ _ => false
  | .processed _ => false
  | .handled _ => false

/-- What happened since the last peer connected. -/
def sinceConnected (diary : List Happening) : List Happening := diary.rtakeWhile (!·.isConnected)

@[simp] theorem sinceConnected_connected (diary : List Happening) :
    sinceConnected (diary ++ [.connected]) = [] :=
  List.rtakeWhile_concat_neg _ _ _ (by simp [isConnected])

theorem sinceConnected_append (diary : List Happening) {entries : List Happening}
    (apart : ∀ entry ∈ entries, entry.isConnected = false) :
    sinceConnected (diary ++ entries) = sinceConnected diary ++ entries := by
  -- From the end, since that is where the diary is looked at.
  induction entries using List.reverseRecOn with
  | nil => simp
  | append_singleton entries entry ih =>
    have stays := ih fun other member => apart other (List.mem_append_left _ member)
    have this : entry.isConnected = false := apart entry (by simp)
    rw [← List.append_assoc, sinceConnected, List.rtakeWhile_concat_pos _ _ _ (by rw [this]; rfl),
      ← sinceConnected, stays, List.append_assoc]

end Happening

/-- What a command says, if it is JSON. -/
def Command.parsed? (command : Command) : Option Json := (Json.read command.payload).toOption

/-- What is written down when the worker takes up a command and gives it to the handler. -/
def Command.processing (command : Command) : List Happening :=
  .processed command :: command.parsed?.toList.map .handled

variable {W H : Type}

/-! ## What goes on -/

/-- What is done leaves alone whatever the delivery of commands depends on. -/
structure Endpoint.Apart (before after : Endpoint H) : Prop where
  settings : after.settings = before.settings
  reassembly : after.reassembly = before.reassembly
  commands : after.commands = before.commands
  responder : after.responder = before.responder
  commandsQueued : after.counters.commandsQueued = before.counters.commandsQueued
  queueDrops : after.counters.queueDrops = before.counters.queueDrops

theorem Endpoint.Apart.refl (endpoint : Endpoint H) : endpoint.Apart endpoint :=
  ⟨rfl, rfl, rfl, rfl, rfl, rfl⟩

theorem Endpoint.Apart.trans {first second third : Endpoint H} (there : first.Apart second)
    (further : second.Apart third) : first.Apart third where
  settings := further.settings.trans there.settings
  reassembly := further.reassembly.trans there.reassembly
  commands := further.commands.trans there.commands
  responder := further.responder.trans there.responder
  commandsQueued := further.commandsQueued.trans there.commandsQueued
  queueDrops := further.queueDrops.trans there.queueDrops

/-- What a fragment completes, with the number of commands that are pending. -/
def Endpoint.completion (refuses : Nat → Bool) (fragment : Bytes) (now : Nat)
    (endpoint : Endpoint H) : List Happening :=
  match (endpoint.receive refuses fragment now).1 with
  | .complete command => [.completed command endpoint.commands.size]
  | _ => []

/-- One thing that may go on while a port is called, written down as it happens. -/
inductive Turn : Station (Recorded W Happening) H → Station (Recorded W Happening) H → Prop where
  | apart {s t} (apart : s.endpoint.Apart t.endpoint) (silent : t.world.diary = s.world.diary) :
    Turn s t
  | fragment (s) (refuses : Nat → Bool) (fragment : Bytes) (now : Nat) :
    Turn s (s.record (s.endpoint.completion refuses fragment now)
      (s.endpoint.receive refuses fragment now).2)
  | linkUp (s) : Turn s (s.record [.connected] s.endpoint.linkUp)
  | linkDown (s) : Turn s (s.record [] s.endpoint.linkDown)
  /-- A command is processed, as by a handler that looks at the queue itself. -/
  | process (s) {command rest} (taken : s.endpoint.commands.take? = some (command, rest)) :
    Turn s (s.record command.processing { s.endpoint with commands := rest })

/-- Any number of things that go on, one after the other. -/
def Passage : Station (Recorded W Happening) H → Station (Recorded W Happening) H → Prop :=
  Relation.ReflTransGen Turn

theorem passage_jobless : Jobless (Passage (W := W) (H := H)) where
  refl _ := .refl
  trans _ _ _ there further := there.trans further
  jobs s endpoint same := by
    have settings := congrArg Endpoint.settings same
    have reassembly := congrArg Endpoint.reassembly same
    have commands := congrArg Endpoint.commands same
    have responder := congrArg Endpoint.responder same
    have queued := congrArg (·.counters.commandsQueued) same
    have drops := congrArg (·.counters.queueDrops) same
    exact .single (.apart ⟨settings, reassembly, commands, responder, queued, drops⟩ rfl)

theorem passage_bookless : Bookless (Passage (W := W) (H := H)) := passage_jobless.bookless

/-- Ports that come back whatever goes on while they are called. -/
structure Ports.Pass (ports : Ports (Recorded W Happening) H) : Prop
    extends ports.Within Passage where
  handle : ∀ handler parsed, Act.Within Passage (ports.handle handler parsed)

/-! ## What the diary says of the endpoint -/

open Happening in
/-- What the diary of a run says of the endpoint behind it. -/
structure Ledger (endpoint : Endpoint H) (diary : List Happening) : Prop where
  wired : endpoint.inbound.Wired
  direct : ∃ handler, endpoint.responder = some (.direct handler)
  fitting : ∀ command ∈ endpoint.commands.items,
    command.terminated.length ≤ endpoint.settings.reassemblyCapacity.toNat
  order : diary.filterMap processed? ++ endpoint.commands.items = diary.filterMap accepted?
  calls : diary.filterMap handled? = (diary.filterMap processed?).filterMap Command.parsed?
  queued : endpoint.counters.commandsQueued =
    ((sinceConnected diary).filterMap accepted?).length
  drops : endpoint.counters.queueDrops = ((sinceConnected diary).filterMap shed?).length

/-- An endpoint whose commands go to a handler. -/
def Endpoint.servedBy (handler : H) (endpoint : Endpoint H) : Endpoint H :=
  { endpoint with responder := some (.direct handler) }

theorem ledger_fresh (settings : Settings) (handler : H) :
    Ledger ((Endpoint.fresh settings).servedBy handler) [] where
  wired := Inbound.wired_fresh (H := H) settings
  direct := ⟨handler, rfl⟩
  fitting _ member := nomatch member
  order := rfl
  calls := rfl
  queued := rfl
  drops := rfl

namespace Ledger

variable {endpoint next : Endpoint H} {diary : List Happening}

/-- The reassembly may change, as long as it stays wired. -/
theorem reassemble (ledger : Ledger endpoint diary) (wired : next.inbound.Wired)
    (settings : next.settings = endpoint.settings)
    (responder : next.responder = endpoint.responder)
    (commands : next.commands.items = endpoint.commands.items)
    (queued : next.counters.commandsQueued = endpoint.counters.commandsQueued)
    (drops : next.counters.queueDrops = endpoint.counters.queueDrops) : Ledger next diary where
  wired := wired
  direct := by rw [responder]; exact ledger.direct
  fitting := by rw [commands, settings]; exact ledger.fitting
  order := by rw [commands]; exact ledger.order
  calls := ledger.calls
  queued := queued.trans ledger.queued
  drops := drops.trans ledger.drops

theorem apart (ledger : Ledger endpoint diary) (apart : endpoint.Apart next) :
    Ledger next diary := by
  have reassembly : next.inbound.reassembly = endpoint.inbound.reassembly := apart.reassembly
  have settings : next.inbound.settings = endpoint.inbound.settings := apart.settings
  have wired : next.inbound.Wired := by
    obtain ⟨sound, capacity, idleTimeout⟩ := ledger.wired
    exact ⟨by rw [reassembly]; exact sound, by rw [reassembly, settings]; exact capacity,
      by rw [reassembly, settings]; exact idleTimeout⟩
  exact ledger.reassemble wired apart.settings apart.responder
    (congrArg Bounded.items apart.commands) apart.commandsQueued apart.queueDrops

/-- A command is queued behind those that wait. -/
theorem accept {command : Command} (ledger : Ledger endpoint diary) (wired : next.inbound.Wired)
    (settings : next.settings = endpoint.settings)
    (responder : next.responder = endpoint.responder)
    (fits : command.terminated.length ≤ endpoint.settings.reassemblyCapacity.toNat)
    (room : endpoint.commands.size ≠ commandDepth)
    (commands : next.commands.items = endpoint.commands.items ++ [command])
    (queued : next.counters.commandsQueued = endpoint.counters.commandsQueued + 1)
    (drops : next.counters.queueDrops = endpoint.counters.queueDrops) :
    Ledger next (diary ++ [.completed command endpoint.commands.size]) := by
  have since :
      Happening.sinceConnected (diary ++ [.completed command endpoint.commands.size]) = _ :=
    Happening.sinceConnected_append diary (by simp)
  refine ⟨wired, ?_, ?_, ?_, ?_, ?_, ?_⟩
  · rw [responder]
    exact ledger.direct
  · intro other member
    rw [settings]
    rw [commands] at member
    rcases List.mem_append.mp member with earlier | this
    · exact ledger.fitting other earlier
    · rw [List.mem_singleton.mp this]
      exact fits
  · -- It is the last in the queue, and the last of those that were completed in time.
    rw [commands]
    simp [List.filterMap_cons, room, ← ledger.order]
  · simp [List.filterMap_cons, ledger.calls]
  · rw [since, queued, ledger.queued]
    simp [room]
  · rw [since, drops, ledger.drops]
    simp [room]

/-- A command finds the queue full and is shed. -/
theorem shed {command : Command} (ledger : Ledger endpoint diary) (wired : next.inbound.Wired)
    (settings : next.settings = endpoint.settings)
    (responder : next.responder = endpoint.responder)
    (full : endpoint.commands.size = commandDepth)
    (commands : next.commands.items = endpoint.commands.items)
    (queued : next.counters.commandsQueued = endpoint.counters.commandsQueued)
    (drops : next.counters.queueDrops = endpoint.counters.queueDrops + 1) :
    Ledger next (diary ++ [.completed command endpoint.commands.size]) := by
  have since :
      Happening.sinceConnected (diary ++ [.completed command endpoint.commands.size]) = _ :=
    Happening.sinceConnected_append diary (by simp)
  refine ⟨wired, ?_, ?_, ?_, ?_, ?_, ?_⟩
  · rw [responder]
    exact ledger.direct
  · rw [commands, settings]
    exact ledger.fitting
  · -- It is not among those that were completed in time.
    rw [commands]
    simp [List.filterMap_cons, full, ledger.order]
  · simp [List.filterMap_cons, ledger.calls]
  · rw [since, queued, ledger.queued]
    simp [full]
  · rw [since, drops, ledger.drops]
    simp [full]

theorem fragment (ledger : Ledger endpoint diary) (refuses : Nat → Bool) (fragment : Bytes)
    (now : Nat) :
    Ledger (endpoint.receive refuses fragment now).2
      (diary ++ endpoint.completion refuses fragment now) := by
  have received := Endpoint.inbound_receive refuses fragment now endpoint
  have responder := Endpoint.receive_responder refuses fragment now endpoint
  have settings : (endpoint.receive refuses fragment now).2.settings = endpoint.settings :=
    (congrArg Inbound.settings received).trans (Inbound.receive_settings refuses fragment now _)
  have wired : (endpoint.receive refuses fragment now).2.inbound.Wired := by
    rw [received]
    exact ledger.wired.receive refuses fragment now
  have commands := congrArg Inbound.commands received
  have queued := congrArg Inbound.commandsQueued received
  have drops := congrArg Inbound.queueDrops received
  by_cases completes : ∃ command,
      (endpoint.reassembly.push refuses fragment now).1.outcome = .complete command
  · obtain ⟨command, completed⟩ := completes
    have written : endpoint.completion refuses fragment now =
        [.completed command endpoint.commands.size] := by
      simp only [Endpoint.completion, Endpoint.receive_outcome, completed]
    have fits : command.terminated.length ≤ endpoint.settings.reassemblyCapacity.toNat :=
      ledger.wired.capacity ▸ ledger.wired.sound.complete_fits completed
    rw [written]
    rw [Inbound.receive_of_complete completed] at commands queued drops
    -- What is pending when the fragment arrives decides, and that is what is written down.
    rcases Nat.lt_or_eq_of_le endpoint.commands.within with room | full
    · rw [Inbound.dispatch_of_room room] at commands queued drops
      exact ledger.accept wired settings responder fits (Nat.ne_of_lt room) commands queued drops
    · rw [Inbound.dispatch_of_full full] at commands queued drops
      exact ledger.shed wired settings responder full commands queued drops
  · have incomplete := not_exists.mp completes
    have written : endpoint.completion refuses fragment now = [] := by
      simp only [Endpoint.completion, Endpoint.receive_outcome]
    obtain ⟨waiting, accepted, lost⟩ :=
      @Inbound.receive_of_incomplete endpoint.inbound refuses fragment now incomplete
    rw [written, List.append_nil]
    exact ledger.reassemble wired settings responder (commands.trans waiting)
      (queued.trans accepted) (drops.trans lost)

/-- A connect clears the counters and what was half done, and leaves the queue alone. -/
theorem linkUp (ledger : Ledger endpoint diary) :
    Ledger endpoint.linkUp (diary ++ [.connected]) where
  wired := ⟨ledger.wired.sound.discard, ledger.wired.capacity, ledger.wired.idleTimeout⟩
  direct := ledger.direct
  fitting := ledger.fitting
  order := by simpa [List.filterMap_cons, Endpoint.linkUp] using ledger.order
  calls := by simpa [List.filterMap_cons] using ledger.calls
  queued := by simp [Endpoint.linkUp]
  drops := by simp [Endpoint.linkUp]

theorem linkDown (ledger : Ledger endpoint diary) : Ledger endpoint.linkDown diary :=
  ledger.reassemble ⟨ledger.wired.sound.discard, ledger.wired.capacity, ledger.wired.idleTimeout⟩
    rfl rfl rfl rfl rfl

/-- The oldest command leaves the queue and goes to the handler if it is JSON. -/
theorem process {command : Command} {rest : Bounded Command commandDepth}
    (ledger : Ledger endpoint diary) (taken : endpoint.commands.take? = some (command, rest)) :
    Ledger { endpoint with commands := rest } (diary ++ command.processing) := by
  have items := Bounded.items_take? _ _ _ taken
  have apart : ∀ entry ∈ command.processing, entry.isConnected = false := by
    intro entry member
    rcases List.mem_cons.mp member with rfl | call
    · rfl
    · obtain ⟨parsed, -, rfl⟩ := List.mem_map.mp call
      rfl
  have since := Happening.sinceConnected_append diary apart
  have accepted : command.processing.filterMap Happening.accepted? = [] := by
    cases parsed : command.parsed? <;> simp [Command.processing, parsed, List.filterMap_cons]
  have shed : command.processing.filterMap Happening.shed? = [] := by
    cases parsed : command.parsed? <;> simp [Command.processing, parsed, List.filterMap_cons]
  have processed : command.processing.filterMap Happening.processed? = [command] := by
    cases parsed : command.parsed? <;> simp [Command.processing, parsed, List.filterMap_cons]
  have handled : command.processing.filterMap Happening.handled? = command.parsed?.toList := by
    cases parsed : command.parsed? <;> simp [Command.processing, parsed, List.filterMap_cons]
  obtain ⟨sound, capacity, idleTimeout⟩ := ledger.wired
  refine ⟨⟨sound, capacity, idleTimeout⟩, ledger.direct, ?_, ?_, ?_, ?_, ?_⟩
  · intro other member
    exact ledger.fitting other (by rw [items]; exact List.mem_cons_of_mem _ member)
  · -- The head of the queue becomes the last of what was processed.
    have order := ledger.order
    rw [items] at order
    simpa [accepted, processed] using order
  · rw [List.filterMap_append, List.filterMap_append, handled, processed, ledger.calls]
    cases parsed : command.parsed? <;> simp [parsed]
  · rw [since, List.filterMap_append, accepted, List.append_nil]
    exact ledger.queued
  · rw [since, List.filterMap_append, shed, List.append_nil]
    exact ledger.drops

/-- Whatever goes on, the diary keeps saying what it says. -/
theorem turn {s t : Station (Recorded W Happening) H} (ledger : Ledger s.endpoint s.world.diary)
    (turn : Turn s t) : Ledger t.endpoint t.world.diary := by
  cases turn with
  | apart apart silent =>
    rw [silent]
    exact ledger.apart apart
  | fragment refuses fragment now => exact ledger.fragment refuses fragment now
  | linkUp => exact ledger.linkUp
  | linkDown =>
    show Ledger s.endpoint.linkDown (s.world.diary ++ [])
    rw [List.append_nil]
    exact ledger.linkDown
  | process taken => exact ledger.process taken

theorem passage {s t : Station (Recorded W Happening) H} (ledger : Ledger s.endpoint s.world.diary)
    (passage : Passage s t) : Ledger t.endpoint t.world.diary := by
  induction passage with
  | refl => exact ledger
  | tail _ last ih => exact ih.turn last

end Ledger

/-! ## The worker -/

/-- The ports, with every call of the handler written down. -/
def Ports.recorded (ports : Ports (Recorded W Happening) H) : Ports (Recorded W Happening) H :=
  { ports with
    handle := fun handler parsed => do
      Act.note [.handled parsed]
      ports.handle handler parsed }

theorem Ports.Pass.recorded {ports : Ports (Recorded W Happening) H} (pass : ports.Pass) :
    ports.recorded.Within Passage :=
  ⟨pass.notify, pass.sleep, pass.freeBytes, pass.allocate⟩

/-- Wait for one command and process it, but let someone watch in between. -/
def processWatched (ports : Ports W H) (watch : Command → Act W H Unit) (wait : Nat) :
    Act W H (Option Disposition) := do
  match ← nextCommand ports wait with
  | none => return none
  | some command =>
    watch command
    return some (← processCommand ports command)

/-- With nobody watching this is what the worker does. -/
theorem processWatched_unwatched (ports : Ports W H) (wait : Nat) :
    processWatched ports (fun _ => pure ()) wait = processNext ports wait := by
  unfold processWatched processNext
  congr 1

open Act

/-- What is left behind when a command may have been taken off the queue: if one was, it
was the oldest at the end of a passage, and since then nothing went on. -/
def Taken (s t : Station (Recorded W Happening) H) : Option Command → Prop
  | none => Passage s t
  | some command => ∃ middle rest, Passage s middle ∧
      middle.endpoint.commands.take? = some (command, rest) ∧
      Endpoint.Apart { middle.endpoint with commands := rest } t.endpoint ∧
      t.world.diary = middle.world.diary

theorem nextCommand_taken {ports : Ports (Recorded W Happening) H} (within : ports.Within Passage)
    (wait : Nat) (s : Station (Recorded W Happening) H) :
    Returns (nextCommand ports wait) s fun taken t => Taken s t taken := by
  refine (passage_jobless.nextCommand within wait s).mono fun taken t there => ?_
  cases taken with
  | none => exact there
  | some command =>
    -- The new depth of the queue is counted apart from the delivery.
    obtain ⟨middle, rest, passage, oldest, rfl⟩ := there
    exact ⟨middle, rest, passage, oldest, ⟨rfl, rfl, rfl, rfl, rfl, rfl⟩, rfl⟩

/-- The command that was taken and written down is processed: unless it is not JSON, the
handler is called with what it says. -/
theorem execute_passes {ports : Ports (Recorded W Happening) H} (pass : ports.Pass)
    {s t : Station (Recorded W Happening) H} {command : Command}
    {rest : Bounded Command commandDepth} (ledger : Ledger s.endpoint s.world.diary)
    (oldest : s.endpoint.commands.take? = some (command, rest))
    (apart : Endpoint.Apart { s.endpoint with commands := rest } t.endpoint)
    (written : t.world.diary = s.world.diary ++ [.processed command]) :
    Returns (execute ports.recorded command) t fun _ after => Passage s after := by
  have settings : t.endpoint.settings = s.endpoint.settings := apart.settings
  have fits : command.terminated.length ≤ t.endpoint.settings.reassemblyCapacity.toNat := by
    rw [settings]
    have items := Bounded.items_take? _ _ _ oldest
    exact ledger.fitting command (by rw [items]; exact List.mem_cons_self)
  obtain ⟨handler, direct⟩ := ledger.direct
  have responder : t.endpoint.responder = some (.direct handler) := apart.responder.trans direct
  -- No port is called between the taking and the handler: both belong to one turn.
  have process := Turn.process s oldest
  unfold execute
  refine returns_endpoint ?_
  -- What came through the reassembly is never too large for the worker.
  rw [if_neg (Nat.not_lt.mpr fits)]
  cases read : Json.read command.payload with
  | error problem =>
    have there : Passage s t := by
      refine .tail (.single process) (.apart apart ?_)
      rw [written]
      simp [Station.record, Command.processing, Command.parsed?, read, Except.toOption]
    have reply := passage_bookless.replyError pass.recorded problem.message "parse"
    have replied := passage_bookless.bind passage_jobless.countParseError fun _ =>
      passage_bookless.bind reply fun _ => passage_bookless.pure Disposition.parseError
    exact (replied t).mono fun _ _ further => there.trans further
  | ok parsed =>
    have called : Passage s (t.record [.handled parsed] t.endpoint) := by
      refine .tail (.single process) (.apart apart ?_)
      simp [Station.record, written, Command.processing, Command.parsed?, read, Except.toOption]
    refine returns_endpoint ?_
    rw [responder]
    have handled := passage_bookless.bind (pass.handle handler parsed) fun _ =>
      passage_bookless.pure Disposition.handled
    exact (handled _).mono fun _ _ further => called.trans further

theorem processCommand_passes {ports : Ports (Recorded W Happening) H} (pass : ports.Pass)
    {s t : Station (Recorded W Happening) H} {command : Command}
    {rest : Bounded Command commandDepth} (ledger : Ledger s.endpoint s.world.diary)
    (oldest : s.endpoint.commands.take? = some (command, rest))
    (apart : Endpoint.Apart { s.endpoint with commands := rest } t.endpoint)
    (written : t.world.diary = s.world.diary ++ [.processed command]) :
    Returns (processCommand ports.recorded command) t fun _ after => Passage s after := by
  have raised : t.endpoint.Apart { t.endpoint with priority := true } :=
    ⟨rfl, rfl, rfl, rfl, rfl, rfl⟩
  have executed := execute_passes pass
    (t := { t with endpoint := { t.endpoint with priority := true } }) ledger oldest
    (apart.trans raised) written
  refine returns_modifyEndpoint (Returns.ensuring (executed.bind fun disposition u there => ?_))
  refine returns_modifyEndpoint (returns_pure ?_)
  exact there.tail (.apart ⟨rfl, rfl, rfl, rfl, rfl, rfl⟩ rfl)

theorem processWatched_passes {ports : Ports (Recorded W Happening) H} (pass : ports.Pass)
    {s : Station (Recorded W Happening) H} (ledger : Ledger s.endpoint s.world.diary)
    (wait : Nat) :
    Returns (processWatched ports.recorded (note [.processed ·]) wait) s
      fun _ t => Passage s t := by
  refine (nextCommand_taken pass.recorded wait s).bind fun taken t there => ?_
  cases taken with
  | none => exact returns_pure there
  | some command =>
    obtain ⟨middle, rest, passage, oldest, apart, silent⟩ := there
    refine returns_note ?_
    have processed := processCommand_passes pass
      (t := t.record [.processed command] t.endpoint) (ledger.passage passage) oldest apart
      (by rw [← silent]; rfl)
    refine processed.bind fun disposition u further => ?_
    exact returns_pure (passage.trans further)

/-! ## Runs -/

/-- What is asked of an endpoint. -/
inductive Request (W H : Type) where
  | fragment (refuses : Nat → Bool) (bytes : Bytes)
  | process (wait : Nat)
  | linkUp
  | linkDown
  /-- Anything that goes on between two requests. -/
  | meanwhile (act : Act (Recorded W Happening) H Unit) (within : Within Passage act)

/-- Do what is asked, and write down what it comes to. -/
def Request.perform (ports : Ports (Recorded W Happening) H) :
    Request W H → Act (Recorded W Happening) H Unit
  | .fragment refuses bytes => do
    let now := ports.now (← world)
    let entries := (← endpoint).completion refuses bytes now
    onFragment ports.recorded refuses bytes
    note entries
  | .process wait => discard (processWatched ports.recorded (note [.processed ·]) wait)
  | .linkUp => do
    modifyEndpoint (·.linkUp)
    note [.connected]
  | .linkDown => modifyEndpoint (·.linkDown)
  | .meanwhile act _ => act

def performAll (ports : Ports (Recorded W Happening) H) :
    List (Request W H) → Act (Recorded W Happening) H Unit
  | [] => return
  | request :: rest => do
    request.perform ports
    performAll ports rest

theorem fragment_within {ports : Ports (Recorded W Happening) H} (pass : ports.Pass)
    (refuses : Nat → Bool) (bytes : Bytes) :
    Within Passage (Request.perform ports (.fragment refuses bytes)) := by
  intro s
  obtain ⟨now, clock⟩ : ∃ now, now = ports.now s.world := ⟨_, rfl⟩
  obtain ⟨entries, completes⟩ : ∃ entries, entries = s.endpoint.completion refuses bytes now :=
    ⟨_, rfl⟩
  have taken : Returns (onFragment ports.recorded refuses bytes) s fun _ t =>
      Passage (s.record entries (s.endpoint.receive refuses bytes now).2)
        (t.record entries t.endpoint) := by
    rw [completes, Endpoint.completion, clock]
    refine returns_world (returns_step ?_)
    split
    next cancelled =>
      -- Nothing was completed, and what is left to do is to acknowledge.
      have acknowledged := (passage_bookless.deliver pass.notify ackMarker).discard
        (s.record [] (s.endpoint.receive refuses bytes (ports.now s.world)).2)
      rw [show (s.endpoint.receive refuses bytes (ports.now s.world)).1 = .cancelled from cancelled]
      simp only [Station.record_nil] at acknowledged ⊢
      exact acknowledged
    next => exact returns_pure .refl
  refine returns_world (returns_endpoint ?_)
  rw [← clock, ← completes]
  refine taken.bind fun _ t there => ⟨(), _, rfl, ?_⟩
  exact .head (completes ▸ Turn.fragment s refuses bytes now) there

/-- Every request comes back, and the diary keeps saying what it says. -/
theorem perform_keeps {ports : Ports (Recorded W Happening) H} (pass : ports.Pass)
    (request : Request W H) {s : Station (Recorded W Happening) H}
    (ledger : Ledger s.endpoint s.world.diary) :
    Returns (request.perform ports) s fun _ t => Ledger t.endpoint t.world.diary := by
  cases request with
  | fragment refuses bytes =>
    exact (fragment_within pass refuses bytes s).mono fun _ _ there => ledger.passage there
  | process wait =>
    refine Returns.discard ?_
    exact (processWatched_passes pass ledger wait).mono fun _ _ there => ledger.passage there
  | linkUp => exact ⟨(), _, rfl, ledger.linkUp⟩
  | linkDown => exact ⟨(), _, rfl, ledger.linkDown⟩
  | meanwhile act within => exact (within s).mono fun _ _ there => ledger.passage there

theorem performAll_keeps {ports : Ports (Recorded W Happening) H} (pass : ports.Pass)
    (requests : List (Request W H)) {s : Station (Recorded W Happening) H}
    (ledger : Ledger s.endpoint s.world.diary) :
    Returns (performAll ports requests) s fun _ t => Ledger t.endpoint t.world.diary := by
  induction requests generalizing s with
  | nil => exact returns_pure ledger
  | cons request rest ih => exact (perform_keeps pass request ledger).bind fun _ _ kept => ih kept

open Happening in
/-- Whatever is asked of an endpoint and whatever goes on meanwhile: the commands that were
processed and those that still wait are the ones that were completed while the queue had
room, in that order; the counters say how many of them there were since the last connect,
and how many were shed; and the handler was called with each processed command that is
JSON, in that order, and with nothing else. -/
theorem commands_processed_once_in_order (ports : Ports (Recorded W Happening) H)
    (pass : ports.Pass) {settings : Settings} {fresh : Endpoint H}
    (made : Endpoint.create settings = .ok fresh) (handler : H) (world : W)
    (requests : List (Request W H)) :
    Returns (performAll ports requests) ⟨fresh.servedBy handler, { world }⟩ fun _ after =>
      let diary := after.world.diary
      diary.filterMap processed? ++ after.endpoint.commands.items = diary.filterMap accepted? ∧
      after.endpoint.counters.queueDrops = ((sinceConnected diary).filterMap shed?).length ∧
      after.endpoint.counters.commandsQueued =
        ((sinceConnected diary).filterMap accepted?).length ∧
      diary.filterMap handled? = (diary.filterMap processed?).filterMap Command.parsed? := by
  obtain ⟨-, rfl⟩ := Endpoint.eq_fresh_of_create made
  have kept := performAll_keeps pass requests
    (s := ⟨(Endpoint.fresh settings).servedBy handler, { world }⟩) (ledger_fresh settings handler)
  exact kept.mono fun _ _ ledger => ⟨ledger.order, ledger.drops, ledger.queued, ledger.calls⟩

/-- A fragment arrives while something else is under way. -/
def arrive (refuses : Nat → Bool) (fragment : Bytes) (now : Nat) :
    Act (Recorded W Happening) H Unit := do
  let entries := (← endpoint).completion refuses fragment now
  modifyEndpoint fun endpoint => (endpoint.receive refuses fragment now).2
  note entries

theorem arrive_within (refuses : Nat → Bool) (fragment : Bytes) (now : Nat) :
    Within Passage (arrive refuses fragment now : Act (Recorded W Happening) H Unit) :=
  fun s => ⟨(), _, rfl, .single (.fragment s refuses fragment now)⟩

/-- Ports of a link on which one of the fragments to come arrives with each nap, and nothing
that is sent goes out. -/
def napPorts : Ports (Recorded (List Bytes) Happening) Unit where
  notify _ := return .error .notConnected
  requestMtu _ := return .error .notConnected
  restartAdvertising := pure ()
  mtu _ := UInt16.ofNat defaultMtu
  now _ := 0
  sleep _ := do
    match (← world).world with
    | [] => pure ()
    | fragment :: rest =>
      modifyWorld fun recorded => { recorded with world := rest }
      arrive (fun _ => false) fragment 0
  randomBelow _ := return 0
  freeBytes := return 0
  minFreeBytes _ := 0
  allocate _ _ := return false
  handle _ _ := pure ()
  hasTelemetry _ := false
  nextTelemetry := return none
  rounds := 1

theorem napPorts_pass : napPorts.Pass where
  notify _ := passage_bookless.pure _
  sleep _ := by
    refine passage_bookless.bind passage_bookless.world fun recorded => ?_
    split
    next => exact passage_bookless.pure ()
    next fragment rest arrives =>
      refine passage_bookless.bind ?_ fun _ => arrive_within _ fragment 0
      exact fun s => ⟨(), _, rfl, .single (.apart (.refl _) rfl)⟩
  freeBytes := passage_bookless.pure _
  allocate _ _ := passage_bookless.pure _
  handle _ _ := passage_bookless.pure _

/-- A command arrives in two naps of the worker that waits for it, and is processed; another
one comes from the next peer and waits. -/
theorem commands_processed_once_in_order_in_naps :
    let run := performAll napPorts [
      .fragment (fun _ => false) startMarker, .process 10, .linkUp,
      .fragment (fun _ => false) (Bytes.ofText "2"), .fragment (fun _ => false) endMarker]
    let after := (exec run
      ⟨(Endpoint.fresh {}).servedBy (), { world := [Bytes.ofText "1", endMarker] }⟩).2
    after.world.diary.filterMap Happening.processed? ++ after.endpoint.commands.items =
      [⟨Bytes.ofText "1"⟩, ⟨Bytes.ofText "2"⟩] := by
  intro run after
  have made : Endpoint.create {} = .ok (Endpoint.fresh {} : Endpoint Unit) := rfl
  obtain ⟨_, last, returned, order, -⟩ := commands_processed_once_in_order napPorts
    napPorts_pass made () [Bytes.ofText "1", endMarker] [
      .fragment (fun _ => false) startMarker, .process 10, .linkUp,
      .fragment (fun _ => false) (Bytes.ofText "2"), .fragment (fun _ => false) endMarker]
  have reached : after = last := congrArg Prod.snd returned
  have completed : after.world.diary.filterMap Happening.accepted? =
      [⟨Bytes.ofText "1"⟩, ⟨Bytes.ofText "2"⟩] := by decide +kernel
  rw [← reached] at order
  exact order.trans completed

end CommandLink
