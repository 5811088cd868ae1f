import CommandLink.Proofs.Delivery
import CommandLink.Proofs.WorkingApart

/-!
# The gauges of the queue

Depth and peak are written when a command is queued, the depth also when one is taken, and both
are cleared when a peer connects, whatever waits then. So they speak of the queue from the first
movement behind a connect on. Where the connect found the queue empty they tell the truth from
the beginning; where it did not, the depth is zero beside the commands that wait, and may pass
the peak later.

The diary of a run says which movements there were. Everything an endpoint does is a run of
`QueueStep`s, also where a handler crashes, and each of them keeps what the diary says of the
gauges (`Gauges.Shown`).
-/

namespace CommandLink

/-- A movement of the queue, or a connect, with the number of commands that wait behind it. -/
inductive Movement where
  | queued (waiting : Nat)
  | taken (waiting : Nat)
  | connected (waiting : Nat)
  deriving DecidableEq, Repr

namespace Movement

@[simp] def isConnected : Movement → Bool
  | .connected _ => true
  | .queued _ => false
  | .taken _ => false

@[simp] def queued? : Movement → Option Nat
  | .queued waiting => some waiting
  | .taken _ => none
  | .connected _ => none

@[simp] def connected? : Movement → Option Nat
  | .connected waiting => some waiting
  | .queued _ => none
  | .taken _ => none

/-- The movements since the last peer connected. -/
def sinceConnected (diary : List Movement) : List Movement := diary.rtakeWhile (!·.isConnected)

/-- How many commands waited whenever one was queued since the last peer connected. -/
def heights (diary : List Movement) : List Nat := (sinceConnected diary).filterMap queued?

/-- How many commands the last connect found in the queue. -/
def found (diary : List Movement) : Nat := (diary.filterMap connected?).getLast?.getD 0

variable (diary : List Movement) (waiting : Nat)

theorem sinceConnected_queued :
    sinceConnected (diary ++ [.queued waiting]) = sinceConnected diary ++ [.queued waiting] :=
  List.rtakeWhile_concat_pos _ _ _ rfl

theorem sinceConnected_taken :
    sinceConnected (diary ++ [.taken waiting]) = sinceConnected diary ++ [.taken waiting] :=
  List.rtakeWhile_concat_pos _ _ _ rfl

theorem sinceConnected_connected : sinceConnected (diary ++ [.connected waiting]) = [] :=
  List.rtakeWhile_concat_neg _ _ _ (by simp)

@[simp] theorem heights_queued :
    heights (diary ++ [.queued waiting]) = heights diary ++ [waiting] := by
  simp [heights, sinceConnected_queued]

@[simp] theorem heights_taken : heights (diary ++ [.taken waiting]) = heights diary := by
  simp [heights, sinceConnected_taken]

@[simp] theorem heights_connected : heights (diary ++ [.connected waiting]) = [] := by
  simp [heights, sinceConnected_connected]

@[simp] theorem found_taken : found (diary ++ [.taken waiting]) = found diary := by
  simp [found]

@[simp] theorem found_connected : found (diary ++ [.connected waiting]) = waiting := by
  simp [found]

end Movement

/-! ## What the diary says of the gauges -/

/-- The number of commands that wait, and what the counters show of it. -/
structure Gauges where
  waiting : Nat
  depth : Nat
  peak : Nat
  deriving DecidableEq, Repr

namespace Gauges

/-- A command is queued. -/
def queue (gauges : Gauges) : Gauges where
  waiting := gauges.waiting + 1
  depth := gauges.waiting + 1
  peak := max gauges.peak (gauges.waiting + 1)

/-- What becomes of the gauges by what a fragment does to the reassembly. -/
def settle (outcome : Reassembly.Outcome) (gauges : Gauges) : Gauges :=
  match outcome with
  | .complete _ => if gauges.waiting < commandDepth then gauges.queue else gauges
  | _ => gauges

/-- What is written down of it: a complete command is queued if there is room. -/
def movements (outcome : Reassembly.Outcome) (gauges : Gauges) : List Movement :=
  match outcome with
  | .complete _ => if gauges.waiting < commandDepth then [.queued (gauges.waiting + 1)] else []
  | _ => []

open Movement in
/-- What the diary of a run says of the gauges behind it. -/
structure Shown (gauges : Gauges) (diary : List Movement) : Prop where
  room : gauges.waiting ≤ commandDepth
  depth : gauges.depth = if sinceConnected diary = [] then 0 else gauges.waiting
  peak : gauges.peak = (heights diary).foldl max 0
  /-- The queue has no more than its peak once it has grown, and has not grown before. -/
  grown : heights diary ≠ [] → gauges.waiting ≤ gauges.peak
  fallen : heights diary = [] → gauges.waiting ≤ found diary
  within : gauges.peak ≤ commandDepth

namespace Shown

variable {gauges : Gauges} {diary : List Movement}

theorem powerUp : (⟨0, 0, 0⟩ : Gauges).Shown [] where
  room := Nat.zero_le _
  depth := rfl
  peak := rfl
  grown some := absurd rfl some
  fallen _ := Nat.zero_le _
  within := Nat.zero_le _

theorem queue (shown : gauges.Shown diary) (room : gauges.waiting < commandDepth) :
    gauges.queue.Shown (diary ++ [.queued (gauges.waiting + 1)]) where
  room := room
  depth := by simp [Movement.sinceConnected_queued, Gauges.queue]
  peak := by simp [Gauges.queue, shown.peak]
  grown _ := Nat.le_max_right _ _
  fallen none := absurd none (by simp)
  within := Nat.max_le.mpr ⟨shown.within, room⟩

theorem settle (shown : gauges.Shown diary) (outcome : Reassembly.Outcome) :
    (gauges.settle outcome).Shown (diary ++ gauges.movements outcome) := by
  unfold Gauges.settle Gauges.movements
  split
  next =>
    split
    next room => exact shown.queue room
    next => rwa [List.append_nil]
  next => rwa [List.append_nil]

theorem take {left : Nat} (shown : gauges.Shown diary) (more : gauges.waiting = left + 1) :
    (⟨left, left, gauges.peak⟩ : Gauges).Shown (diary ++ [.taken left]) where
  room := by
    have room := shown.room
    show left ≤ commandDepth
    omega
  depth := by simp [Movement.sinceConnected_taken]
  peak := by simpa using shown.peak
  grown some := by
    rw [Movement.heights_taken] at some
    have grown := shown.grown some
    show left ≤ gauges.peak
    omega
  fallen none := by
    rw [Movement.heights_taken] at none
    have fallen := shown.fallen none
    rw [Movement.found_taken]
    show left ≤ Movement.found diary
    omega
  within := shown.within

/-- The counters are cleared, and the queue is not. -/
theorem connect (shown : gauges.Shown diary) :
    (⟨gauges.waiting, 0, 0⟩ : Gauges).Shown (diary ++ [.connected gauges.waiting]) where
  room := shown.room
  depth := by rw [Movement.sinceConnected_connected, if_pos rfl]
  peak := by rw [Movement.heights_connected]; rfl
  grown some := absurd (Movement.heights_connected diary gauges.waiting) some
  fallen _ := by rw [Movement.found_connected]
  within := Nat.zero_le _

theorem depth_le (shown : gauges.Shown diary) : gauges.depth ≤ gauges.waiting := by
  rw [shown.depth]
  split
  next => exact Nat.zero_le _
  next => exact le_rfl

/-- Behind a connect that found nothing, the gauges tell the truth. -/
theorem true_of_found (shown : gauges.Shown diary) (nothing : Movement.found diary = 0) :
    gauges.depth = gauges.waiting ∧ gauges.depth ≤ gauges.peak := by
  by_cases still : Movement.heights diary = []
  · -- Nothing waits as long as nothing was queued.
    have empty := shown.fallen still
    have depth := shown.depth_le
    omega
  · have moved : Movement.sinceConnected diary ≠ [] := by
      intro none
      exact still (by rw [Movement.heights, none]; rfl)
    have depth := shown.depth
    rw [if_neg moved] at depth
    exact ⟨depth, depth ▸ shown.grown still⟩

end Shown

end Gauges

/-! ## What an endpoint does to its gauges -/

variable {W H : Type}

def Endpoint.gauges (endpoint : Endpoint H) : Gauges where
  waiting := endpoint.commands.size
  depth := endpoint.counters.queueDepth
  peak := endpoint.counters.queuePeak

namespace Endpoint

theorem gauges_dispatch (command : Command) (endpoint : Endpoint H) :
    (endpoint.dispatch command).2.gauges = endpoint.gauges.settle (.complete command) := by
  by_cases room : endpoint.commands.items.length < commandDepth
  · simp [dispatch, Bounded.offer?, gauges, count, Bounded.size, Gauges.settle, Gauges.queue, room]
  · simp [dispatch, Bounded.offer?, gauges, count, Bounded.size, Gauges.settle, room]

theorem gauges_report (fault : Fault) (endpoint : Endpoint H) :
    (endpoint.report fault).2.gauges = endpoint.gauges := by
  unfold report
  split <;> rfl

theorem gauges_settle (outcome : Reassembly.Outcome) (endpoint : Endpoint H) :
    (endpoint.settle outcome).gauges = endpoint.gauges.settle outcome := by
  cases outcome with
  | started => rfl
  | cancelled => rfl
  | buffered => rfl
  | emptyCommand => rfl
  | dropped => rfl
  | overflow error => exact gauges_report .overflow _
  | complete command => exact gauges_dispatch command endpoint
  | allocFailed length => exact gauges_report .noMemory endpoint

theorem gauges_receive (refuses : Nat → Bool) (bytes : Bytes) (now : Nat)
    (endpoint : Endpoint H) :
    (endpoint.receive refuses bytes now).2.gauges =
      endpoint.gauges.settle (endpoint.receive refuses bytes now).1 := by
  simp only [receive, gauges_settle]
  -- That a partial command was given up is counted, but not by the gauges.
  split <;> rfl

end Endpoint

/-- One thing that becomes of the queue, written down as it happens. -/
inductive QueueStep : Station (Recorded W Movement) H → Station (Recorded W Movement) H → Prop where
  | apart {s t} (same : t.endpoint.gauges = s.endpoint.gauges)
    (silent : t.world.diary = s.world.diary) : QueueStep s t
  | fragment (s) (refuses : Nat → Bool) (bytes : Bytes) (now : Nat) :
    QueueStep s (s.record (s.endpoint.gauges.movements (s.endpoint.receive refuses bytes now).1)
      (s.endpoint.receive refuses bytes now).2)
  | take (s) {command rest} (oldest : s.endpoint.commands.take? = some (command, rest)) :
    QueueStep s (s.record [.taken rest.size]
      { s.endpoint with commands := rest }.countDepth)
  | linkUp (s) : QueueStep s (s.record [.connected s.endpoint.commands.size] s.endpoint.linkUp)

/-- Any number of things that become of the queue, one after the other. -/
def QueueRun : Station (Recorded W Movement) H → Station (Recorded W Movement) H → Prop :=
  Relation.ReflTransGen QueueStep

theorem QueueRun.apart {s t : Station (Recorded W Movement) H}
    (same : t.endpoint.gauges = s.endpoint.gauges) (silent : t.world.diary = s.world.diary) :
    QueueRun s t := .single (.apart same silent)

theorem queueRun_jobless : Jobless (QueueRun (W := W) (H := H)) where
  refl _ := .refl
  trans _ _ _ there further := there.trans further
  jobs s endpoint same := by
    have commands := congrArg Endpoint.commands same
    have depth := congrArg (·.counters.queueDepth) same
    have peak := congrArg (·.counters.queuePeak) same
    refine .apart (Gauges.mk.injEq .. ▸ ⟨?_, depth, peak⟩) rfl
    exact congrArg Bounded.size commands

/-- What the diary of a station says of its gauges. -/
def Station.Gauged (s : Station (Recorded W Movement) H) : Prop :=
  s.endpoint.gauges.Shown s.world.diary

theorem Station.Gauged.step {s t : Station (Recorded W Movement) H} (gauged : s.Gauged)
    (step : QueueStep s t) : t.Gauged := by
  cases step with
  | apart same silent =>
    rw [Station.Gauged, same, silent]
    exact gauged
  | fragment refuses bytes now =>
    have settled := gauged.settle (s.endpoint.receive refuses bytes now).1
    rw [← s.endpoint.gauges_receive refuses bytes now] at settled
    exact settled
  | @take command rest oldest =>
    have items := Bounded.items_take? _ _ _ oldest
    have more : s.endpoint.commands.size = rest.size + 1 := by
      rw [Bounded.size, items, List.length_cons, Bounded.size]
    exact Gauges.Shown.take gauged more
  | linkUp => exact Gauges.Shown.connect gauged

theorem Station.Gauged.run {s t : Station (Recorded W Movement) H} (gauged : s.Gauged)
    (run : QueueRun s t) : t.Gauged := by
  induction run with
  | refl => exact gauged
  | tail _ last ih => exact ih.step last

/-! ## Runs -/

/-- An endpoint with this responder, or with none. -/
def Endpoint.answeredBy (responder : Option (Responder H)) (endpoint : Endpoint H) : Endpoint H :=
  { endpoint with responder }

/-- What may happen to an endpoint. -/
inductive Occasion where
  | fragment (refuses : Nat → Bool) (bytes : Bytes)
  | process (wait : Nat)
  | linkUp
  | linkDown
  | connect
  | disconnect

open Act

/-- Let it happen, and write down what it does to the queue. -/
def Occasion.perform (ports : Ports (Recorded W Movement) H) :
    Occasion → Act (Recorded W Movement) H Unit
  | .fragment refuses bytes => do
    let now := ports.now (← world)
    let entries :=
      (← endpoint).gauges.movements ((← endpoint).receive refuses bytes now).1
    onFragment ports refuses bytes
    note entries
  | .process wait =>
    discard (processWatched ports (fun _ => do note [.taken (← endpoint).commands.size]) wait)
  | .linkUp => do
    note [.connected (← endpoint).commands.size]
    modifyEndpoint (·.linkUp)
  | .linkDown => modifyEndpoint (·.linkDown)
  | .connect => onConnect ports
  | .disconnect => onDisconnect ports

/-- The station behind a run. A crash ends an occasion, and the next one follows all the same. -/
def Station.behind (ports : Ports (Recorded W Movement) H)
    (s : Station (Recorded W Movement) H) (occasions : List Occasion) :
    Station (Recorded W Movement) H :=
  occasions.foldl (fun s occasion => (exec (occasion.perform ports) s).2) s

section Runs

variable {ports : Ports (Recorded W Movement) H} (serving : ports.Serving QueueRun)

include serving

theorem fragment_queueRun (refuses : Nat → Bool) (bytes : Bytes) :
    Within QueueRun (Occasion.perform ports (.fragment refuses bytes)) := by
  intro s
  refine returns_world (returns_endpoint (returns_endpoint ?_))
  obtain ⟨received, arrives⟩ :
      ∃ received, received = s.endpoint.receive refuses bytes (ports.now s.world) := ⟨_, rfl⟩
  have arrived : QueueRun s (s.record (s.endpoint.gauges.movements received.1) received.2) := by
    rw [arrives]
    exact .single (.fragment s refuses bytes _)
  -- The acknowledgement goes out before the fragment is written down.
  have taken : Returns (onFragment ports refuses bytes) s fun _ t =>
      QueueRun s (t.record (s.endpoint.gauges.movements received.1) t.endpoint) := by
    refine returns_world (returns_step ?_)
    rw [← arrives]
    split
    next cancelled =>
      -- A request to cancel queues nothing, so that nothing is left to be written down.
      rw [cancelled] at arrived ⊢
      simp only [Gauges.movements, Station.record_nil] at arrived ⊢
      have acknowledged := (queueRun_jobless.bookless.deliver serving.notify ackMarker).discard
      exact (acknowledged _).mono fun _ t there => arrived.trans there
    next => exact returns_pure arrived
  rw [← arrives]
  exact taken.bind fun _ t there => ⟨(), _, rfl, there⟩

theorem processCommand_queueRun (command : Command) :
    Ends QueueRun (processCommand ports command) := by
  have trans := queueRun_jobless (W := W) (H := H).trans
  have raised : Ends QueueRun (modifyEndpoint fun endpoint => { endpoint with priority := true } :
      Act (Recorded W Movement) H Unit) := fun _ => .apart rfl rfl
  have counted : Ends QueueRun
      (count fun c => { c with commandsProcessed := c.commandsProcessed + 1 } :
        Act (Recorded W Movement) H Unit) := fun _ => .apart rfl rfl
  refine raised.bind trans fun _ => Ends.ensuring trans (fun _ => .apart rfl rfl) ?_
  refine (queueRun_jobless.execute serving command).bind trans fun disposition => ?_
  exact counted.bind trans fun _ => (queueRun_jobless.bookless.pure disposition).ends

theorem process_queueRun (wait : Nat) :
    Ends QueueRun (Occasion.perform ports (.process wait)) := by
  intro s
  rw [Occasion.perform, exec_discard]
  obtain ⟨taken, t, run, there⟩ := queueRun_jobless.nextCommand serving.toWithin wait s
  rw [processWatched, exec_bind_of_ok run]
  cases taken with
  | none => exact there
  | some command =>
    obtain ⟨middle, rest, further, oldest, rfl⟩ := there
    -- Taking the command and counting the depth behind it are one step of the queue.
    have behind := further.tail (.take middle oldest)
    have processed := (processCommand_queueRun serving command).bind queueRun_jobless.trans
      fun disposition => (queueRun_jobless.bookless.pure (some disposition)).ends
    exact behind.trans (processed _)

variable (linking : ports.Linking QueueRun)

include linking

/-- Whatever happens, and also where a handler crashes, the queue goes on step by step. -/
theorem perform_queueRun (occasion : Occasion) : Ends QueueRun (occasion.perform ports) := by
  cases occasion with
  | fragment refuses bytes => exact (fragment_queueRun serving refuses bytes).ends
  | process wait => exact process_queueRun serving wait
  | linkUp => exact fun s => .single (.linkUp s)
  | linkDown => exact fun s => .apart rfl rfl
  | connect => exact (queueRun_jobless.onConnect linking).ends
  | disconnect => exact (queueRun_jobless.onDisconnect linking).ends

theorem Station.Gauged.behind {s : Station (Recorded W Movement) H} (gauged : s.Gauged)
    (occasions : List Occasion) : (s.behind ports occasions).Gauged := by
  induction occasions generalizing s with
  | nil => exact gauged
  | cons occasion rest ih => exact ih (gauged.run (perform_queueRun serving linking occasion s))

end Runs

open Movement in
/-- Between any two things that happen to an endpoint, whatever goes on while its ports are
called and wherever handlers crash: no more than twenty commands wait, and no gauge shows more.
The depth is zero until the queue moves on the connection, and then the number of commands that
wait; the peak is the largest number there was behind a command that was queued on the
connection. Once one was queued, the depth is within the peak; and when the connect found the
queue empty, the depth is the number of commands that wait and within the peak all along. -/
theorem queue_gauges_since_connect (ports : Ports (Recorded W Movement) H)
    (serving : ports.Serving QueueRun) (linking : ports.Linking QueueRun) (settings : Settings)
    (responder : Option (Responder H)) (world : W) (occasions : List Occasion) :
    let start : Station (Recorded W Movement) H :=
      ⟨(Endpoint.fresh settings).answeredBy responder, { world }⟩
    let after := start.behind ports occasions
    let diary := after.world.diary
    let waiting := after.endpoint.commands.size
    let counters := after.endpoint.counters
    counters.queueDepth = (if sinceConnected diary = [] then 0 else waiting) ∧
    counters.queuePeak = (heights diary).foldl max 0 ∧
    (waiting ≤ 20 ∧ counters.queueDepth ≤ 20 ∧ counters.queuePeak ≤ 20) ∧
    (heights diary ≠ [] → counters.queueDepth ≤ counters.queuePeak) ∧
    (found diary = 0 →
      counters.queueDepth = waiting ∧ counters.queueDepth ≤ counters.queuePeak) := by
  intro start after diary waiting counters
  have gauged : after.Gauged :=
    Station.Gauged.behind serving linking (s := start) Gauges.Shown.powerUp occasions
  have depth : counters.queueDepth ≤ waiting := Gauges.Shown.depth_le gauged
  have room : waiting ≤ 20 := gauged.room
  refine ⟨gauged.depth, gauged.peak, ⟨room, depth.trans room, gauged.within⟩, ?_, ?_⟩
  · exact fun grown => depth.trans (gauged.grown grown)
  · exact Gauges.Shown.true_of_found gauged

/-- A fragment arrives while something else is under way. -/
def arriveGauged (bytes : Bytes) : Act (Recorded W Movement) H Unit := do
  let (outcome, after) := (← endpoint).receive (fun _ => false) bytes 0
  note ((← endpoint).gauges.movements outcome)
  modifyEndpoint fun _ => after

theorem arriveGauged_within (bytes : Bytes) :
    Within QueueRun (arriveGauged bytes : Act (Recorded W Movement) H Unit) :=
  fun s => ⟨(), _, rfl, .single (.fragment s (fun _ => false) bytes 0)⟩

/-- Ports of a link that takes nothing, on which one of the fragments to come arrives with each
nap, on a device whose handler crashes. -/
def arrivingPorts : Ports (Recorded (List Bytes) Movement) Unit where
  notify _ := return .error .notConnected
  requestMtu _ := return .error .notConnected
  restartAdvertising := pure ()
  mtu _ := UInt16.ofNat defaultMtu
  now _ := 0
  sleep _ := do
    match (← world).world with
    | [] => pure ()
    | bytes :: rest =>
      modifyWorld fun recorded => { recorded with world := rest }
      arriveGauged bytes
  randomBelow _ := return 0
  freeBytes := return 0
  minFreeBytes _ := 0
  allocate _ _ := return false
  handle _ _ := throw ⟨"no such command"⟩
  hasTelemetry _ := false
  nextTelemetry := return none
  rounds := 1

theorem arrivingPorts_sleep (time : Nat) : Within QueueRun (arrivingPorts.sleep time) := by
  refine queueRun_jobless.bookless.bind queueRun_jobless.bookless.world fun recorded => ?_
  split
  next => exact queueRun_jobless.bookless.pure ()
  next bytes rest arrives =>
    refine queueRun_jobless.bookless.bind ?_ fun _ => arriveGauged_within bytes
    exact fun s => ⟨(), _, rfl, .apart rfl rfl⟩

theorem arrivingPorts_serving : arrivingPorts.Serving QueueRun where
  notify _ := queueRun_jobless.bookless.pure _
  sleep := arrivingPorts_sleep
  freeBytes := queueRun_jobless.bookless.pure _
  allocate _ _ := queueRun_jobless.bookless.pure _
  handle _ _ _ := .refl

theorem arrivingPorts_linking : arrivingPorts.Linking QueueRun where
  sleep := arrivingPorts_sleep
  requestMtu _ := queueRun_jobless.bookless.pure _
  randomBelow _ := queueRun_jobless.bookless.pure _
  restartAdvertising := queueRun_jobless.bookless.pure ()

/-- Fragments that make a command of some payload. -/
def commandFragments (payload : Bytes) : List Occasion :=
  [startMarker, payload, endMarker].map (.fragment fun _ => false)

/-- A command of the peer is processed and another one that arrives while the worker waits, and
the handler crashes on both; then two more are queued and the first of them is taken. -/
theorem queue_gauges_since_connect_with_crashes :
    let start : Station (Recorded (List Bytes) Movement) Unit :=
      ⟨(Endpoint.fresh {}).answeredBy (some (.direct ())),
        { world := [startMarker, Bytes.ofText "2", endMarker] }⟩
    let after := start.behind arrivingPorts
      ([.linkUp, .connect] ++ commandFragments (Bytes.ofText "1") ++
        [.process 10, .process 10] ++ commandFragments (Bytes.ofText "3") ++
        commandFragments (Bytes.ofText "4") ++ [.process 0])
    after.world.diary =
      [.connected 0, .queued 1, .taken 0, .queued 1, .taken 0, .queued 1, .queued 2, .taken 1] ∧
    after.endpoint.counters.queueDepth = after.endpoint.commands.size ∧
    after.endpoint.counters.queuePeak = 2 := by
  have shown := queue_gauges_since_connect arrivingPorts arrivingPorts_serving
    arrivingPorts_linking {} (some (.direct ())) [startMarker, Bytes.ofText "2", endMarker]
    ([.linkUp, .connect] ++ commandFragments (Bytes.ofText "1") ++
      [.process 10, .process 10] ++ commandFragments (Bytes.ofText "3") ++
      commandFragments (Bytes.ofText "4") ++ [.process 0])
  intro start after
  have diary : after.world.diary = [.connected 0, .queued 1, .taken 0, .queued 1, .taken 0,
      .queued 1, .queued 2, .taken 1] := by decide +kernel
  -- From here on only what the diary says is looked at, not the run.
  dsimp only [start, after] at diary shown ⊢
  rw [diary] at shown ⊢
  obtain ⟨-, peak, -, -, truthful⟩ := shown
  exact ⟨rfl, (truthful rfl).1, peak⟩

/-- Two commands of the peer before wait when the next one connects: the gauges are cleared, and
once one of the two is taken, the depth is above the peak. -/
theorem gauges_cleared_beside_waiting_commands :
    let start : Station (Recorded (List Bytes) Movement) Unit :=
      ⟨Endpoint.fresh {}, { world := [] }⟩
    let again := start.behind arrivingPorts
      ([.linkUp, .connect] ++ commandFragments (Bytes.ofText "1") ++
        commandFragments (Bytes.ofText "2") ++ [.linkDown, .disconnect, .linkUp, .connect])
    let later := again.behind arrivingPorts [.process 0]
    again.endpoint.gauges = ⟨2, 0, 0⟩ ∧ later.endpoint.gauges = ⟨1, 1, 0⟩ := by
  decide +kernel

end CommandLink
