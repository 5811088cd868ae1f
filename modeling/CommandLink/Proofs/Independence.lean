import CommandLink.Endpoint.Lifecycle
import CommandLink.Proofs.Interruption

/-!
# Fragments that arrive while others are at work

A fragment is taken at once, whatever else is under way. It changes one half of an endpoint
(`Endpoint.inward`), and sending, connecting, disconnecting and the checks of the negotiation
work with the other half. So it does not matter to the fragments when they come in between, and
unless one is a request to cancel it does not matter to whoever sends.
-/

namespace CommandLink

open Act

variable {W H α : Type}

/-! ## The two halves of an endpoint -/

namespace Counters

/-- The counters that fragments move. -/
def inward (c : Counters) : Counters where
  fragmentsReceived := c.fragmentsReceived
  bytesReceived := c.bytesReceived
  commandsQueued := c.commandsQueued
  framingErrors := c.framingErrors
  reportsDropped := c.reportsDropped
  staleClears := c.staleClears
  queueDepth := c.queueDepth
  queuePeak := c.queuePeak
  queueDrops := c.queueDrops

/-- The counters that fragments leave alone. -/
def outward (c : Counters) : Counters :=
  { c with
    fragmentsReceived := 0
    bytesReceived := 0
    commandsQueued := 0
    framingErrors := 0
    reportsDropped := 0
    staleClears := 0
    queueDepth := 0
    queuePeak := 0
    queueDrops := 0 }

end Counters

namespace Endpoint

/-- The half that fragments change, on an endpoint that is fresh otherwise. -/
def inward (endpoint : Endpoint H) : Endpoint H where
  settings := {}
  reassembly := endpoint.reassembly
  commands := endpoint.commands
  faults := endpoint.faults
  counters := endpoint.counters.inward

/-- The half that fragments leave alone. -/
def outward (endpoint : Endpoint H) : Endpoint H :=
  { endpoint with
    reassembly := { capacity := 0, idleTimeout := 0 }
    commands := .empty
    faults := .empty
    counters := endpoint.counters.outward }

/-! ### A fragment looks at one half -/

theorem inward_dispatch (command : Command) (endpoint : Endpoint H) :
    (endpoint.dispatch command).2.inward = (endpoint.inward.dispatch command).2.inward := by
  have same : endpoint.inward.commands = endpoint.commands := rfl
  unfold dispatch
  rw [same]
  cases endpoint.commands.offer? command with
  | none => rfl
  | some commands => rfl

theorem inward_report (fault : Fault) (endpoint : Endpoint H) :
    (endpoint.report fault).2.inward = (endpoint.inward.report fault).2.inward := by
  have same : endpoint.inward.faults = endpoint.faults := rfl
  unfold report
  rw [same]
  cases endpoint.faults.offer? fault with
  | none => rfl
  | some faults => rfl

theorem inward_settle (outcome : Reassembly.Outcome) (endpoint : Endpoint H) :
    (endpoint.settle outcome).inward = (endpoint.inward.settle outcome).inward := by
  cases outcome with
  | started => rfl
  | buffered => rfl
  | emptyCommand => rfl
  | dropped => rfl
  | cancelled => rfl
  | overflow error =>
    change (Endpoint.report _ _).2.inward = (Endpoint.report _ _).2.inward
    rw [inward_report, inward_report .overflow (endpoint.inward.count _)]
    rfl
  | allocFailed length => exact inward_report .noMemory endpoint
  | complete command => exact inward_dispatch command endpoint

theorem settle_inward_congr {a b : Endpoint H} (same : a.inward = b.inward)
    (outcome : Reassembly.Outcome) : (a.settle outcome).inward = (b.settle outcome).inward := by
  rw [inward_settle, same, ← inward_settle]

theorem inward_receive (refuses : Nat → Bool) (fragment : Bytes) (now : Nat)
    (endpoint : Endpoint H) :
    (endpoint.receive refuses fragment now).2.inward =
      (endpoint.inward.receive refuses fragment now).2.inward := by
  -- Either half pushes the fragment into the same reassembly.
  obtain ⟨pushed, there⟩ : ∃ pushed, pushed = endpoint.reassembly.push refuses fragment now :=
    ⟨_, rfl⟩
  simp only [receive]
  rw [show (countFragment fragment.length endpoint).reassembly.push refuses fragment now = pushed
      from there.symm,
    show (countFragment fragment.length endpoint.inward).reassembly.push refuses fragment now =
      pushed from there.symm]
  apply settle_inward_congr
  split
  next => rfl
  next => rfl

theorem outward_dispatch (command : Command) (endpoint : Endpoint H) :
    (endpoint.dispatch command).2.outward = endpoint.outward := by
  unfold dispatch
  split
  next => rfl
  next => rfl

theorem outward_report (fault : Fault) (endpoint : Endpoint H) :
    (endpoint.report fault).2.outward = endpoint.outward := by
  unfold report
  split
  next => rfl
  next => rfl

theorem outward_settle {outcome : Reassembly.Outcome} (other : outcome ≠ .cancelled)
    (endpoint : Endpoint H) : (endpoint.settle outcome).outward = endpoint.outward := by
  cases outcome with
  | started => rfl
  | buffered => rfl
  | emptyCommand => rfl
  | dropped => rfl
  | cancelled => exact absurd rfl other
  | overflow error => exact outward_report .overflow _
  | allocFailed length => exact outward_report .noMemory endpoint
  | complete command => exact outward_dispatch command endpoint

theorem outward_settle_cancelled {told endpoint : Endpoint H}
    (same : told.outward = endpoint.outward) :
    (told.settle .cancelled).outward = { endpoint with cancelRequested := true }.outward :=
  congrArg (fun e : Endpoint H => { e with cancelRequested := true }) same

theorem receive_eq_cancelled_iff (refuses : Nat → Bool) (fragment : Bytes) (now : Nat)
    (endpoint : Endpoint H) :
    (endpoint.receive refuses fragment now).1 = .cancelled ↔ fragment = cancelMarker := by
  -- Only the marker ends as cancelled, whatever becomes of other fragments.
  have accepted (state : Reassembly) :
      (state.accept refuses fragment).1 = .cancelled ↔ Marker.classify fragment = some .cancel := by
    unfold Reassembly.accept
    split
    next marked => simp [marked]
    next marked => simp [marked]
    next marked =>
      split
      next => simp [marked]
      next =>
        unfold Reassembly.finish
        dsimp only
        split
        next => simp [marked]
        next =>
          split
          next => simp [marked]
          next => simp [marked]
    next unmarked =>
      split
      next => simp [unmarked]
      next =>
        unfold Reassembly.append
        dsimp only
        split
        next => simp [unmarked]
        next => simp [unmarked]
  change (Reassembly.accept refuses fragment _).1 = .cancelled ↔ _
  rw [accepted, Marker.classify_eq_some_iff]
  rfl

/-- Of the other half a request to cancel raises the request, and no other fragment changes
anything there. -/
theorem outward_receive (refuses : Nat → Bool) (fragment : Bytes) (now : Nat)
    (endpoint : Endpoint H) :
    (endpoint.receive refuses fragment now).2.outward =
      if fragment = cancelMarker then { endpoint with cancelRequested := true }.outward
      else endpoint.outward := by
  have cancels := endpoint.receive_eq_cancelled_iff refuses fragment now
  simp only [receive] at cancels ⊢
  -- What is counted beside is in the first half.
  have told (stale : Bool) (taken : Endpoint H) (same : taken.outward = endpoint.outward) :
      (if stale = true then taken.count fun c => { c with staleClears := c.staleClears + 1 }
        else taken).outward = endpoint.outward := by
    split
    next => exact same
    next => exact same
  by_cases cancel : fragment = cancelMarker
  · rw [if_pos cancel, cancels.mpr cancel]
    exact outward_settle_cancelled (told _ _ rfl)
  · rw [if_neg cancel, outward_settle (mt cancels.mp cancel)]
    exact told _ _ rfl

end Endpoint

/-! ## Fragments -/

/-- A fragment that is no request to cancel calls nobody. -/
theorem exec_onFragment (ports : Ports W H) (refuses : Nat → Bool) {fragment : Bytes}
    (other : fragment ≠ cancelMarker) (s : Station W H) :
    exec (onFragment ports refuses fragment) s =
      (.ok (), { s with
        endpoint := (s.endpoint.receive refuses fragment (ports.now s.world)).2 }) := by
  have received : exec (step (·.receive refuses fragment (ports.now s.world))) s =
      (.ok (s.endpoint.receive refuses fragment (ports.now s.world)).1,
        { s with endpoint := (s.endpoint.receive refuses fragment (ports.now s.world)).2 }) := rfl
  have incomplete := mt (s.endpoint.receive_eq_cancelled_iff refuses fragment
    (ports.now s.world)).mp other
  rw [onFragment, exec_bind_of_ok (exec_world s), exec_bind_of_ok received]
  split
  next cancelled => exact absurd cancelled incomplete
  next => rfl

/-- A request to cancel is acknowledged, once. -/
theorem exec_onFragment_cancelMarker (ports : Ports W H) (refuses : Nat → Bool)
    (s : Station W H) :
    exec (onFragment ports refuses cancelMarker) s =
      let run := exec (ports.notify ackMarker) { s with
        endpoint := (s.endpoint.receive refuses cancelMarker (ports.now s.world)).2 }
      (run.1.map fun _ => (), run.2) := by
  have received : exec (step (·.receive refuses cancelMarker (ports.now s.world))) s =
      (.ok (s.endpoint.receive refuses cancelMarker (ports.now s.world)).1,
        { s with endpoint := (s.endpoint.receive refuses cancelMarker (ports.now s.world)).2 }) :=
    rfl
  have cancelled := (s.endpoint.receive_eq_cancelled_iff refuses cancelMarker
    (ports.now s.world)).mpr rfl
  rw [onFragment, exec_bind_of_ok (exec_world s), exec_bind_of_ok received, cancelled]
  change exec (discard (deliver ports ackMarker)) _ = _
  rw [exec_discard, deliver, exec_bind]
  rcases exec (ports.notify ackMarker) _ with ⟨crash | answer, after⟩
  · rfl
  · cases answer with
    | ok => rfl
    | error error => rfl

/-- A fragment with the moment at which it arrives. `refuses` says which copies find no memory
then. -/
structure TimedFragment where
  refuses : Nat → Bool
  fragment : Bytes
  time : Nat

namespace Endpoint

/-- The endpoint after these fragments, with nothing else under way. -/
def feed (arrived : List TimedFragment) (endpoint : Endpoint H) : Endpoint H :=
  arrived.foldl
    (fun endpoint fragment => (endpoint.receive fragment.refuses fragment.fragment fragment.time).2)
    endpoint

theorem inward_feed (arrived : List TimedFragment) (endpoint : Endpoint H) :
    (endpoint.feed arrived).inward = (endpoint.inward.feed arrived).inward := by
  -- Behind the first fragment the endpoint is another, with the same half.
  induction arrived generalizing endpoint with
  | nil => rfl
  | cons first rest ih =>
    change (feed rest (endpoint.receive _ _ _).2).inward =
      (feed rest (endpoint.inward.receive _ _ _).2).inward
    rw [ih, inward_receive, ← ih]

end Endpoint

/-! ## Traffic -/

/-- A fragment arrives, and its arrival is written down. -/
def noteFragment (ports : Ports (Recorded W TimedFragment) H) (refuses : Nat → Bool)
    (fragment : Bytes) : Act (Recorded W TimedFragment) H Unit := do
  let time := ports.now (← world)
  onFragment ports refuses fragment
  note [⟨refuses, fragment, time⟩]

/-- Nothing arrives, and nothing is done to the half that fragments change. -/
def Calm (s t : Station (Recorded W TimedFragment) H) : Prop :=
  t.world.diary = s.world.diary ∧ t.endpoint.inward = s.endpoint.inward

/-- What was done to the half that fragments change is what the fragments did that arrived. -/
def Fed (s t : Station (Recorded W TimedFragment) H) : Prop :=
  ∃ arrived, t.world.diary = s.world.diary ++ arrived ∧
    t.endpoint.inward = (s.endpoint.feed arrived).inward

theorem Calm.fed {s t : Station (Recorded W TimedFragment) H} (calm : Calm s t) : Fed s t :=
  ⟨[], by simp [calm.1], calm.2⟩

theorem fed_bookless : Bookless (Fed (W := W) (H := H)) where
  refl s := Calm.fed ⟨rfl, rfl⟩
  trans := by
    -- The second run starts from all of `t`, and is told of one half only.
    rintro s t u ⟨arrived, diary, fed⟩ ⟨more, further, onward⟩
    refine ⟨arrived ++ more, by rw [further, diary, List.append_assoc], ?_⟩
    rw [onward, Endpoint.inward_feed, fed, ← Endpoint.inward_feed]
    simp only [Endpoint.feed, List.foldl_append]
  books s endpoint same := by
    have inward := congrArg Endpoint.inward same
    exact Calm.fed ⟨rfl, inward⟩

theorem noteFragment_fed (ports : Ports (Recorded W TimedFragment) H) (refuses : Nat → Bool)
    {fragment : Bytes} (other : fragment ≠ cancelMarker) :
    Act.Within Fed (noteFragment ports refuses fragment) := by
  intro s
  have taken : Returns (onFragment ports refuses fragment) s fun _ t => t =
      { s with endpoint := (s.endpoint.receive refuses fragment (ports.now s.world)).2 } :=
    ⟨(), _, exec_onFragment ports refuses other s, rfl⟩
  apply returns_world
  apply taken.bind
  rintro _ _ rfl
  exact ⟨(), _, rfl, [⟨refuses, fragment, ports.now s.world⟩], rfl, rfl⟩

/-- Others at work, with fragments that arrive at any time meanwhile. Whatever a port does while
it is called is traffic again, so that they may come in the middle of each other. -/
inductive Traffic : ∀ {α : Type}, Act (Recorded W TimedFragment) H α → Prop where
  | elsewhere {α : Type} (act : Act (Recorded W TimedFragment) H α) (calm : Act.Within Calm act) :
    Traffic act
  | fragment (ports : Ports (Recorded W TimedFragment) H) (refuses : Nat → Bool) (fragment : Bytes)
    (other : fragment ≠ cancelMarker) : Traffic (noteFragment ports refuses fragment)
  | send (ports : Ports (Recorded W TimedFragment) H) (document : Document)
    (activity : Option Activity) (notify : ∀ bytes, Traffic (ports.notify bytes))
    (sleep : ∀ time, Traffic (ports.sleep time)) (freeBytes : Traffic ports.freeBytes)
    (allocate : ∀ pool size, Traffic (ports.allocate pool size)) :
    Traffic (send ports document activity)
  | connect (ports : Ports (Recorded W TimedFragment) H)
    (requestMtu : ∀ mtu, Traffic (ports.requestMtu mtu))
    (sleep : ∀ time, Traffic (ports.sleep time))
    (randomBelow : ∀ bound, Traffic (ports.randomBelow bound)) : Traffic (onConnect ports)
  | disconnect (ports : Ports (Recorded W TimedFragment) H)
    (restartAdvertising : Traffic ports.restartAdvertising) : Traffic (onDisconnect ports)
  | tick (ports : Ports (Recorded W TimedFragment) H)
    (requestMtu : ∀ mtu, Traffic (ports.requestMtu mtu))
    (sleep : ∀ time, Traffic (ports.sleep time))
    (randomBelow : ∀ bound, Traffic (ports.randomBelow bound)) : Traffic (monitorTick ports)
  | bind {α β : Type} {act : Act (Recorded W TimedFragment) H α}
    {next : α → Act (Recorded W TimedFragment) H β} (first : Traffic act)
    (second : ∀ a, Traffic (next a)) : Traffic (act >>= next)

/-! ### What goes on with the link -/

theorem Endpoint.inward_poll (now : Nat) (mtu : UInt16) (endpoint : Endpoint H) :
    (endpoint.poll now mtu).2.inward = endpoint.inward := by
  unfold poll
  dsimp only
  split
  next => rfl
  next => rfl
  next => rfl
  next =>
    split
    next => rfl
    next => rfl

theorem Endpoint.inward_judge (token : Negotiation.Expired) (endpoint : Endpoint H) :
    (endpoint.judge token).2.inward = endpoint.inward := by
  unfold judge
  dsimp only
  split
  next => rfl
  next => rfl

theorem Endpoint.inward_resume (token : Negotiation.Expired) (now : Nat) (endpoint : Endpoint H) :
    (endpoint.resume token now).2.inward = endpoint.inward := by
  unfold resume
  split
  next => rfl
  next => rfl

theorem fed_step {change : Endpoint H → α × Endpoint H}
    (calm : ∀ endpoint, (change endpoint).2.inward = endpoint.inward) :
    Act.Within (Fed (W := W)) (step change) :=
  fun s => ⟨_, _, rfl, Calm.fed ⟨rfl, calm s.endpoint⟩⟩

section Negotiating

variable {ports : Ports (Recorded W TimedFragment) H}
  (requestMtu : ∀ mtu, Act.Within Fed (ports.requestMtu mtu))
  (sleep : ∀ time, Act.Within Fed (ports.sleep time))
  (randomBelow : ∀ bound, Act.Within Fed (ports.randomBelow bound))

include requestMtu in
theorem requestUnit_fed (epoch : UInt32) : Act.Within Fed (requestUnit ports epoch) := by
  apply fed_bookless.bind fed_bookless.endpoint
  intro endpoint
  apply fed_bookless.bind (requestMtu _)
  intro answer
  cases answer with
  | ok => exact within_modifyEndpoint fun _ => Calm.fed ⟨rfl, rfl⟩
  | error error => exact fed_bookless.pure ()

include requestMtu in
theorem restartNegotiation_fed : Act.Within Fed (restartNegotiation ports) := by
  apply fed_bookless.bind fed_bookless.world
  intro world
  apply fed_bookless.bind (fed_step fun _ => rfl)
  exact requestUnit_fed requestMtu

include sleep randomBelow in
theorem backOff_fed (attempt : Nat) : Act.Within Fed (backOff ports attempt) := by
  apply fed_bookless.bind fed_bookless.endpoint
  intro endpoint
  apply fed_bookless.bind (randomBelow _)
  intro jitter
  apply fed_bookless.bind (sleep _)
  intro
  exact fed_bookless.pure _

include requestMtu sleep randomBelow

theorem resolve_fed (token : Negotiation.Expired) : Act.Within Fed (resolve ports token) := by
  apply fed_bookless.bind (fed_step (Endpoint.inward_judge token))
  intro decision
  cases decision with
  | stale => exact fed_bookless.pure _
  | failed => exact fed_bookless.bind fed_bookless.endpoint fun _ => fed_bookless.pure _
  | retry attempt =>
    apply fed_bookless.bind (backOff_fed sleep randomBelow attempt)
    intro delay
    apply fed_bookless.bind fed_bookless.world
    intro world
    apply fed_bookless.bind (fed_step (Endpoint.inward_resume token _))
    intro resumed
    cases resumed with
    | true => exact fed_bookless.bind (requestUnit_fed requestMtu _) fun _ => fed_bookless.pure _
    | false => exact fed_bookless.pure _

theorem monitorTick_fed : Act.Within Fed (monitorTick ports) := by
  apply fed_bookless.bind fed_bookless.world
  intro world
  apply fed_bookless.bind (fed_step (Endpoint.inward_poll _ _))
  intro verdict
  cases verdict with
  | expired token =>
    apply fed_bookless.bind (resolve_fed requestMtu sleep randomBelow token)
    intro
    exact fed_bookless.pure _
  | settled => exact fed_bookless.pure _
  | pending => exact fed_bookless.pure _
  | completed => exact fed_bookless.pure _

theorem onConnect_fed : Act.Within Fed (onConnect ports) := by
  apply fed_bookless.bind (restartNegotiation_fed requestMtu)
  intro
  apply fed_bookless.bind fed_bookless.endpoint
  intro endpoint
  apply fed_bookless.bind (sleep _)
  intro
  exact (monitorTick_fed requestMtu sleep randomBelow).discard

end Negotiating

theorem onDisconnect_fed {ports : Ports (Recorded W TimedFragment) H}
    (restartAdvertising : Act.Within Fed ports.restartAdvertising) :
    Act.Within Fed (onDisconnect ports) := by
  apply fed_bookless.bind (within_modifyEndpoint fun _ => Calm.fed ⟨rfl, rfl⟩)
  intro
  exact restartAdvertising

/-- Traffic comes back, and the fragments have done what they do alone. -/
theorem Traffic.fed {act : Act (Recorded W TimedFragment) H α} (traffic : Traffic act) :
    Act.Within Fed act := by
  induction traffic with
  | elsewhere act calm => exact fun s => (calm s).mono fun _ _ => Calm.fed
  | fragment ports refuses fragment other => exact noteFragment_fed ports refuses other
  | send ports document activity _ _ _ _ notify sleep freeBytes allocate =>
    exact fed_bookless.send ⟨notify, sleep, freeBytes, allocate⟩ document activity
  | connect ports _ _ _ requestMtu sleep randomBelow =>
    exact onConnect_fed requestMtu sleep randomBelow
  | disconnect ports _ restartAdvertising => exact onDisconnect_fed restartAdvertising
  | tick ports _ _ _ requestMtu sleep randomBelow =>
    exact monitorTick_fed requestMtu sleep randomBelow
  | bind _ _ first second => exact fed_bookless.bind first second

/-! ## Whoever sends meanwhile -/

/-- What sending sees of an endpoint: the half that fragments leave alone, and no counters. -/
def Endpoint.seenBySender (endpoint : Endpoint H) : Endpoint H :=
  { endpoint.outward with counters := {} }

/-- Two stations that sending cannot tell from each other. -/
def Station.SameToSender (s t : Station W H) : Prop :=
  s.world = t.world ∧ s.endpoint.seenBySender = t.endpoint.seenBySender

/-- Fragments that arrive one after the other, and no request to cancel among them. -/
inductive Fragments : Act W H Unit → Prop where
  | done : Fragments (pure ())
  | look (next : Station W H → Act W H Unit) (further : ∀ s, Fragments (next s)) :
    Fragments (get >>= next)
  | fragment (ports : Ports W H) (refuses : Nat → Bool) (fragment : Bytes)
    (other : fragment ≠ cancelMarker) {next : Act W H Unit} (further : Fragments next) :
    Fragments (onFragment ports refuses fragment >>= fun _ => next)

namespace Station.SameToSender

theorem lift_alike {act : Act W H α} (alike : Alike SameToSender Eq act act) :
    Alike SameToSender Eq (lift act : Act (Recorded W Entry) H α) (lift act) := by
  apply Act.lift_alike _ _ alike
  · rintro a b ⟨world, endpoint⟩
    exact ⟨congrArg Recorded.world world, endpoint⟩
  · rintro a b s t ⟨world, -⟩ ⟨still, kept⟩
    have diary := congrArg Recorded.diary world
    exact ⟨congrArg₂ Recorded.mk still diary, kept⟩

theorem fragments_alike {act : Act W H Unit} (fragments : Fragments act) :
    Alike SameToSender Eq act (pure ()) := by
  induction fragments with
  | done => exact alike_pure rfl
  | look next _ ih => exact fun a b there => ih a a b there
  | fragment ports refuses fragment other _ ih =>
    -- Counters aside, a fragment leaves to the sender what the sender sees.
    intro a b there
    rw [Abreast, exec_bind_of_ok (exec_onFragment ports refuses other a)]
    apply ih
    have apart := a.endpoint.outward_receive refuses fragment (ports.now a.world)
    rw [if_neg other] at apart
    have unseen := congrArg (fun e : Endpoint H => { e with counters := {} }) apart
    exact ⟨there.1, unseen.trans there.2⟩

theorem enters : Enters (SameToSender (W := Recorded W Entry) (H := H)) := by
  intro a b there
  have requested := congrArg Endpoint.cancelRequested there.2
  refine ⟨requested, ?_⟩
  intro exchange before after
  have world := congrArg
    (fun w : Recorded W Entry => { w with diary := w.diary ++ [Entry.call exchange before after] })
    there.1
  exact ⟨world, there.2⟩

theorem likeness {p q : Ports W H} (mtu : ∀ world, p.mtu world = q.mtu world) :
    Likeness p q SameToSender SameToSender where
  settings a b there := by
    have settings := congrArg Endpoint.settings there.2
    exact settings
  chunk a b there := by
    have state : a.endpoint.state = b.endpoint.state := congrArg (·.negotiation.state) there.2
    change a.endpoint.state.chunkSize _ = b.endpoint.state.chunkSize _
    rw [mtu, there.1, state]
  count _ _ _ there := there
  cancel a b there := by
    have requested := congrArg Endpoint.cancelRequested there.2
    exact ⟨requested, there.1,
      congrArg (fun e : Endpoint H => { e with cancelRequested := false }) there.2⟩
  owed a b there := by
    have owed := congrArg Endpoint.busyOwed there.2
    exact ⟨owed, there.1, congrArg (fun e : Endpoint H => { e with busyOwed := false }) there.2⟩
  sending a b there := by
    have sending := congrArg Endpoint.sending there.2
    exact sending
  flight change a b there :=
    ⟨there.1, congrArg (fun e : Endpoint H => { e with inFlight := change e.inFlight }) there.2⟩
  owe _ a b there :=
    ⟨there.1, congrArg (fun e : Endpoint H => { e with busyOwed := true }) there.2⟩
  lock a b there := ⟨there.1, congrArg
    (fun e : Endpoint H => { e with sending := true, cancelRequested := false }) there.2⟩
  unlock a b there :=
    ⟨there.1, congrArg (fun e : Endpoint H => { e with sending := false }) there.2⟩

end Station.SameToSender

open Station

/-- Fragments in the pauses of a send are no matter to it: it makes the same calls, and ends in
the same way. -/
theorem send_alike_of_fragments {ports : Ports W H} {visited : Ports (Recorded W Entry) H}
    (same : ports.Visited (fun _ act => Alike SameToSender Eq act act) (fun _ => False) Fragments
      visited) (document : Document) (activity : Option Activity)
    (s : Station (Recorded W Entry) H) :
    (exec (send visited document activity) s).1 =
        (exec (send ports.journaled document activity) s).1 ∧
      (exec (send visited document activity) s).2.world =
        (exec (send ports.journaled document activity) s).2.world := by
  have alike := same.sendAlike SameToSender.enters (fun _ _ => SameToSender.lift_alike)
    (fun _ => False.elim) fun _ => SameToSender.fragments_alike
  have like : Likeness visited ports.journaled SameToSender SameToSender :=
    SameToSender.likeness same.mtu
  rcases like.send_alike alike document activity s s ⟨rfl, rfl⟩ with
    ⟨x, _, t, u, left, right, rfl, there⟩ | ⟨crash, t, u, left, right, there⟩
  · rw [left, right]
    exact ⟨rfl, there.1⟩
  · rw [left, right]
    exact ⟨rfl, there.1⟩

/-- Fragments and whoever else is at work leave each other alone. Whatever goes on, fragments have
done what they do alone when they come at the same moments. Unless one is a request to cancel,
whoever sends meanwhile makes the same calls and ends in the same way. A request to cancel is
acknowledged with one notification, and raises the request; that is all it does outside the half
that fragments change. -/
theorem fragments_and_sending_apart :
    (∀ {α : Type} (act : Act (Recorded W TimedFragment) H α), Traffic act → ∀ s,
      Returns act s fun _ t => ∃ arrived, t.world.diary = s.world.diary ++ arrived ∧
        t.endpoint.inward = (s.endpoint.feed arrived).inward) ∧
    (∀ (ports : Ports W H) (visited : Ports (Recorded W Entry) H),
      ports.Visited (fun _ act => Alike SameToSender Eq act act) (fun _ => False) Fragments
        visited → ∀ document activity s,
      (exec (send visited document activity) s).1 =
          (exec (send ports.journaled document activity) s).1 ∧
        (exec (send visited document activity) s).2.world =
          (exec (send ports.journaled document activity) s).2.world) ∧
    ∀ (ports : Ports W H) (refuses : Nat → Bool) (s : Station W H),
      let taken : Station W H := { s with
        endpoint := (s.endpoint.receive refuses cancelMarker (ports.now s.world)).2 }
      exec (onFragment ports refuses cancelMarker) s =
          ((exec (ports.notify ackMarker) taken).1.map fun _ => (),
            (exec (ports.notify ackMarker) taken).2) ∧
        taken.endpoint.outward = { s.endpoint with cancelRequested := true }.outward := by
  refine ⟨fun act traffic => traffic.fed, ?_, ?_⟩
  · intro ports visited same
    exact send_alike_of_fragments same
  intro ports refuses s
  refine ⟨exec_onFragment_cancelMarker ports refuses s, ?_⟩
  have cancelled := s.endpoint.outward_receive refuses cancelMarker (ports.now s.world)
  rwa [if_pos rfl] at cancelled

/-- Ports in whose pauses a fragment arrives. -/
def tricklingPorts : Ports (Recorded Nat TimedFragment) Empty :=
  { openPorts.lifted with
    sleep := fun time => do
      lift (openPorts.sleep time)
      noteFragment openPorts.lifted (fun _ => false) startMarker }

/-- The same, with the calls of whoever sends written into a journal. -/
def tricklingJournal : Ports (Recorded Nat Entry) Empty :=
  { openPorts.journaled with
    sleep := fun time => entered (fun _ => .slept time) do
      lift (openPorts.sleep time)
      onFragment openPorts.journaled (fun _ => false) startMarker }

theorem calm_lift {act : Act W H α}
    (kept : ∀ s, Returns act s fun _ t => t.endpoint.inward = s.endpoint.inward) :
    Act.Within Calm (lift act) :=
  fun _ => (returns_lift (kept _)).mono fun _ _ known => ⟨known.2, known.1⟩

theorem tricklingPorts_traffic (document : Document) (activity : Option Activity) :
    Traffic (send tricklingPorts document activity) := by
  apply Traffic.send
  · intro bytes
    exact .elsewhere _ (calm_lift fun _ => returns_pure rfl)
  · intro time
    apply Traffic.bind
    · exact .elsewhere _ (calm_lift fun _ => ⟨(), _, rfl, rfl⟩)
    · intro
      exact .fragment _ _ startMarker (by decide)
  · exact .elsewhere _ (calm_lift fun _ => returns_pure rfl)
  · intro pool size
    exact .elsewhere _ (calm_lift fun _ => returns_pure rfl)

theorem tricklingJournal_visited :
    openPorts.Visited (fun _ act => Alike SameToSender Eq act act) (fun _ => False) Fragments
      tricklingJournal where
  mtu _ := rfl
  notify _ := ⟨_, .part (alike_pure rfl), rfl⟩
  sleep time := by
    have slept : Alike SameToSender Eq (openPorts.sleep time) (openPorts.sleep time) :=
      fun _ _ there => .inl ⟨(), (), _, _, rfl, rfl, rfl, congrArg (· + time) there.1, there.2⟩
    have fragments : Fragments (onFragment openPorts.journaled (fun _ => false) startMarker >>=
        fun _ => pure ()) := .fragment _ _ startMarker (by decide) .done
    rw [bind_pure] at fragments
    have parts : openPorts.sleep time = openPorts.sleep time >>= fun _ => pure () := by simp
    refine ⟨_, ?_, rfl⟩
    rw [parts]
    exact .bind (.part slept) fun _ => .visit fragments
  freeBytes := ⟨alike_pure rfl, rfl⟩
  allocate _ _ := ⟨alike_pure rfl, rfl⟩

/-- A document of three chunks, with a fragment in each pause. -/
theorem fragments_and_sending_apart_in_pauses :
    let s : Station (Recorded Nat TimedFragment) Empty := ⟨.fresh {}, { world := 0 }⟩
    let r : Station (Recorded Nat Entry) Empty := ⟨.fresh {}, { world := 0 }⟩
    let document := Document.steady (List.replicate 50 97)
    Traffic (send tricklingPorts document none) ∧
      Returns (send tricklingPorts document none) s (fun result t => result = .ok () ∧
        t.world.diary.map (·.time) = [10, 20, 30] ∧ ∃ arrived, t.world.diary = arrived ∧
          t.endpoint.inward = (s.endpoint.feed arrived).inward) ∧
      (exec (send tricklingJournal document none) r).1 =
        (exec (send openPorts.journaled document none) r).1 ∧
      (exec (onFragment openPorts (fun _ => false) cancelMarker)
        (⟨.fresh {}, 0⟩ : Station Nat Empty)).2.endpoint.cancelRequested = true := by
  intro s r document
  have traffic := tricklingPorts_traffic document none
  have ended : (exec (send tricklingPorts document none) s).1 = .ok (.ok ()) := by
    decide +kernel
  have times : (exec (send tricklingPorts document none) s).2.world.diary.map (·.time) =
      [10, 20, 30] := by
    decide +kernel
  obtain ⟨fed, same, cancelled⟩ := fragments_and_sending_apart (W := Nat) (H := Empty)
  obtain ⟨result, t, run, arrived, diary, inward⟩ := fed _ traffic s
  rw [run] at ended times
  refine ⟨traffic, ⟨result, t, run, Except.ok.inj ended, times, arrived, diary, inward⟩,
    (same _ _ tricklingJournal_visited document none r).1, ?_⟩
  rw [(cancelled openPorts (fun _ => false) ⟨.fresh {}, 0⟩).1]
  exact congrArg (·.cancelRequested) (cancelled openPorts (fun _ => false) ⟨.fresh {}, 0⟩).2

end CommandLink
