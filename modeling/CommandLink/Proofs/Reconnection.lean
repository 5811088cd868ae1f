import CommandLink.Bench.Inbound
import CommandLink.Proofs.Speech
import CommandLink.Proofs.Twins

/-!
# What a new peer meets

A disconnect and a connect reset what belongs to a connection. What they do not reset is
either out of sight (`Endpoint.Twins`), or it is left to the next peer: the commands that are
still queued, and word that a "busy" answer is owed. So two devices whose former peers did
quite different things show a new peer the same, as long as they agree on these two.
-/

namespace CommandLink

open Act Negotiation

variable {W H α : Type}

/-! ## Worlds in which the same was told -/

/-- Recorded worlds that agree, also on what was told. -/
def SameTold (v w : Recorded W Call) : Prop :=
  v.world = w.world ∧ v.diary.filterMap Call.told? = w.diary.filterMap Call.told?

section Logged

variable {close : Prop} {shift : UInt32}

theorem lift_twins {Q : α → α → Prop} {f g : Act W H α}
    (alike : Alike (Station.Twins close shift Eq) Q f g) :
    Alike (Station.Twins close shift SameTold) Q (lift f) (lift g) := by
  apply lift_alike _ _ alike
  · rintro a b ⟨twins, world, -⟩
    exact ⟨twins, world⟩
  · rintro a b s t ⟨-, -, told⟩ ⟨still, same⟩
    exact ⟨still, same, told⟩

theorem note_alike {entries others : List Call}
    (same : entries.filterMap Call.told? = others.filterMap Call.told?) :
    Alike (Station.Twins close shift SameTold) Eq
      (note entries : Act (Recorded W Call) H Unit) (note others) := by
  rintro a b ⟨twins, world, told⟩
  refine .inl ⟨(), (), _, _, rfl, rfl, rfl, twins, world, ?_⟩
  simp only [List.filterMap_append, told, same]

/-- Of what is logged, only a request to cancel that waits may differ. -/
theorem logged_blind {ports : Ports W H} (blind : ports.Blind Eq) :
    ports.logged.Blind SameTold where
  now v w same := blind.now _ _ same.1
  mtu v w same := blind.mtu _ _ same.1
  minFreeBytes v w same := blind.minFreeBytes _ _ same.1
  notify close shift bytes := by
    apply (lift_twins (blind.notify close shift bytes)).bind_same
    intro answer
    apply alike_endpoint
    intro a b _
    -- The entries may differ in whether a request to cancel waits, but not in what is told.
    have noted : Alike (Station.Twins close shift SameTold) Eq
        (note [.notified bytes answer a.endpoint.disturbed] : Act (Recorded W Call) H Unit)
        (note [.notified bytes answer b.endpoint.disturbed]) := note_alike rfl
    apply noted.bind_same
    intro
    exact alike_pure rfl
  requestMtu close shift mtu := lift_twins (blind.requestMtu close shift mtu)
  sleep close shift time := by
    apply (lift_twins (blind.sleep close shift time)).bind_same
    intro
    apply alike_endpoint
    intro a b _
    exact note_alike rfl
  randomBelow close shift bound := lift_twins (blind.randomBelow close shift bound)
  freeBytes close shift := by
    apply (lift_twins (blind.freeBytes close shift)).bind_same
    intro free
    apply (note_alike rfl).bind_same
    intro
    exact alike_pure rfl
  allocate close shift pool size := by
    apply (lift_twins (blind.allocate close shift pool size)).bind_same
    intro granted
    apply (note_alike rfl).bind_same
    intro
    exact alike_pure rfl
  handle close shift handler parsed := lift_twins (blind.handle close shift handler parsed)

end Logged

/-- What only the world decides on and only the world is changed by. -/
theorem alike_of_apart {close : Prop} {shift : UInt32} {act : Act W H α} (answer : W → α)
    (change : W → W)
    (apart : ∀ s, exec act s = (.ok (answer s.world), { s with world := change s.world })) :
    Alike (Station.Twins close shift Eq) Eq act act := fun a b twins =>
  .inl ⟨_, _, _, _, apart a, apart b, congrArg answer twins.2, twins.1, congrArg change twins.2⟩

/-! ## What is done on a connection -/

/-- One thing that is done. Between two of them the world may change in whatever way. -/
inductive Deed (W : Type) where
  | linkDown
  | disconnect
  | linkUp
  | connect
  | fragment (refuses : Nat → Bool) (bytes : Bytes)
  | process (wait : Nat)
  | tick
  | send (document : Document) (activity : Option Activity)
  | elsewhere (change : W → W)

namespace Deed

inductive Result where
  | done
  | processed (disposition : Option Disposition)
  | ticked (resolution : Option Resolution)
  | sent (result : Except SendError Unit)
  deriving DecidableEq

def perform (ports : Ports W H) : Deed W → Act (Recorded W Call) H Result
  | .linkDown => do
    modifyEndpoint (·.linkDown)
    return .done
  | .disconnect => do
    onDisconnect ports.logged
    return .done
  | .linkUp => do
    modifyEndpoint (·.linkUp)
    return .done
  | .connect => do
    onConnect ports.logged
    return .done
  | .fragment refuses bytes => do
    onFragment ports.logged refuses bytes
    return .done
  | .process wait => do return .processed (← processNext ports.logged wait)
  | .tick => do return .ticked (← monitorTick ports.logged)
  | .send document activity => do return .sent (← CommandLink.send ports.logged document activity)
  | .elsewhere change => do
    modifyWorld fun recorded => { recorded with world := change recorded.world }
    return .done

/-- Do one thing after the other. A crash ends what it happens in, and no more. -/
def performAll (ports : Ports W H) :
    List (Deed W) → Station (Recorded W Call) H →
      List (Except Crash Result) × Station (Recorded W Call) H
  | [], s => ([], s)
  | deed :: rest, s =>
    let (result, t) := exec (deed.perform ports) s
    let (results, u) := performAll ports rest t
    (result :: results, u)

/-- A peer goes and another one comes. -/
def reconnection (change : W → W) : List (Deed W) :=
  [.linkDown, .disconnect, .elsewhere change, .linkUp, .connect]

end Deed

/-! ## Twins on the new connection -/

namespace Endpoint.Twins

variable {close : Prop} {shift : UInt32} {a b : Endpoint H}

theorem linkDown (twins : Twins close shift a b) : Twins close shift a.linkDown b.linkDown := by
  obtain ⟨buffer, waiting, list, mine, theirs, agreed⟩ := twins
  exact ⟨buffer.discard.2, waiting, _, (mine.ask .discard).2, (theirs.ask .discard).2, agreed⟩

theorem linkUp (twins : Twins close shift a b) : Twins close shift a.linkUp b.linkUp := by
  obtain ⟨buffer, waiting, list, mine, theirs, agreed⟩ := twins
  exact ⟨buffer.discard.2, waiting, _, (mine.ask .discard).2, (theirs.ask .discard).2, agreed⟩

end Endpoint.Twins

section Deeds

variable {ports : Ports W H} (blind : ports.Blind Eq) (advertise : W → W)
  (advertises : ∀ s, exec ports.restartAdvertising s =
    (.ok (), { s with world := advertise s.world })) {close : Prop} {shift : UInt32}

include blind advertises

theorem Deed.perform_alike (deed : Deed W) :
    Alike (Station.Twins close shift SameTold) Eq (deed.perform ports) (deed.perform ports) := by
  have logged := logged_blind blind
  cases deed with
  | linkDown =>
    apply (twins_modify fun _ _ twins => twins.linkDown).bind_same
    intro
    exact alike_pure rfl
  | disconnect =>
    have advertising : Alike (Station.Twins close shift Eq) Eq ports.restartAdvertising
        ports.restartAdvertising := alike_of_apart (fun _ => ()) advertise advertises
    have silenced : Alike (Station.Twins close shift SameTold) Eq
        (modifyEndpoint (fun endpoint => { endpoint with streaming := false }.stop) :
          Act (Recorded W Call) H Unit)
        (modifyEndpoint fun endpoint => { endpoint with streaming := false }.stop) :=
      twins_modify fun _ _ twins => (twins.change (fun e => { e with streaming := false })
        (fun _ _ => rfl) rfl rfl).stop
    apply (silenced.bind_same fun _ => lift_twins advertising).bind_same
    intro
    exact alike_pure rfl
  | linkUp =>
    apply (twins_modify fun _ _ twins => twins.linkUp).bind_same
    intro
    exact alike_pure rfl
  | connect =>
    apply logged.onConnect_alike.bind_same
    intro
    exact alike_pure rfl
  | fragment refuses bytes =>
    apply (logged.onFragment_alike refuses bytes).bind_same
    intro
    exact alike_pure rfl
  | process wait =>
    apply (logged.processNext_alike wait).bind_same
    intro
    exact alike_pure rfl
  | tick =>
    apply logged.monitorTick_alike.bind_same
    intro
    exact alike_pure rfl
  | send document activity =>
    apply (logged.send_alike document activity).bind_same
    intro
    exact alike_pure rfl
  | elsewhere change =>
    rintro a b ⟨twins, world, told⟩
    exact .inl ⟨_, _, _, _, rfl, rfl, rfl, twins, congrArg change world, told⟩

/-- Twins are not told from each other by whatever is done with them. -/
theorem Deed.performAll_twins (deeds : List (Deed W)) {a b : Station (Recorded W Call) H}
    (twins : Station.Twins close shift SameTold a b) :
    (Deed.performAll ports deeds a).1 = (Deed.performAll ports deeds b).1 ∧
      Station.Twins close shift SameTold (Deed.performAll ports deeds a).2
        (Deed.performAll ports deeds b).2 := by
  induction deeds generalizing a b with
  | nil => exact ⟨rfl, twins⟩
  | cons deed rest ih =>
    -- Also a deed that crashes leaves twins.
    rcases deed.perform_alike blind advertise advertises a b twins with
      ⟨x, y, s, t, left, right, rfl, still⟩ | ⟨crash, s, t, left, right, still⟩
    · obtain ⟨results, end_⟩ := ih still
      simp only [Deed.performAll, left, right]
      exact ⟨congrArg _ results, end_⟩
    · obtain ⟨results, end_⟩ := ih still
      simp only [Deed.performAll, left, right]
      exact ⟨congrArg _ results, end_⟩

end Deeds

/-! ## Strangers -/

namespace Endpoint

variable {H : Type}

/-- Endpoints of two devices with one application. No transmission and no command is under
way, and they agree on the commands that still wait and on whether a "busy" answer is owed.
All else is their own. -/
structure Strangers (a b : Endpoint H) : Prop where
  settings : b.settings = a.settings
  responder : b.responder = a.responder
  stopping : b.stopping = a.stopping
  commands : b.commands = a.commands
  busyOwed : b.busyOwed = a.busyOwed
  mine : a.sending = false ∧ a.inFlight = 0 ∧ a.priority = false
  theirs : b.sending = false ∧ b.inFlight = 0 ∧ b.priority = false
  wired : a.inbound.Wired ∧ b.inbound.Wired

/-- The endpoint behind the resets of a disconnect and a connect. -/
def reconnected (endpoint : Endpoint H) : Endpoint H :=
  { endpoint.linkDown with streaming := false }.stop.linkUp

/-- Behind a reset the list of fragments is empty, whatever stands in the buffer. -/
theorem reconnected_mirrored {endpoint : Endpoint H} (wired : endpoint.inbound.Wired) :
    FragmentList.Mirrors
      { capacity := endpoint.settings.reassemblyCapacity.toNat
        idleTimeout := endpoint.settings.reassemblyIdle.toNat }
      endpoint.reconnected.reassembly where
  sound := wired.sound.discard.discard
  capacity := wired.capacity.symm
  idleTimeout := wired.idleTimeout.symm
  rejecting := rfl
  lastFragment := rfl
  held := (Reassembly.held_of_cursor_eq_zero rfl).symm
  nonempty := by simp

/-- The resets make twins of strangers. -/
theorem Strangers.reconnected {a b : Endpoint H} (strangers : Strangers a b) :
    a.reconnected.Twins False (b.negotiation.epoch - a.negotiation.epoch) b.reconnected := by
  obtain ⟨settings, responder, stopping, commands, busyOwed, ⟨sending, inFlight, priority⟩,
    ⟨sending', inFlight', priority'⟩, mine, theirs⟩ := strangers
  -- Behind the resets all that was their own is reset, or is what a twin may have of its own.
  have rest : b.reconnected = a.reconnected.veiled (b.negotiation.epoch - a.negotiation.epoch)
      b.reconnected.reassembly b.reconnected.cancelRequested := by
    have epochs : b.negotiation.epoch + 1 =
        a.negotiation.epoch + 1 + (b.negotiation.epoch - a.negotiation.epoch) := by
      rw [← Control.add_one_further, UInt32.add_comm a.negotiation.epoch, UInt32.sub_add_cancel]
    simp only [Endpoint.reconnected, linkUp, linkDown, stop, veiled, Control.further, Control.stop,
      settings, responder, stopping, commands, busyOwed, sending, inFlight, priority, sending',
      inFlight', priority', epochs]
  have mirrored := reconnected_mirrored theirs
  rw [settings] at mirrored
  rw [rest]
  exact ⟨_, _, _, reconnected_mirrored mine, mirrored, False.elim⟩

end Endpoint

section

variable {ports : Ports W H} (advertise : W → W)
  (advertises : ∀ s, exec ports.restartAdvertising s =
    (.ok (), { s with world := advertise s.world }))

include advertises

theorem Deed.exec_disconnect (s : Station (Recorded W Call) H) :
    exec (Deed.disconnect.perform ports) s =
      (.ok .done, ⟨{ s.endpoint with streaming := false }.stop,
        { s.world with world := advertise s.world.world }⟩) := by
  have advertised := exec_lift ports.restartAdvertising
    ⟨{ s.endpoint with streaming := false }.stop, s.world⟩
  rw [advertises] at advertised
  have disconnected : exec (onDisconnect ports.logged) s = (.ok (), _) := advertised
  exact exec_bind_of_ok disconnected _

/-- Up to the later half of the connect, a reconnection is the resets and nothing else. -/
theorem Deed.performAll_resets (change : W → W) (deeds : List (Deed W))
    (s : Station (Recorded W Call) H) :
    performAll ports (reconnection change ++ deeds) s =
      let t : Station (Recorded W Call) H :=
        ⟨s.endpoint.reconnected, { s.world with world := change (advertise s.world.world) }⟩
      (.ok .done :: .ok .done :: .ok .done :: .ok .done ::
          (performAll ports (.connect :: deeds) t).1,
        (performAll ports (.connect :: deeds) t).2) := by
  -- The later half of the disconnect is the only one of the four that calls a port.
  have down : exec (Deed.linkDown.perform ports) s =
      (.ok .done, { s with endpoint := s.endpoint.linkDown }) := rfl
  have disconnected : exec (Deed.disconnect.perform ports)
      { s with endpoint := s.endpoint.linkDown } = _ := Deed.exec_disconnect advertise advertises _
  rw [reconnection, List.cons_append, performAll, down]
  simp only [List.cons_append, List.nil_append]
  rw [performAll, disconnected]
  rfl

/-- Two devices with one application, whose former peers and histories were whatever they
were, show the next peer the same: all that is done on the new connection comes to the same
results and the same notifications. They only have to agree on what a reconnection leaves to
the next peer, the commands still queued and a "busy" answer still owed. -/
theorem new_peer_told_same (blind : ports.Blind Eq) {a b : Endpoint H}
    (strangers : a.Strangers b) (world : W) (change : W → W) (deeds : List (Deed W)) :
    let first := Deed.performAll ports (Deed.reconnection change ++ deeds) ⟨a, { world }⟩
    let second := Deed.performAll ports (Deed.reconnection change ++ deeds) ⟨b, { world }⟩
    first.1 = second.1 ∧
      first.2.world.diary.filterMap Call.told? = second.2.world.diary.filterMap Call.told? ∧
      first.2.world.world = second.2.world.world := by
  intro first second
  have twins : Station.Twins False (b.negotiation.epoch - a.negotiation.epoch) SameTold
      ⟨a.reconnected, { world := change (advertise world) }⟩
      ⟨b.reconnected, { world := change (advertise world) }⟩ := ⟨strangers.reconnected, rfl, rfl⟩
  obtain ⟨results, -, worlds, told⟩ :=
    Deed.performAll_twins blind advertise advertises (.connect :: deeds) twins
  have mine : first = _ := Deed.performAll_resets advertise advertises change deeds ⟨a, { world }⟩
  have theirs : second = _ := Deed.performAll_resets advertise advertises change deeds ⟨b, { world }⟩
  rw [mine, theirs]
  refine ⟨?_, told, worlds⟩
  simp only [results]

end

/-- Ports of a link that takes everything. -/
def acceptingPorts : Ports Nat Empty :=
  { Bench.clockPorts with
    notify := fun _ => return .ok ()
    freeBytes := return 262144
    allocate := fun _ _ => return true }

theorem acceptingPorts_blind : acceptingPorts.Blind Eq where
  now _ _ same := congrArg _ same
  mtu _ _ _ := rfl
  minFreeBytes _ _ _ := rfl
  notify _ _ _ := alike_of_apart (fun _ => .ok ()) id fun _ => rfl
  requestMtu _ _ _ := alike_of_apart (fun _ => .error .notConnected) id fun _ => rfl
  sleep _ _ time := alike_of_apart (fun _ => ()) (· + time) fun _ => rfl
  randomBelow _ _ _ := alike_of_apart (fun _ => 0) id fun _ => rfl
  freeBytes _ _ := alike_of_apart (fun _ => 262144) id fun _ => rfl
  allocate _ _ _ _ := alike_of_apart (fun _ => true) id fun _ => rfl
  handle _ _ handler _ := nomatch handler

/-- An endpoint whose former peer went in the middle of a command, while it streamed. -/
def usedEndpoint : Endpoint Empty :=
  { Endpoint.fresh {} with
    counters := { fragmentsReceived := 9 }
    negotiation := ⟨.failed 185, 2, 7⟩
    reassembly :=
      {
        capacity := 32768
        idleTimeout := 5000
        cells := #[123, 34, 0]
        cursor := 2
        lastFragment := some 40
      }
    streaming := true
    cancelRequested := true }

/-- The new peer writes a command, has it processed, and is sent a document. -/
def newPeerDeeds : List (Deed Nat) :=
  [.fragment (fun _ => false) startMarker, .fragment (fun _ => false) [123, 125],
    .fragment (fun _ => false) endMarker, .process 0, .send (.steady (List.replicate 30 97)) none]

/-- The new peer is told the same as if nobody had been there before. -/
theorem new_peer_told_same_after_streaming :
    (Endpoint.fresh {}).Strangers usedEndpoint ∧
      let deeds := Deed.reconnection (· + 100) ++ newPeerDeeds
      let first := Deed.performAll acceptingPorts deeds ⟨.fresh {}, { world := 50 }⟩
      let second := Deed.performAll acceptingPorts deeds ⟨usedEndpoint, { world := 50 }⟩
      (first.1 = second.1 ∧
        first.2.world.diary.filterMap Call.told? = second.2.world.diary.filterMap Call.told? ∧
        first.2.world.world = second.2.world.world) ∧
      (second.2.world.diary.filterMap Call.told?).length = 8 := by
  have strangers : (Endpoint.fresh {}).Strangers usedEndpoint :=
    ⟨rfl, rfl, rfl, rfl, rfl, ⟨rfl, rfl, rfl⟩, ⟨rfl, rfl, rfl⟩, Inbound.wired_fresh _,
      ⟨⟨by decide, by decide, .inr (by decide)⟩, by decide, by decide⟩⟩
  have all := new_peer_told_same id (fun _ => rfl) acceptingPorts_blind strangers
    50 (· + 100) newPeerDeeds
  refine ⟨strangers, ?_, ?_⟩
  · exact all
  · decide +kernel

/-- A command that the former peer wrote is processed for the new one and answered to it, and
the new one is given the "busy" answer that the former one was owed. -/
theorem remains_reach_new_peer :
    let told (endpoint : Endpoint Empty) (deeds : List (Deed Nat)) :=
      (Deed.performAll acceptingPorts deeds
        ⟨endpoint, { world := 0 }⟩).2.world.diary.filterMap Call.told?
    let connected : List (Deed Nat) := [.linkUp, .connect]
    let command : List (Deed Nat) :=
      [.fragment (fun _ => false) startMarker, .fragment (fun _ => false) [123, 125],
        .fragment (fun _ => false) endMarker]
    let next : List (Deed Nat) := Deed.reconnection id ++ [.process 0]
    told (.fresh {}) (connected ++ next) = [] ∧
      (told (.fresh {}) (connected ++ command ++ next)).length = 5 ∧
      (told (.fresh {}) (Deed.reconnection id ++ [.send (.steady [48]) none])).map Prod.fst =
        [[48], endMarker] ∧
      (told { Endpoint.fresh {} with busyOwed := true }
        (Deed.reconnection id ++ [.send (.steady [48]) none])).length = 7 := by
  decide +kernel

end CommandLink
