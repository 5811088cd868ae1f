import CommandLink.Proofs.Interleaving
import CommandLink.Proofs.Speech
import CommandLink.Simulation.Radio

/-!
# Whether chunks fit the link

Chunks are cut for the unit that the negotiation settled on, and for the unit of the link
while it is not settled. A settled unit is kept until the negotiation is started or stopped
again, and the fallback is installed whatever the link carries. So there are two ways in
which chunks outgrow the link, and no others. Where chunks fit when a document begins to be
sent, they fit to its end, as long as the unit of the link stays as it is.
-/

namespace CommandLink

variable {W H : Type}

theorem notifyLength_mono {small large : UInt16} (le : small ≤ large) :
    notifyLength small ≤ notifyLength large := by
  have : small.toNat ≤ large.toNat := le
  simp only [notifyLength]
  omega

/-- The link carries the chunks that are cut. -/
def Station.Suited (unit : W → UInt16) (s : Station W H) : Prop :=
  s.endpoint.chunkSize (unit s.world) ≤ notifyLength (unit s.world)

/-- Chunks fit if they are cut for a unit that is not above that of the link. -/
theorem Station.Suited.of_unit {unit : W → UInt16} {s : Station W H} {own : UInt16}
    (cut : s.endpoint.state.unit (unit s.world) = own) (le : own ≤ unit s.world) :
    s.Suited unit := by
  rw [← cut] at le
  exact Nat.le_trans (Nat.min_le_left _ _) (notifyLength_mono le)

namespace Negotiation

variable {unit : W → UInt16}

/-! ## Where settled units come from -/

/-- A move keeps the state, or leaves a state without a unit of its own, or completes the
negotiation with the unit of the link, or installs the fallback. -/
theorem Move.state_cases {a b : Scene W H} (move : Move unit a b) :
    (b.control.state = a.control.state ∧ a.chronicle.polled ⊆ b.chronicle.polled) ∨
    (∀ mtu, b.control.state.unit mtu = mtu) ∨
    (b.control.state = .completed (unit a.station.world) ∧
      unit a.station.world ∈ b.chronicle.polled) ∨
    b.control.state = .failed a.station.endpoint.settings.fallbackUnit := by
  cases move with
  | apart c negotiation =>
    left
    exact ⟨congrArg Control.state negotiation, List.Subset.refl _⟩
  | restart => exact .inr (.inl fun _ => rfl)
  | stop => exact .inr (.inl fun _ => rfl)
  | poll s c now =>
    simp only [Scene.control, Endpoint.poll_negotiation]
    rcases s.endpoint.negotiation.poll_cases now s.endpoint.settings.attemptTimeout.toNat
      (unit s.world) with ⟨-, -, completed⟩ | ⟨-, expired⟩ | same
    · rw [completed]
      exact .inr (.inr (.inl ⟨rfl, List.mem_cons_self⟩))
    · rw [expired]
      exact .inr (.inl fun _ => rfl)
    · rw [same]
      exact .inl ⟨rfl, List.subset_cons_self _ _⟩
  | judge s c token =>
    by_cases honoured : s.endpoint.negotiation.honours token = true
    · have expired := (Control.honours_iff.mp honoured).2
      simp only [Scene.control, Endpoint.judge_negotiation, Control.judge_of_honoured honoured]
      split
      next => exact .inr (.inr (.inr rfl))
      next =>
        right
        left
        simp [expired, LinkState.unit]
    · rw [s.endpoint.judge_of_stale (Bool.eq_false_iff.mpr honoured)]
      exact .inl ⟨rfl, List.Subset.refl _⟩
  | resume s c token _ now =>
    by_cases honoured : s.endpoint.negotiation.honours token = true
    · simp only [Scene.control, (s.endpoint.resume_of_honoured honoured now).2]
      exact .inr (.inl fun _ => rfl)
    · rw [s.endpoint.resume_of_stale (Bool.eq_false_iff.mpr honoured)]
      exact .inl ⟨rfl, List.Subset.refl _⟩
  | requested s c epoch =>
    rcases s.endpoint.negotiation.requested_cases epoch with ⟨since, -, moved⟩ | same
    · right
      left
      intro mtu
      exact congrArg (fun control => control.state.unit mtu) moved
    · exact .inl ⟨congrArg Control.state same, List.Subset.refl _⟩

/-- The unit that chunks are cut for is that of the link, or one that a check completed with
since the last start or stop, or the fallback. -/
def Scene.Founded (scene : Scene W H) : Prop :=
  (∀ mtu, scene.control.state.unit mtu = mtu) ∨
  (∃ agreed ∈ scene.chronicle.polled, scene.control.state = .completed agreed) ∨
  scene.control.state = .failed scene.station.endpoint.settings.fallbackUnit

theorem Scene.Founded.move {a b : Scene W H} (founded : a.Founded) (move : Move unit a b) :
    b.Founded := by
  rcases move.state_cases with ⟨same, known⟩ | unsettled | ⟨completed, polled⟩ | failed
  · rw [Founded, same, move.settings]
    exact founded.imp_right fun settled =>
      settled.imp_left fun ⟨agreed, polled, completed⟩ => ⟨agreed, known polled, completed⟩
  · exact .inl unsettled
  · exact .inr (.inl ⟨_, polled, completed⟩)
  · rw [Founded, move.settings]
    exact .inr (.inr failed)

theorem Scene.Founded.run {a b : Scene W H} (founded : a.Founded) (run : Interleaved unit a b) :
    b.Founded := by
  induction run with
  | refl => exact founded
  | tail _ move ih => exact ih.move move

/-- Chunks fit, unless the unit that was agreed on or the fallback is above that of the
link. -/
theorem Scene.Founded.suited (unit : W → UInt16) {scene : Scene W H} (founded : scene.Founded) :
    scene.station.Suited unit ∨
    (∃ agreed ∈ scene.chronicle.polled, scene.control.state = .completed agreed ∧
      unit scene.station.world < agreed) ∨
    (scene.control.state = .failed scene.station.endpoint.settings.fallbackUnit ∧
      unit scene.station.world < scene.station.endpoint.settings.fallbackUnit) := by
  rcases founded with unsettled | ⟨agreed, polled, completed⟩ | failed
  · exact .inl (.of_unit (unsettled _) (UInt16.le_refl _))
  · by_cases above : unit scene.station.world < agreed
    · exact .inr (.inl ⟨agreed, polled, completed, above⟩)
    · exact .inl (.of_unit (congrArg (LinkState.unit _) completed) (UInt16.not_lt.mp above))
  · by_cases above : unit scene.station.world < scene.station.endpoint.settings.fallbackUnit
    · exact .inr (.inr ⟨failed, above⟩)
    · exact .inl (.of_unit (congrArg (LinkState.unit _) failed) (UInt16.not_lt.mp above))

/-! ## While a document is sent -/

/-- A move while the unit of the link stays as it is. The negotiation does not fail with a
fallback above that unit. -/
structure SteadyMove (unit : W → UInt16) (a b : Scene W H) : Prop where
  move : Move unit a b
  same : unit b.station.world = unit a.station.world
  fallback : b.control.state = .failed a.station.endpoint.settings.fallbackUnit →
    a.control.state = b.control.state ∨
      a.station.endpoint.settings.fallbackUnit ≤ unit a.station.world

/-- From one station to another while the unit of the link stays as it is. -/
def Steady (unit : W → UInt16) (s t : Station W H) : Prop :=
  ∀ c, ∃ d : Chronicle, Relation.ReflTransGen (SteadyMove unit) ⟨s, c⟩ ⟨t, d⟩

theorem steady_bookless (unit : W → UInt16) : Bookless (Steady unit (H := H)) where
  refl s c := ⟨c, .refl⟩
  trans s t u there further c := by
    obtain ⟨d, first⟩ := there c
    obtain ⟨e, second⟩ := further d
    exact ⟨e, first.trans second⟩
  books s endpoint same c := by
    have negotiation := congrArg Endpoint.negotiation same
    have settings := congrArg Endpoint.settings same
    refine ⟨c, .single ⟨.apart c negotiation settings, rfl, fun _ => .inl ?_⟩⟩
    exact (congrArg Control.state negotiation).symm

theorem SteadyMove.suited {a b : Scene W H} (steady : SteadyMove unit a b)
    (suited : a.station.Suited unit) : b.station.Suited unit := by
  -- The size of chunks depends on the state and the unit of the link only.
  have kept : b.control.state = a.control.state → b.station.Suited unit := by
    intro state
    have same : b.station.endpoint.state = a.station.endpoint.state := state
    rw [Station.Suited, Endpoint.chunkSize, same, steady.same]
    exact suited
  rcases steady.move.state_cases with ⟨state, -⟩ | unsettled | ⟨completed, -⟩ | failed
  · exact kept state
  · exact .of_unit (unsettled _) (UInt16.le_refl _)
  · rw [← steady.same] at completed
    exact .of_unit (congrArg (LinkState.unit _) completed) (UInt16.le_refl _)
  · rcases steady.fallback failed with state | le
    · exact kept state.symm
    · rw [← steady.same] at le
      exact .of_unit (congrArg (LinkState.unit _) failed) le

/-- While the unit of the link stays as it is, chunks that fit go on fitting. -/
theorem Steady.keeps {s t : Station W H} (steady : Steady unit s t) :
    unit t.world = unit s.world ∧ (s.Suited unit → t.Suited unit) := by
  -- The chronicle does not matter here, so any will do.
  obtain ⟨d, run⟩ := steady {}
  suffices ∀ b : Scene W H, Relation.ReflTransGen (SteadyMove unit) ⟨s, {}⟩ b →
      unit b.station.world = unit s.world ∧ (s.Suited unit → b.station.Suited unit) from
    this ⟨t, d⟩ run
  intro b run
  induction run with
  | refl => exact ⟨rfl, id⟩
  | tail _ move ih => exact ⟨move.same.trans ih.1, fun suited => move.suited (ih.2 suited)⟩

end Negotiation

/-! ## What is sent -/

theorem length_endMarker : endMarker.length = 5 := by decide

theorem length_cancelledMarker : cancelledMarker.length = 11 := by decide

/-- A notification is a report of progress, or has at most so many bytes. -/
def Signal.Small (limit : Nat) (signal : Signal) : Prop :=
  (∃ activity done total, signal = .progress activity done total) ∨ signal.bytes.length ≤ limit

theorem Recited.small {limit : Nat} {signals : List Signal} {us : List Utterance}
    (recited : Recited signals us) (small : ∀ signal ∈ signals, signal.Small limit) :
    ∀ u ∈ us, u.signal.Small limit := by
  induction recited with
  | done => exact nofun
  | refused signal rest error => simpa using small signal List.mem_cons_self
  | taken signal further ih =>
    have rest := ih fun other member => small other (List.mem_cons_of_mem _ member)
    intro u member
    rcases List.mem_cons.mp member with rfl | behind
    · exact small signal List.mem_cons_self
    · exact rest u behind

theorem Inline.small {limit : Nat} (room : 11 ≤ limit) {message kind : String}
    {us : List Utterance} (given : Inline limit message kind us) :
    ∀ u ∈ us, u.signal.Small limit := by
  obtain ⟨size, positive, fits, recited⟩ := given
  refine recited.small fun signal member => .inr ?_
  rcases List.mem_append.mp member with piece | marker
  · obtain ⟨bytes, cut, rfl⟩ := List.mem_map.mp piece
    exact Nat.le_trans (Bytes.length_le_of_mem_pieces positive _ bytes cut) fits
  · rw [List.mem_singleton.mp marker, Signal.bytes, length_endMarker]
    omega

theorem Telling.small {limit : Nat} (room : 11 ≤ limit) {activity : Option Activity}
    {chunks : List Bytes} {result : Except SendError Unit} {us : List Utterance}
    (telling : Telling activity chunks result us)
    (fits : ∀ chunk ∈ chunks, chunk.length ≤ limit) : ∀ u ∈ us, u.signal.Small limit := by
  have marker : Signal.finished.Small limit := by
    right
    rw [Signal.bytes, length_endMarker]
    omega
  have cancelled : Signal.cancelled.Small limit := by
    right
    rw [Signal.bytes, length_cancelledMarker]
    omega
  induction telling with
  | finished => simpa using marker
  | unfinished error => simpa using marker
  | cancelled chunk rest => simpa using cancelled
  | uncancelled chunk rest error => simpa using cancelled
  | refused chunk rest error =>
    have content : (Signal.content chunk).Small limit := .inr (fits chunk List.mem_cons_self)
    simpa using content
  | taken chunk progress further ih =>
    have rest := ih fun other member => fits other (List.mem_cons_of_mem _ member)
    intro u member
    rcases List.mem_append.mp member with front | behind
    · rcases List.mem_cons.mp front with rfl | aside
      · exact .inr (fits chunk List.mem_cons_self)
      · obtain ⟨reported, done, total, -, report⟩ := progress u aside
        exact .inl ⟨reported, done, total, report⟩
    · exact rest u behind

theorem Speech.small {limit : Nat} (room : 11 ≤ limit) {document : Document}
    {activity : Option Activity} {result : Except SendError Unit} {us : List Utterance}
    (speech : Speech limit document activity result us) : ∀ u ∈ us, u.signal.Small limit := by
  cases speech with
  | locked => exact nofun
  | @held _ us busy course answer =>
    have front : ∀ u ∈ us, u.signal.Small limit := by
      cases course with
      | unsaid error => exact nofun
      | inline error message kind given => exact given.small room
      | told written positive small telling =>
        refine telling.small room fun chunk cut => ?_
        exact Nat.le_trans (Bytes.length_le_of_mem_pieces positive _ chunk cut) small
    intro u member
    rcases List.mem_append.mp member with first | behind
    · exact front u first
    · rcases answer with rfl | given
      · cases behind
      · exact given.small room u behind

/-! ## What the link refuses -/

open Act Negotiation

/-- Ports that go through a radio: its unit is that of the link, and what they refuse as too
large the radio refuses for that. -/
structure Ports.OverRadio (ports : Ports W H) (radio : W → Radio) : Prop where
  mtu : ∀ world, ports.mtu world = (radio world).mtu
  notify : ∀ bytes s t, exec (ports.notify bytes) s = (.ok (.error .payloadTooLarge), t) →
    (radio s.world).notify bytes = .error .payloadTooLarge

theorem Radio.lt_length_of_notify {radio : Radio} {bytes : Bytes}
    (refused : radio.notify bytes = .error .payloadTooLarge) :
    notifyLength radio.mtu < bytes.length := by
  unfold notify at refused
  split at refused
  next => cases refused
  next =>
    split at refused
    next large => exact large
    next => cases refused

/-- What was refused as too large meanwhile has more bytes than the link carries. -/
structure RefusedLarge (unit : W → UInt16) (s t : Station (Recorded W Call) H) : Prop where
  steady : Steady unit s.bare t.bare
  told : ∃ told, t.world.diary.filterMap Call.told? =
      s.world.diary.filterMap Call.told? ++ told ∧
    ∀ bytes, (bytes, .error .payloadTooLarge) ∈ told →
      notifyLength (unit s.world.world) < bytes.length

namespace RefusedLarge

variable {unit : W → UInt16}

theorem silent {s t : Station (Recorded W Call) H} (steady : Steady unit s.bare t.bare)
    (silent : t.world.diary.filterMap Call.told? = s.world.diary.filterMap Call.told?) :
    RefusedLarge unit s t :=
  ⟨steady, [], by rw [silent, List.append_nil], nofun⟩

theorem bookless : Bookless (RefusedLarge unit (H := H)) where
  refl s := silent ((steady_bookless unit).refl _) rfl
  trans s t u first second := by
    obtain ⟨told, there, large⟩ := first.told
    obtain ⟨more, further, larger⟩ := second.told
    refine ⟨(steady_bookless unit).trans _ _ _ first.steady second.steady, told ++ more, ?_, ?_⟩
    · rw [further, there, List.append_assoc]
    · intro bytes member
      rcases List.mem_append.mp member with before | behind
      · exact large bytes before
      · -- The unit is still the one from the beginning.
        have same : unit t.world.world = unit s.world.world := first.steady.keeps.1
        rw [← same]
        exact larger bytes behind
  books s endpoint same := silent ((steady_bookless unit).books s.bare endpoint same) rfl

end RefusedLarge

namespace Ports.OverRadio

variable {ports : Ports W H} {radio : W → Radio} (linked : ports.OverRadio radio)
  (within : ports.Within (Steady ports.mtu))

include linked within

theorem logged_within : ports.logged.Within (RefusedLarge ports.mtu) where
  notify bytes s := by
    have answered : Returns (ports.notify bytes) s.bare fun answer t =>
        Steady ports.mtu s.bare t ∧ (answer = .error .payloadTooLarge →
          notifyLength (ports.mtu s.world.world) < bytes.length) := by
      obtain ⟨answer, t, returned, steady⟩ := within.notify bytes s.bare
      refine ⟨answer, t, returned, steady, ?_⟩
      rintro rfl
      rw [linked.mtu]
      exact Radio.lt_length_of_notify (linked.notify bytes s.bare t returned)
    refine (returns_lift answered).bind fun answer t known => ?_
    obtain ⟨⟨steady, large⟩, silent⟩ := known
    refine returns_endpoint (returns_note (returns_pure ⟨steady, [(bytes, answer)], ?_, ?_⟩))
    · simp [Station.record, silent, Call.told?]
    · intro other member
      obtain ⟨rfl, refused⟩ := Prod.mk.inj (List.mem_singleton.mp member)
      exact large refused.symm
  sleep time s := by
    refine (returns_lift (within.sleep time s.bare)).bind fun _ t known => ?_
    refine returns_endpoint ⟨(), _, rfl, .silent known.1 ?_⟩
    simp [known.2, Call.told?]
  freeBytes s := by
    refine (returns_lift (within.freeBytes s.bare)).bind fun free t known => ?_
    refine returns_note (returns_pure (.silent known.1 ?_))
    simp [Station.record, known.2, Call.told?]
  allocate pool size s := by
    refine (returns_lift (within.allocate pool size s.bare)).bind fun granted t known => ?_
    refine returns_note (returns_pure (.silent known.1 ?_))
    simp [Station.record, known.2, Call.told?]

/-- From a station whose chunks fit, only reports of progress are too large for the link. -/
theorem send_fits (document : Document) (activity : Option Activity) {s : Station W H}
    (suited : s.Suited ports.mtu) :
    Returns (send ports.logged document activity) ⟨s.endpoint, { world := s.world }⟩
      fun result t => ∃ us,
        Speech (notifyLength (ports.mtu s.world)) document activity result us ∧
        t.world.diary.filterMap Call.told? = us.map Utterance.told ∧
        ∀ u ∈ us, u.answer = .error .payloadTooLarge →
          ∃ reported done total, u.signal = .progress reported done total := by
  have fitting : ports.Fitting (Steady ports.mtu) s (notifyLength (ports.mtu s.world)) := by
    intro m steady
    obtain ⟨same, fits⟩ := steady.keeps
    rw [← same]
    exact fits suited
  -- Two accounts of one run: what was said, and what was refused as too large.
  have tells := (steady_bookless ports.mtu).send_tells within fitting document activity
    (s := ⟨s.endpoint, { world := s.world }⟩) ((steady_bookless ports.mtu).refl s)
  have refusals := RefusedLarge.bookless.send (linked.logged_within within) document activity
    ⟨s.endpoint, { world := s.world }⟩
  refine (Returns.and tells refusals).mono fun result t known => ?_
  obtain ⟨⟨us, spoken, speech⟩, large⟩ := known
  obtain ⟨told, diary, large⟩ := large.told
  have said : us.map Utterance.told = told := by
    simpa using spoken.told.symm.trans diary
  refine ⟨us, speech, by simpa using spoken.told, fun u member tooLarge => ?_⟩
  have refused : (u.signal.bytes, .error .payloadTooLarge) ∈ told := by
    rw [← said, ← tooLarge]
    exact List.mem_map_of_mem member
  have room : 11 ≤ notifyLength (ports.mtu s.world) := by
    simp only [notifyLength, defaultMtu, unitOverhead]
    omega
  rcases speech.small room u member with progress | small
  · exact progress
  · -- Nothing else is larger than the unit from the beginning, which is still that of the link.
    exact absurd (large _ refused) (Nat.not_lt.mpr small)

end Ports.OverRadio

/-- On every way to a station, chunks fit the link unless the unit that was agreed on since
the last start or stop, or the fallback, is above its unit. And where they fit, nothing that
is sent is too large for the link but reports of progress, if the unit of the link stays as
it is meanwhile. -/
theorem chunks_fit_unless_outgrown {ports : Ports W H} {radio : W → Radio}
    (linked : ports.OverRadio radio) (within : ports.Within (Steady ports.mtu))
    (settings : Settings) (world : W) {scene : Scene W H}
    (run : Interleaved ports.mtu (.fresh settings world) scene) :
    (scene.station.Suited ports.mtu ∨
      (∃ agreed ∈ scene.chronicle.polled, scene.control.state = .completed agreed ∧
        ports.mtu scene.station.world < agreed) ∨
      (scene.control.state = .failed settings.fallbackUnit ∧
        ports.mtu scene.station.world < settings.fallbackUnit)) ∧
    (scene.station.Suited ports.mtu → ∀ (document : Document) (activity : Option Activity),
      Returns (send ports.logged document activity)
        ⟨scene.station.endpoint, { world := scene.station.world }⟩ fun result t => ∃ us,
          Speech (notifyLength (ports.mtu scene.station.world)) document activity result us ∧
          t.world.diary.filterMap Call.told? = us.map Utterance.told ∧
          ∀ u ∈ us, u.answer = .error .payloadTooLarge →
            ∃ reported done total, u.signal = .progress reported done total) := by
  constructor
  · have fresh : (Scene.fresh settings world : Scene W H).Founded := .inl fun _ => rfl
    have kept : scene.station.endpoint.settings = settings := run.settings
    have known := (fresh.run run).suited ports.mtu
    rw [kept] at known
    exact known
  · intro suited document activity
    exact linked.send_fits within document activity suited

/-- Ports of a device that has nothing but a radio. -/
def radioPorts : Ports Radio Empty where
  notify bytes := do
    match (← world).notify bytes with
    | .ok after =>
      modifyWorld fun _ => after
      return .ok ()
    | .error error => return .error error
  requestMtu mtu := do
    modifyWorld (·.requestMtu mtu)
    return .ok ()
  restartAdvertising := modifyWorld (·.advertise)
  mtu radio := radio.mtu
  now _ := 0
  sleep _ := pure ()
  randomBelow _ := return 0
  freeBytes := return 262144
  minFreeBytes _ := 262144
  allocate _ _ := return true
  handle handler _ := nomatch handler
  hasTelemetry _ := false
  nextTelemetry := return none
  rounds := 0

theorem exec_radioPorts_notify (bytes : Bytes) (s : Station Radio Empty) :
    exec (radioPorts.notify bytes) s =
      match s.world.notify bytes with
      | .ok after => (.ok (.ok ()), { s with world := after })
      | .error error => (.ok (.error error), s) := by
  change exec (world >>= _) s = _
  rw [exec_bind, exec_world]
  dsimp only
  cases s.world.notify bytes <;> rfl

theorem radioPorts_over : radioPorts.OverRadio id where
  mtu _ := rfl
  notify bytes s t refused := by
    rw [exec_radioPorts_notify] at refused
    cases answer : s.world.notify bytes with
    | ok after =>
      rw [answer] at refused
      cases refused
    | error error =>
      rw [answer] at refused
      cases refused
      exact answer

theorem Radio.mtu_of_notify {radio after : Radio} {bytes : Bytes}
    (taken : radio.notify bytes = .ok after) : after.mtu = radio.mtu := by
  unfold notify at taken
  split at taken
  next => cases taken
  next =>
    split at taken
    next => cases taken
    next =>
      cases taken
      rfl

theorem radioPorts_within : radioPorts.Within (Steady radioPorts.mtu) where
  notify bytes s := by
    rw [Returns, exec_radioPorts_notify]
    cases answer : s.world.notify bytes with
    | ok after =>
      have apart : ∀ c, SteadyMove radioPorts.mtu ⟨s, c⟩ ⟨{ s with world := after }, c⟩ :=
        fun c => ⟨.apart c rfl rfl, Radio.mtu_of_notify answer, fun _ => .inl rfl⟩
      exact ⟨_, _, rfl, fun c => ⟨c, .single (apart c)⟩⟩
    | error error => exact ⟨_, _, rfl, (steady_bookless _).refl s⟩
  sleep _ := within_pure (steady_bookless _).refl ()
  freeBytes := within_pure (steady_bookless _).refl _
  allocate _ _ := within_pure (steady_bookless _).refl _

/-- A link with a unit of 100, with which the negotiation was completed. -/
def agreedScene : Scene Radio Empty where
  station.endpoint :=
    { Endpoint.fresh {} with
      negotiation := ⟨.completed 100, 0, 1⟩
      counters := { negotiationAttempts := 1, negotiatedMtu := 100 } }
  station.world := { connected := true, mtu := 100 }
  chronicle := { starts := 1, requests := 1, polled := [100] }

/-- The 150 bytes of a document go out in chunks that the agreed unit carries. -/
theorem chunks_fit_unless_outgrown_when_agreed :
    Interleaved radioPorts.mtu (.fresh {} { connected := true, mtu := 100 }) agreedScene ∧
      Returns (send radioPorts.logged (.steady (List.replicate 150 97)) none)
        ⟨agreedScene.station.endpoint, { world := agreedScene.station.world }⟩ fun result t =>
          result = .ok () ∧ ∃ us : List Utterance,
            t.world.diary.filterMap Call.told? = us.map Utterance.told ∧
            ∀ u ∈ us, u.answer = .error .payloadTooLarge →
              ∃ reported done total, u.signal = .progress reported done total := by
  have begun : Interleaved radioPorts.mtu
      (.fresh {} { connected := true, mtu := 100 } : Scene Radio Empty) _ :=
    .single (.restart _ _ 0)
  -- The check finds a unit above the default one.
  have run : Interleaved radioPorts.mtu _ agreedScene := begun.tail (.poll _ _ 200)
  have suited : agreedScene.station.Suited radioPorts.mtu := .of_unit rfl (UInt16.le_refl _)
  have sent : (exec (send radioPorts.logged (.steady (List.replicate 150 97)) none)
      ⟨agreedScene.station.endpoint, { world := agreedScene.station.world }⟩).1 = .ok (.ok ()) := by
    decide +kernel
  obtain ⟨-, fits⟩ := chunks_fit_unless_outgrown radioPorts_over radioPorts_within _ _ run
  obtain ⟨result, t, returned, us, -, told, large⟩ :=
    fits suited (.steady (List.replicate 150 97)) none
  have done : result = .ok () :=
    Except.ok.inj ((congrArg Prod.fst returned).symm.trans sent)
  exact ⟨run, result, t, returned, done, us, told, large⟩

/-- A link at the default unit on which the only attempt expires: chunks are cut for the
fallback, and the link does not take them. -/
theorem fallback_chunk_too_large :
    ∃ scene : Scene Radio Empty,
      Interleaved radioPorts.mtu (.fresh { maxRetries := 0 } { connected := true }) scene ∧
        notifyLength scene.station.world.mtu <
          scene.station.endpoint.chunkSize scene.station.world.mtu ∧
        (exec (send radioPorts (.steady (List.replicate 30 97)) none) scene.station).1 =
          .ok (.error (.link .payloadTooLarge)) := by
  have expired : Interleaved radioPorts.mtu
      (.fresh { maxRetries := 0 } { connected := true } : Scene Radio Empty) _ :=
    (Relation.ReflTransGen.single (.restart _ _ 0)).tail (.poll _ _ 5001)
  refine ⟨_, expired.tail (.judge _ _ ⟨1⟩), ?_, ?_⟩
  · decide +kernel
  · decide +kernel

end CommandLink
