import CommandLink.Endpoint.Streaming
import CommandLink.Proofs.FaultReports

/-!
# Batches of telemetry

Telemetry is forwarded document by document, as long as streaming is on and the source has some.
Others may produce documents while one is sent, and may switch streaming off. A document is taken
off the source before it is sent, so that a failure costs the one document whose sending failed,
and no other.
-/

namespace CommandLink

open Act

variable {W H : Type}

/-! ## Batches -/

/-- The source keeps its documents in a queue and gives the one in front, if there is one.
Whether it says that it has some is another matter. -/
structure Ports.Sourced (ports : Ports W H) (queue : W → List Json) : Prop where
  next : ∀ s, Returns ports.nextTelemetry s fun document t =>
    t.endpoint = s.endpoint ∧ document = (queue s.world).head? ∧
      queue t.world = (queue s.world).tail

/-- A document that was taken off the source, and the sending of it. -/
structure Forward (W H : Type) where
  document : Json
  before : Station (Recorded W Call) H
  result : Except SendError Unit
  said : List Utterance
  after : Station (Recorded W Call) H

/-- The document was sent with this result, from a station at which streaming was on. What holds
the ports holds the sending. -/
structure Forward.Sent (ports : Ports W H) (forward : Forward W H) : Prop where
  streaming : forward.before.endpoint.streaming = true
  run : exec (sendTelemetry ports.logged (Document.ofJson forward.document)) forward.before =
    (.ok forward.result, forward.after)
  speech : Speech maxChunk (Document.ofJson forward.document) none forward.result forward.said
  told : forward.after.world.diary.filterMap Call.told? =
    forward.before.world.diary.filterMap Call.told? ++ forward.said.map Utterance.told
  within : ∀ R : Station W H → Station W H → Prop, Bookless R → ports.Within R →
    R forward.before.bare forward.after.bare

/-- What arrived at the source while the document was sent, as long as nothing else became of the
queue. -/
def Forward.arrived (queue : W → List Json) (forward : Forward W H) : List Json :=
  (queue forward.after.world.world).drop (queue forward.before.world.world).length

/-- Documents are sent in a row, each of them when it is in front of the source, from a queue of
the source until there is another one. -/
inductive Forwarded (ports : Ports W H) (queue : W → List Json) :
    List Json → List (Forward W H) → List Json → Prop where
  | done (held) : Forwarded ports queue held [] held
  | sent {forward : Forward W H} {forwards last} (sent : forward.Sent ports)
      (further : Forwarded ports queue (queue forward.after.world.world) forwards last) :
    Forwarded ports queue (forward.document :: queue forward.before.world.world)
      (forward :: forwards) last

/-- Meanwhile documents only arrive at the source. -/
def Arriving (queue : W → List Json) (s t : Station W H) : Prop :=
  queue s.world <+: queue t.world

/-- Meanwhile the source is left alone. -/
def Untouched (queue : W → List Json) (s t : Station W H) : Prop :=
  queue t.world = queue s.world

theorem arriving_bookless (queue : W → List Json) : Bookless (Arriving (H := H) queue) where
  refl _ := List.prefix_rfl
  trans _ _ _ := List.IsPrefix.trans
  books _ _ _ := List.prefix_rfl

theorem untouched_bookless (queue : W → List Json) : Bookless (Untouched (H := H) queue) where
  refl _ := rfl
  trans _ _ _ first second := Eq.trans second first
  books _ _ _ := rfl

namespace Forwarded

variable {ports : Ports W H} {queue : W → List Json} {held last : List Json}
  {forwards : List (Forward W H)}

theorem all_sent (forwarded : Forwarded ports queue held forwards last) :
    ∀ forward ∈ forwards, forward.Sent ports := by
  induction forwarded with
  | done => exact List.forall_mem_nil _
  | sent sent further ih => exact List.forall_mem_cons.mpr ⟨sent, ih⟩

/-- Nothing is lost or sent twice, as long as documents only arrive meanwhile. -/
theorem in_order (forwarded : Forwarded ports queue held forwards last)
    (arriving : ∀ forward ∈ forwards, Arriving queue forward.before.bare forward.after.bare) :
    forwards.map Forward.document ++ last =
      held ++ forwards.flatMap (Forward.arrived queue) := by
  induction forwarded with
  | done => simp
  | @sent forward forwards last sent further ih =>
    rw [List.forall_mem_cons] at arriving
    -- What arrives during this sending is behind the rest of the queue for all further ones.
    obtain ⟨arrived, grown⟩ := arriving.1
    change queue forward.before.world.world ++ arrived = queue forward.after.world.world at grown
    have here : forward.arrived queue = arrived := by
      rw [Forward.arrived, ← grown, List.drop_left]
    rw [List.map_cons, List.cons_append, ih arriving.2, List.flatMap_cons, here, ← grown]
    simp

/-- If the source is left alone, it loses what is sent and nothing else. -/
theorem exact (forwarded : Forwarded ports queue held forwards last)
    (untouched : ∀ forward ∈ forwards, Untouched queue forward.before.bare forward.after.bare) :
    forwards.map Forward.document ++ last = held := by
  induction forwarded with
  | done => simp
  | @sent forward forwards last sent further ih =>
    rw [List.forall_mem_cons] at untouched
    have same : queue forward.after.world.world = queue forward.before.world.world := untouched.1
    rw [List.map_cons, List.cons_append, ih untouched.2, same]

end Forwarded

/-- A batch with this much room: documents whose sending succeeded, and at most one behind them
whose sending failed. -/
structure Batch (ports : Ports W H) (queue : W → List Json) (room : Nat)
    (s : Station (Recorded W Call) H) (forwards failed : List (Forward W H))
    (t : Station (Recorded W Call) H) : Prop where
  forwarded : Forwarded ports queue (queue s.world.world) (forwards ++ failed)
    (queue t.world.world)
  fits : (forwards ++ failed).length ≤ room
  succeeded : ∀ forward ∈ forwards, forward.result = .ok ()
  once : failed.length ≤ 1
  unsent : ∀ forward ∈ failed, ∃ error, forward.result = .error error
  /-- What the link is told in a batch is what the sendings say. -/
  told : t.world.diary.filterMap Call.told? = s.world.diary.filterMap Call.told? ++
    ((forwards ++ failed).flatMap Forward.said).map Utterance.told
  /-- A batch that does not fill its room ends for one of four reasons. -/
  ended : forwards.length < room → failed ≠ [] ∨ t.endpoint.streaming = false ∨
    ports.hasTelemetry t.world.world = false ∨ queue t.world.world = []
  /-- The source is not asked again when streaming was switched off. -/
  unasked : ∀ final ∈ (forwards ++ failed).getLast?, final.after.endpoint.streaming = false →
    t = final.after

namespace Batch

variable {ports : Ports W H} {queue : W → List Json} {room : Nat}
  {s t u : Station (Recorded W Call) H}

/-- Nothing is forwarded. -/
theorem nothing (kept : queue t.world.world = queue s.world.world)
    (silent : t.world.diary = s.world.diary)
    (ended : 0 < room → t.endpoint.streaming = false ∨
      ports.hasTelemetry t.world.world = false ∨ queue t.world.world = []) :
    Batch ports queue room s [] [] t where
  forwarded := by
    rw [kept]
    exact .done _
  fits := Nat.zero_le room
  succeeded := List.forall_mem_nil _
  once := Nat.zero_le 1
  unsent := List.forall_mem_nil _
  told := by simp [silent]
  ended left := .inr (ended left)
  unasked := by simp

section Sent

variable {forward : Forward W H} (sent : forward.Sent ports)
  (front : queue s.world.world = forward.document :: queue forward.before.world.world)
  (silent : forward.before.world.diary = s.world.diary)

include sent front silent

/-- The first document is taken, and is lost. -/
theorem lost {error : SendError} (failed : forward.result = .error error) :
    Batch ports queue (room + 1) s [] [forward] forward.after where
  forwarded := by
    rw [front]
    exact .sent sent (.done _)
  fits := Nat.succ_le_succ (Nat.zero_le room)
  succeeded := List.forall_mem_nil _
  once := Nat.le_refl 1
  unsent := List.forall_mem_singleton.mpr ⟨error, failed⟩
  told := by simp [sent.told, silent]
  ended _ := .inl (List.cons_ne_nil _ _)
  unasked := by simp

/-- The first document goes out, and a batch with the room that is left follows. -/
theorem cons {forwards failed : List (Forward W H)} (succeeded : forward.result = .ok ())
    (batch : Batch ports queue room forward.after forwards failed t)
    (off : forward.after.endpoint.streaming = false → t = forward.after) :
    Batch ports queue (room + 1) s (forward :: forwards) failed t where
  forwarded := by
    rw [front]
    exact .sent sent batch.forwarded
  fits := Nat.succ_le_succ batch.fits
  succeeded := List.forall_mem_cons.mpr ⟨succeeded, batch.succeeded⟩
  once := batch.once
  unsent := batch.unsent
  told := by
    rw [batch.told, sent.told, silent, List.cons_append, List.flatMap_cons, List.map_append,
      List.append_assoc]
  ended left := batch.ended (Nat.lt_of_succ_lt_succ left)
  unasked := by
    rw [List.cons_append, List.getLast?_cons]
    rintro _ ⟨⟩
    cases final : (forwards ++ failed).getLast? with
    | none => exact off
    | some final' => exact batch.unasked final' final

end Sent

end Batch

/-! ## The loop -/

/-- The source is not asked when streaming is off, neither whether it has documents nor for one. -/
theorem pumpWithin_of_off (ports : Ports W H) (room forwarded : Nat) {s : Station W H}
    (off : s.endpoint.streaming = false) :
    exec (pumpWithin ports room forwarded) s = (.ok forwarded, s) := by
  cases room with
  | zero => rfl
  | succ room =>
    change exec (if !s.endpoint.streaming then _ else _) s = _
    rw [off]
    rfl

section Loop

variable {ports : Ports W H} (back : ports.ComeBack) {queue : W → List Json}

include back

theorem sendTelemetry_sent (document : Json) (s : Station (Recorded W Call) H)
    (on : s.endpoint.streaming = true) :
    Returns (sendTelemetry ports.logged (Document.ofJson document)) s fun result t =>
      ∃ said, Forward.Sent ports ⟨document, s, result, said, t⟩ := by
  have tells {R : Station W H → Station W H → Prop} (bookless : Bookless R)
      (within : ports.Within R) := bookless.send_tells within (fitting_maxChunk ports R s.bare)
    (Document.ofJson document) none (bookless.refl _)
  obtain ⟨result, t, run, said, spoken, speech⟩ := tells bookless_true back
  refine ⟨result, t, run, said, on, run, speech, spoken.told, ?_⟩
  intro R bookless within
  -- It is the same run, of which more is known when the ports do less.
  obtain ⟨_, further, -⟩ := Returns.of_exec (tells bookless within) run
  exact further.within

/-- By induction on the room that is left. -/
theorem pumpWithin_batch (sourced : ports.Sourced queue) (room forwarded : Nat)
    (s : Station (Recorded W Call) H) :
    Returns (pumpWithin ports.logged room forwarded) s fun n t => ∃ forwards failed,
      n = forwarded + forwards.length ∧ Batch ports queue room s forwards failed t := by
  induction room generalizing forwarded s with
  | zero => exact returns_pure ⟨[], [], rfl, .nothing rfl rfl nofun⟩
  | succ room ih =>
    apply returns_endpoint
    split
    next off =>
      have off : s.endpoint.streaming = false := by simpa using off
      exact returns_pure ⟨[], [], rfl, .nothing rfl rfl fun _ => .inl off⟩
    next on =>
      have on : s.endpoint.streaming = true := by simpa using on
      -- Only now the source is asked.
      apply returns_world
      split
      next none =>
        have none : ports.hasTelemetry s.world.world = false := by
          simpa [Ports.logged] using none
        exact returns_pure ⟨[], [], rfl, .nothing rfl rfl fun _ => .inr (.inl none)⟩
      next =>
        have next : Returns ports.nextTelemetry s.bare fun document t =>
            t.endpoint = s.endpoint ∧ document = (queue s.world.world).head? ∧
              queue t.world = (queue s.world.world).tail := sourced.next s.bare
        apply (returns_lift next).bind
        rintro _ t ⟨⟨kept, rfl, taken⟩, silent⟩
        cases held : queue s.world.world with
        | nil =>
          -- The source said that it has something, but it has not.
          rw [held] at taken
          exact returns_pure ⟨[], [], rfl,
            .nothing (taken.trans held.symm) silent fun _ => .inr (.inr taken)⟩
        | cons document rest =>
          rw [held] at taken
          have front : queue s.world.world = document :: queue t.world.world := by
            rw [held, taken]
            rfl
          -- Nobody switches streaming off between the look at it and the sending.
          rw [← kept] at on
          apply (sendTelemetry_sent back document t on).bind
          rintro result u ⟨said, sent⟩
          cases result with
          | error error => exact returns_pure ⟨[], [_], rfl, .lost sent front silent rfl⟩
          | ok =>
            obtain ⟨_, v, run, forwards, failed, rfl, batch⟩ := ih (forwarded + 1) u
            refine ⟨_, v, run, _ :: forwards, failed, ?_, .cons sent front silent rfl batch ?_⟩
            · rw [List.length_cons]
              omega
            · intro off
              rw [pumpWithin_of_off _ _ _ off] at run
              exact (Prod.mk.inj run).2.symm

end Loop

/-! ## The theorem -/

/-- Whatever the source holds, and whatever the link, the memory and others do meanwhile: documents
are taken from the front of the source while streaming is on, and sent one after the other, at most
eight. The first one whose sending fails is lost, and ends the batch; the count is that of the
others. As long as documents only arrive at the source, they are sent in their order, and what is
not sent is still there; and if nothing arrives, the source loses what is sent and nothing else.
When streaming is off, the source is not asked for anything. -/
theorem telemetry_forwarded_in_batches {ports : Ports W H} (back : ports.ComeBack)
    {queue : W → List Json} (sourced : ports.Sourced queue) (s : Station (Recorded W Call) H) :
    Returns (pump ports.logged) s (fun n t => ∃ forwards failed : List (Forward W H),
      n = forwards.length ∧ Batch ports queue maxBatch s forwards failed t ∧
        (∀ forward ∈ forwards ++ failed, forward.Sent ports) ∧
        (ports.Within (Arriving queue) →
          (forwards ++ failed).map Forward.document ++ queue t.world.world =
            queue s.world.world ++ (forwards ++ failed).flatMap (Forward.arrived queue)) ∧
        (ports.Within (Untouched queue) →
          (forwards ++ failed).map Forward.document ++ queue t.world.world =
            queue s.world.world)) ∧
    (s.endpoint.streaming = false → ∀ has next,
      exec (pump { ports.logged with hasTelemetry := has, nextTelemetry := next }) s =
        (.ok 0, s)) := by
  constructor
  · apply (pumpWithin_batch back sourced maxBatch 0 s).mono
    rintro n t ⟨forwards, failed, counted, batch⟩
    rw [Nat.zero_add] at counted
    have sent := batch.forwarded.all_sent
    refine ⟨forwards, failed, counted, batch, sent, ?_, ?_⟩
    · intro arriving
      apply batch.forwarded.in_order
      exact fun forward member =>
        (sent forward member).within _ (arriving_bookless queue) arriving
    · intro untouched
      apply batch.forwarded.exact
      exact fun forward member =>
        (sent forward member).within _ (untouched_bookless queue) untouched
  · exact fun off has next => pumpWithin_of_off _ maxBatch 0 off

/-- Ports of a link that takes everything, with documents at the source, on a device where streaming
is switched off in the second pause. -/
def sourcePorts : Ports (List Json × Nat) Empty where
  notify _ := return .ok ()
  requestMtu _ := return .ok ()
  restartAdvertising := pure ()
  mtu _ := 247
  now world := world.2
  sleep _ := do
    let (_, pauses) ← world
    modifyWorld fun (documents, _) => (documents, pauses + 1)
    modifyEndpoint fun endpoint => { endpoint with streaming := endpoint.streaming && pauses = 0 }
  randomBelow _ := return 0
  freeBytes := return 100000
  minFreeBytes _ := 100000
  allocate _ _ := return true
  handle _ _ := pure ()
  hasTelemetry world := !world.1.isEmpty
  nextTelemetry := do
    let (documents, pauses) ← world
    modifyWorld fun _ => (documents.tail, pauses)
    return documents.head?
  rounds := 8

theorem sourcePorts_sourced : sourcePorts.Sourced Prod.fst where
  next _ := ⟨_, _, rfl, rfl, rfl, rfl⟩

theorem sourcePorts_within : sourcePorts.Within (Untouched Prod.fst) where
  notify _ := within_pure (untouched_bookless _).refl _
  sleep _ _ := ⟨(), _, rfl, rfl⟩
  freeBytes := within_pure (untouched_bookless _).refl _
  allocate _ _ := within_pure (untouched_bookless _).refl _

/-- Of three documents two are sent, and the third one stays when streaming is switched off. -/
theorem telemetry_forwarded_in_batches_until_off :
    let s : Station (Recorded (List Json × Nat) Call) Empty :=
      ⟨{ (Endpoint.fresh {} : Endpoint Empty) with streaming := true },
        { world := ([.text "a", .null, .text "b"], 0) }⟩
    sourcePorts.ComeBack ∧ sourcePorts.Sourced Prod.fst ∧
      Returns (pump sourcePorts.logged) s fun n t => n = 2 ∧ t.world.world.1 = [.text "b"] ∧
        ∃ forwards : List (Forward (List Json × Nat) Empty),
          forwards.map Forward.document = [.text "a", .null] ∧
          ∀ forward ∈ forwards, forward.Sent sourcePorts ∧ forward.result = .ok () := by
  intro s
  have back := sourcePorts_within.comeBack
  refine ⟨back, sourcePorts_sourced, ?_⟩
  obtain ⟨⟨n, t, run, forwards, failed, counted, batch, sent, -, exact⟩, -⟩ :=
    telemetry_forwarded_in_batches back sourcePorts_sourced s
  have two : (exec (pump sourcePorts.logged) s).1 = .ok 2 := by decide +kernel
  have left : (exec (pump sourcePorts.logged) s).2.world.world.1.length = 1 := by decide +kernel
  rw [run] at two left
  obtain rfl := Except.ok.inj two
  have order : (forwards ++ failed).map Forward.document ++ t.world.world.1 =
      [.text "a", .null] ++ [.text "b"] := exact sourcePorts_within
  -- Two were sent and one is left, so that no other one was taken.
  have lengths := congrArg List.length order
  simp only [List.length_append, List.length_map, List.length_cons, List.length_nil] at lengths
  change t.world.world.1.length = 1 at left
  obtain rfl : failed = [] := List.eq_nil_of_length_eq_zero (by omega)
  rw [List.append_nil] at order sent
  obtain ⟨documents, rest⟩ := List.append_inj' order left
  refine ⟨_, t, run, rfl, rest, forwards, documents, fun forward member => ?_⟩
  exact ⟨sent forward member, batch.succeeded forward member⟩

end CommandLink
