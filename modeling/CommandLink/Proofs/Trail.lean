import CommandLink.Proofs.ExactStream

/-!
# What sending does, step by step

Whatever the ports answer, and whatever else goes on while they are called, sending does the
same few things: it calls a port, it counts a chunk that the link took, and it writes into its
books. A `Trail` is a sequence of such steps, with what was said in them and the chunks that
were counted. What each step keeps, the trail keeps.

The trail of a document follows one of a few courses. The size of the pieces depends on the
link at the moment in which they are cut, for which `limit` stands as a bound.
-/

namespace CommandLink

/-! ## What is said -/

/-- What a notification is for. -/
inductive Signal where
  | content (bytes : Bytes)
  | finished
  | cancelled
  | progress (activity : Activity) (done total : Nat)

def Signal.bytes : Signal → Bytes
  | .content bytes => bytes
  | .finished => endMarker
  | .cancelled => cancelledMarker
  | .progress activity done total => Bytes.ofText (Progress.document activity done total)

/-- A notification, and what the link answered. -/
structure Utterance where
  signal : Signal
  answer : Except LinkError Unit

def Utterance.told (utterance : Utterance) : Bytes × Except LinkError Unit :=
  (utterance.signal.bytes, utterance.answer)

/-- Signals in a row, up to the first that the link refuses. -/
inductive Recited : List Signal → List Utterance → Prop where
  | done : Recited [] []
  | refused (signal rest error) : Recited (signal :: rest) [⟨signal, .error error⟩]
  | taken (signal) {rest us} (further : Recited rest us) :
    Recited (signal :: rest) (⟨signal, .ok ()⟩ :: us)

/-- An inline error is given in pieces of at most `limit` bytes, with its end marker. -/
def Inline (limit : Nat) (message kind : String) (us : List Utterance) : Prop :=
  ∃ size, 0 < size ∧ size ≤ limit ∧
    Recited ((Bytes.pieces size (Bytes.ofText (Reply.inlineError message kind))).map .content ++
      [.finished]) us

/-- What the peer is told of an error, if it is told. -/
def SendError.answer? : SendError → Option String
  | .tooLarge _ _ => some "Response too large"
  | .lowMemory _ => some "Low memory"
  | .outOfMemory _ => some "Out of memory"
  | .lockTimeout => none
  | .cancelled => none
  | .serialize => none
  | .link _ => none

/-- Chunks are sent one after the other, with reports of progress behind each that the link
takes, until the end marker, or a marker that breaks off, or a refusal. -/
inductive Telling (activity : Option Activity) :
    List Bytes → Except SendError Unit → List Utterance → Prop where
  | finished : Telling activity [] (.ok ()) [⟨.finished, .ok ()⟩]
  | unfinished (error) : Telling activity [] (.error (.link error)) [⟨.finished, .error error⟩]
  | cancelled (chunk rest) :
    Telling activity (chunk :: rest) (.error .cancelled) [⟨.cancelled, .ok ()⟩]
  | uncancelled (chunk rest error) :
    Telling activity (chunk :: rest) (.error (.link error)) [⟨.cancelled, .error error⟩]
  | refused (chunk rest error) :
    Telling activity (chunk :: rest) (.error (.link error)) [⟨.content chunk, .error error⟩]
  | taken (chunk) {rest result asides us}
    (progress : ∀ aside ∈ asides, ∃ reported done total,
      activity = some reported ∧ aside.signal = .progress reported done total)
    (further : Telling activity rest result us) :
    Telling activity (chunk :: rest) result (⟨.content chunk, .ok ()⟩ :: asides ++ us)

variable {W H α β : Type}

/-! ## Sizes and contents -/

/-- Any link takes chunks of twenty bytes, and none of more than 512. -/
theorem LinkState.chunkSize_bounds (mtu : UInt16) (state : LinkState) :
    20 ≤ state.chunkSize mtu ∧ state.chunkSize mtu ≤ maxChunk := by
  simp only [chunkSize, notifyLength, maxChunk, defaultMtu, unitOverhead]
  omega

theorem Bytes.pieces_max_one (size : Nat) (bytes : Bytes) :
    Bytes.pieces (max size 1) bytes = Bytes.pieces size bytes := by
  fun_induction Bytes.pieces size bytes with
  | case1 => rw [pieces_nil]
  | case2 first rest ih =>
    have same : max size 1 - 1 = size - 1 := by omega
    rw [pieces, same, ih]

/-- Whatever memory there is, planned chunks are no larger than the link takes. -/
theorem Settings.plan_chunkSize_le (settings : Settings) (total free : Nat) {unit : Nat}
    (positive : 0 < unit) :
    (settings.plan total free unit).chunkSize ≤ unit ∧
      (settings.plan total free unit).chunkSize ≤ maxChunk := by
  have whole : min (max unit 1) maxChunk ≤ unit := by omega
  have capped : min (max unit 1) maxChunk ≤ maxChunk := Nat.min_le_right _ _
  unfold plan
  dsimp only
  split
  next =>
    exact ⟨Nat.le_trans (Nat.min_le_left _ _) whole, Nat.le_trans (Nat.min_le_left _ _) capped⟩
  next => exact ⟨whole, capped⟩

theorem Block.written_of_write? {bytes : Bytes} {block after : Block} {taken : Nat}
    (accepted : block.write? bytes = some (taken, after)) :
    after.written = block.written ++ bytes.take taken := by
  unfold write? at accepted
  dsimp only at accepted
  split at accepted
  next => cases accepted
  next =>
    cases accepted
    rfl

theorem Block.written_of_writeAll {bytes : Bytes} {block full : Block}
    (took : block.writeAll bytes = (true, full)) : full.written = block.written ++ bytes := by
  fun_induction Block.writeAll bytes block with
  | case1 => cases took
  | case2 bytes block taken after accepted whole =>
    cases took
    rw [written_of_write? accepted, List.take_of_length_le whole]
  | case3 bytes block taken after accepted partly ih =>
    rw [ih took, written_of_write? accepted, List.append_assoc, List.take_append_drop]

theorem Block.room_of_writeAll {bytes : Bytes} {block full : Block}
    (took : block.writeAll bytes = (true, full)) : bytes.length ≤ block.room := by
  fun_induction Block.writeAll bytes block with
  | case1 => cases took
  | case2 bytes block taken after accepted whole =>
    simp only [write?] at accepted
    split at accepted
    next => cases accepted
    next =>
      obtain ⟨rfl, -⟩ := Prod.mk.inj (Option.some.inj accepted)
      omega
  | case3 bytes block taken after accepted partly ih =>
    -- A write that took only a part has filled the block, so the rest of it had no room.
    have more := ih took
    simp only [write?] at accepted
    split at accepted
    next => cases accepted
    next =>
      obtain ⟨rfl, rfl⟩ := Prod.mk.inj (Option.some.inj accepted)
      simp only [room, length, List.length_append, List.length_take, List.length_drop] at *
      omega

theorem Document.written_of_fill {document : Document} {block : Block} {payload : Bytes}
    (empty : block.written = []) (filled : document.fill block = .ok payload) :
    document.written = some payload := by
  unfold fill at filled
  split at filled
  next => cases filled
  next text written =>
    split at filled
    next full took =>
      cases filled
      rw [written, Block.written_of_writeAll took, empty, List.nil_append]
    next => cases filled

theorem Document.length_le_of_fill {document : Document} {block : Block} {payload : Bytes}
    (empty : block.written = []) (filled : document.fill block = .ok payload) :
    payload.length ≤ block.capacity := by
  unfold fill at filled
  split at filled
  next => cases filled
  next text written =>
    split at filled
    next full took =>
      cases filled
      have room := Block.room_of_writeAll took
      rw [Block.written_of_writeAll took, empty, List.nil_append]
      exact Nat.le_trans room (Nat.sub_le _ _)
    next => cases filled

/-- What keeps a document from being measured is that it cannot be serialized. -/
theorem Document.serializedLength_error {document : Document} {error : SendError}
    (failed : document.serializedLength = .error error) : error = .serialize := by
  unfold serializedLength at failed
  split at failed
  next => cases failed
  next => exact (Except.error.inj failed).symm

/-- And so is what keeps it from filling a block. -/
theorem Document.fill_error {document : Document} {block : Block} {error : SendError}
    (failed : document.fill block = .error error) : error = .serialize := by
  unfold fill at failed
  split at failed
  next => exact (Except.error.inj failed).symm
  next =>
    split at failed
    next => cases failed
    next => exact (Except.error.inj failed).symm

theorem Act.returns_currentChunk {ports : Ports W H} {next : Nat → Act W H α} {s : Station W H}
    {known : α → Station W H → Prop}
    (rest : Returns (next (s.endpoint.chunkSize (ports.mtu s.world))) s known) :
    Returns (currentChunk ports >>= next) s known := rest

/-- Planned pieces of a payload have at most as many bytes as any link takes. -/
theorem Settings.length_le_of_mem_planned (settings : Settings) (total free : Nat) {unit : Nat}
    (positive : 0 < unit) (payload : Bytes) :
    ∀ chunk ∈ Bytes.pieces (settings.plan total free unit).chunkSize payload,
      chunk.length ≤ maxChunk := by
  have small := (settings.plan_chunkSize_le total free positive).2
  have room : 1 ≤ maxChunk := by decide
  rw [← Bytes.pieces_max_one]
  intro chunk member
  have length := Bytes.length_le_of_mem_pieces (by omega) payload chunk member
  omega

/-- An inline error is a run of signals, cut for the link as it is. -/
theorem Act.returns_sendInline {ports : Ports W H} {message kind : String} {s : Station W H}
    {known : Station W H → Prop}
    (rest : ∀ size, size = min (max (s.endpoint.chunkSize (ports.mtu s.world)) 1) maxChunk →
      Returns (notifyAll ports
        (((Bytes.pieces size (Bytes.ofText (Reply.inlineError message kind))).map Signal.content ++
          [Signal.finished]).map Signal.bytes)) s fun _ t => known t) :
    Returns (sendInline ports message kind) s fun _ t => known t := by
  apply returns_currentChunk
  apply Returns.discard
  have notified := rest _ rfl
  rw [List.map_append, List.map_map] at notified
  have cut : Signal.bytes ∘ Signal.content = id := rfl
  rw [cut, List.map_id] at notified
  exact notified

/-! ## Trails -/

/-- Count a chunk that the link took. -/
def Counters.sent (chunk : Bytes) (c : Counters) : Counters :=
  { c with
    fragmentsSent := c.fragmentsSent + 1
    bytesSent := addBytes c.bytesSent chunk.length }

/-- An endpoint without what sending writes into its books in the middle of a document, besides
the chunks that it counts. -/
def Endpoint.ruled (endpoint : Endpoint H) : Endpoint H :=
  { endpoint with
    busyOwed := false
    cancelRequested := false
    counters := { endpoint.counters with lowMemoryChunks := 0, secondaryAllocs := 0 } }

open Act

/-- The steps from one station to another, with what was said and the chunks that were counted
as sent, each in its order. -/
inductive Trail (ports : Ports W H) :
    Station W H → List Utterance → List Bytes → Station W H → Prop where
  | done (s) : Trail ports s [] [] s
  | said (signal) {answer s t u us chunks}
    (run : exec (ports.notify signal.bytes) s = (.ok answer, t))
    (further : Trail ports t us chunks u) : Trail ports s (⟨signal, answer⟩ :: us) chunks u
  | slept {time s t u us chunks} (run : exec (ports.sleep time) s = (.ok (), t))
    (further : Trail ports t us chunks u) : Trail ports s us chunks u
  | read {free s t u us chunks} (run : exec ports.freeBytes s = (.ok free, t))
    (further : Trail ports t us chunks u) : Trail ports s us chunks u
  | asked {pool size granted s t u us chunks}
    (run : exec (ports.allocate pool size) s = (.ok granted, t))
    (further : Trail ports t us chunks u) : Trail ports s us chunks u
  | sent (chunk) {s u us chunks}
    (further : Trail ports { s with endpoint := s.endpoint.count (Counters.sent chunk) } us
      chunks u) : Trail ports s us (chunk :: chunks) u
  | booked {s u us chunks} {endpoint : Endpoint H} (same : endpoint.ruled = s.endpoint.ruled)
    (further : Trail ports { s with endpoint } us chunks u) : Trail ports s us chunks u

theorem Trail.append {ports : Ports W H} {s t u : Station W H} {us more : List Utterance}
    {chunks rest : List Bytes} (trail : Trail ports s us chunks t)
    (further : Trail ports t more rest u) : Trail ports s (us ++ more) (chunks ++ rest) u := by
  induction trail with
  | done => exact further
  | said signal run _ ih => exact .said signal run (ih further)
  | slept run _ ih => exact .slept run (ih further)
  | read run _ ih => exact .read run (ih further)
  | asked run _ ih => exact .asked run (ih further)
  | sent chunk _ ih => exact .sent chunk (ih further)
  | booked same _ ih => exact .booked same (ih further)

/-- A procedure comes back on a trail, and `post` is known of what was said and counted. -/
def Act.Follows (ports : Ports W H) (act : Act W H α) (s : Station W H)
    (post : α → List Utterance → List Bytes → Prop) : Prop :=
  Returns act s fun a t => ∃ us chunks, Trail ports s us chunks t ∧ post a us chunks

namespace Act

variable {ports : Ports W H} {s : Station W H}

theorem Follows.mono {act : Act W H α} {post wanted : α → List Utterance → List Bytes → Prop}
    (follows : Follows ports act s post)
    (enough : ∀ a us chunks, post a us chunks → wanted a us chunks) :
    Follows ports act s wanted :=
  Returns.mono follows fun a _ ⟨us, chunks, trail, known⟩ =>
    ⟨us, chunks, trail, enough a us chunks known⟩

theorem follows_pure {a : α} {post : α → List Utterance → List Bytes → Prop}
    (known : post a [] []) : Follows ports (pure a) s post :=
  returns_pure ⟨[], [], .done s, known⟩

theorem Follows.bind {act : Act W H α} {next : α → Act W H β}
    {between : α → List Utterance → List Bytes → Prop}
    {post : β → List Utterance → List Bytes → Prop} (first : Follows ports act s between)
    (second : ∀ a t us chunks, Trail ports s us chunks t → between a us chunks →
      Follows ports (next a) t fun b more rest => post b (us ++ more) (chunks ++ rest)) :
    Follows ports (act >>= next) s post := by
  apply Returns.bind first
  rintro a t ⟨us, chunks, trail, there⟩
  apply Returns.mono (second a t us chunks trail there)
  rintro b u ⟨more, rest, further, done⟩
  exact ⟨us ++ more, chunks ++ rest, trail.append further, done⟩

theorem follows_modify {change : Endpoint H → Endpoint H} {next : Unit → Act W H α}
    {post : α → List Utterance → List Bytes → Prop}
    (same : (change s.endpoint).ruled = s.endpoint.ruled)
    (follows : Follows ports (next ()) { s with endpoint := change s.endpoint } post) :
    Follows ports (modifyEndpoint change >>= next) s post :=
  returns_modifyEndpoint (Returns.mono follows fun _ _ ⟨us, chunks, trail, known⟩ =>
    ⟨us, chunks, .booked same trail, known⟩)

theorem follows_step {change : Endpoint H → β × Endpoint H} {next : β → Act W H α}
    {post : α → List Utterance → List Bytes → Prop}
    (same : (change s.endpoint).2.ruled = s.endpoint.ruled)
    (follows : Follows ports (next (change s.endpoint).1)
      { s with endpoint := (change s.endpoint).2 } post) :
    Follows ports (step change >>= next) s post :=
  returns_step (Returns.mono follows fun _ _ ⟨us, chunks, trail, known⟩ =>
    ⟨us, chunks, .booked same trail, known⟩)

end Act

/-- Ports that come back, whatever goes on while they are called. -/
abbrev Ports.ComeBack (ports : Ports W H) : Prop := ports.Within fun _ _ => True

theorem Ports.Within.comeBack {ports : Ports W H} {R : Station W H → Station W H → Prop}
    (within : ports.Within R) : ports.ComeBack where
  notify bytes s := (within.notify bytes s).mono fun _ _ _ => trivial
  sleep time s := (within.sleep time s).mono fun _ _ _ => trivial
  freeBytes s := (within.freeBytes s).mono fun _ _ _ => trivial
  allocate pool size s := (within.allocate pool size s).mono fun _ _ _ => trivial

/-- Wherever the trail leads from here, pieces have at most `limit` bytes. -/
def Ports.Narrow (ports : Ports W H) (origin : Station W H) (limit : Nat) : Prop :=
  ∀ us chunks t, Trail ports origin us chunks t → t.endpoint.chunkSize (ports.mtu t.world) ≤ limit

theorem Ports.Narrow.onward {ports : Ports W H} {s t : Station W H} {limit : Nat}
    {us : List Utterance} {chunks : List Bytes} (narrow : ports.Narrow s limit)
    (trail : Trail ports s us chunks t) : ports.Narrow t limit :=
  fun _ _ _ further => narrow _ _ _ (trail.append further)

theorem Ports.narrow_maxChunk (ports : Ports W H) (s : Station W H) : ports.Narrow s maxChunk :=
  fun _ _ t _ => (t.endpoint.state.chunkSize_bounds (ports.mtu t.world)).2

/-! ## The procedures of sending -/

/-- The chunk of a document that the link took. -/
def Utterance.chunk? : Utterance → Option Bytes
  | ⟨.content chunk, .ok ()⟩ => some chunk
  | ⟨.content _, .error _⟩ => none
  | ⟨.finished, _⟩ => none
  | ⟨.cancelled, _⟩ => none
  | ⟨.progress _ _ _, _⟩ => none

/-- A document is not sent and nothing is said, or an inline error is given instead, or it is
told in chunks of at most `limit` bytes. Only the last of these counts chunks, and counts those
that the link took. Nobody waits for the lock any more. -/
inductive Transit (limit : Nat) (document : Document) (activity : Option Activity) :
    Except SendError Unit → List Utterance → List Bytes → Prop where
  | unsaid (error) (other : error ≠ .lockTimeout) :
    Transit limit document activity (.error error) [] []
  | inline (error message kind) {us} (other : error ≠ .lockTimeout)
    (given : Inline limit message kind us) : Transit limit document activity (.error error) us []
  | told {payload size result us} (written : document.written = some payload)
    (positive : 0 < size) (small : size ≤ limit)
    (telling : Telling activity (Bytes.pieces size payload) result us) :
    Transit limit document activity result us (us.filterMap Utterance.chunk?)

/-- What becomes of a document: nobody hears of it when it cannot be serialized, the answer that an
error has is given instead, or it is told in chunks of at most `limit` bytes. -/
inductive Fate (limit : Nat) (document : Document) (activity : Option Activity) :
    Except SendError Unit → List Utterance → List Bytes → Prop where
  | unserialized : Fate limit document activity (.error .serialize) [] []
  | answered {error message us} (answer : error.answer? = some message)
    (given : Inline limit message error.peerKind us) :
    Fate limit document activity (.error error) us []
  | told {payload size result us} (written : document.written = some payload)
    (positive : 0 < size) (small : size ≤ limit)
    (telling : Telling activity (Bytes.pieces size payload) result us) :
    Fate limit document activity result us (us.filterMap Utterance.chunk?)

theorem Fate.transit {limit : Nat} {document : Document} {activity : Option Activity}
    {result : Except SendError Unit} {us : List Utterance} {chunks : List Bytes}
    (fate : Fate limit document activity result us chunks) :
    Transit limit document activity result us chunks := by
  cases fate with
  | unserialized => exact .unsaid .serialize nofun
  | @answered error message us answer given =>
    have other : error ≠ .lockTimeout := by
      rintro rfl
      cases answer
    exact .inline error message error.peerKind other given
  | told written positive small telling => exact .told written positive small telling

namespace Ports.Within

variable {ports : Ports W H} (back : ports.ComeBack)

include back

theorem notify_follows (signal : Signal) (s : Station W H) :
    Follows ports (ports.notify signal.bytes) s fun answer us chunks =>
      us = [⟨signal, answer⟩] ∧ chunks = [] := by
  obtain ⟨answer, t, run, -⟩ := back.notify signal.bytes s
  exact ⟨answer, t, run, _, _, .said signal run (.done t), rfl, rfl⟩

theorem sleep_follows (time : Nat) (s : Station W H) :
    Follows ports (ports.sleep time) s fun _ us chunks => us = [] ∧ chunks = [] := by
  obtain ⟨_, t, run, -⟩ := back.sleep time s
  exact ⟨_, t, run, _, _, .slept run (.done t), rfl, rfl⟩

theorem freeBytes_follows (s : Station W H) :
    Follows ports ports.freeBytes s fun _ us chunks => us = [] ∧ chunks = [] := by
  obtain ⟨free, t, run, -⟩ := back.freeBytes s
  exact ⟨free, t, run, _, _, .read run (.done t), rfl, rfl⟩

theorem ask_follows (pool : Pool) (size : Nat) (s : Station W H) :
    Follows ports (ports.allocate pool size) s fun _ us chunks => us = [] ∧ chunks = [] := by
  obtain ⟨granted, t, run, -⟩ := back.allocate pool size s
  exact ⟨granted, t, run, _, _, .asked run (.done t), rfl, rfl⟩

theorem deliver_follows (signal : Signal) (s : Station W H) :
    Follows ports (deliver ports signal.bytes) s fun result us chunks =>
      chunks = [] ∧ ((result = .ok () ∧ us = [⟨signal, .ok ()⟩]) ∨
        ∃ error, result = .error (.link error) ∧ us = [⟨signal, .error error⟩]) := by
  apply (back.notify_follows signal s).bind
  rintro answer t us chunks - ⟨rfl, rfl⟩
  cases answer with
  | ok => exact follows_pure ⟨rfl, .inl ⟨rfl, rfl⟩⟩
  | error error => exact follows_pure ⟨rfl, .inr ⟨error, rfl, rfl⟩⟩

theorem notifyAll_follows (signals : List Signal) (s : Station W H) :
    Follows ports (notifyAll ports (signals.map Signal.bytes)) s fun _ us chunks =>
      Recited signals us ∧ chunks = [] := by
  induction signals generalizing s with
  | nil => exact follows_pure ⟨.done, rfl⟩
  | cons signal rest ih =>
    apply (back.notify_follows signal s).bind
    rintro answer t us chunks - ⟨rfl, rfl⟩
    cases answer with
    | ok =>
      apply (ih t).mono
      rintro _ more chunks ⟨recited, rfl⟩
      exact ⟨.taken signal recited, rfl⟩
    | error error => exact follows_pure ⟨.refused signal rest error, rfl⟩

theorem progressAt_follows (stream : Stream) (sent threshold : Nat) (s : Station W H) :
    Follows ports (progressAt ports stream sent threshold) s fun _ us chunks =>
      chunks = [] ∧ ∀ aside ∈ us, ∃ reported done total,
        stream.activity = some reported ∧ aside.signal = .progress reported done total := by
  unfold progressAt
  split
  next activity reported _ =>
    dsimp only
    split
    next =>
      -- The answer of the link makes no difference.
      have told : Follows ports (discard (reportProgress ports activity sent stream.total)) s
          fun _ us chunks => chunks = [] ∧ ∀ aside ∈ us, ∃ reported done total,
            stream.activity = some reported ∧ aside.signal = .progress reported done total := by
        apply Returns.discard
        apply (back.deliver_follows (.progress activity sent stream.total) s).mono
        rintro result us chunks ⟨rfl, ⟨-, rfl⟩ | ⟨error, -, rfl⟩⟩
        · simp [reported]
        · simp [reported]
      apply told.bind
      rintro _ t us chunks - ⟨rfl, progress⟩
      apply follows_pure
      simpa using progress
    next => exact follows_pure (by simp)
  next => exact follows_pure (by simp)

theorem sendChunk_follows {chunk : Bytes} (small : chunk.length ≤ maxChunk) (s : Station W H) :
    Follows ports (sendChunk ports chunk) s fun result us chunks =>
      (result = .ok () ∧ us = [⟨.content chunk, .ok ()⟩] ∧ chunks = [chunk]) ∨
        ∃ error, result = .error (.link error) ∧ us = [⟨.content chunk, .error error⟩] ∧
          chunks = [] := by
  unfold sendChunk
  rw [if_neg (Nat.not_lt.mpr small)]
  apply (back.deliver_follows (.content chunk) s).bind
  rintro result t us chunks - ⟨rfl, ⟨rfl, rfl⟩ | ⟨error, rfl, rfl⟩⟩
  · exact ⟨.ok (), _, rfl, [], [chunk], .sent chunk (.done _), .inl ⟨rfl, rfl, rfl⟩⟩
  · exact follows_pure (.inr ⟨error, rfl, rfl, rfl⟩)

theorem sendChunks_follows (stream : Stream) (pieces : List Bytes)
    (small : ∀ chunk ∈ pieces, chunk.length ≤ maxChunk) (sent threshold : Nat)
    (s : Station W H) :
    Follows ports (sendChunks ports stream pieces sent threshold) s fun result us chunks =>
      Telling stream.activity pieces result us ∧ chunks = us.filterMap Utterance.chunk? := by
  -- The counts change from round to round, so that they are general.
  induction pieces generalizing sent threshold s with
  | nil =>
    apply (back.deliver_follows .finished s).mono
    rintro result us chunks ⟨rfl, ⟨rfl, rfl⟩ | ⟨error, rfl, rfl⟩⟩
    · exact ⟨.finished, rfl⟩
    · exact ⟨.unfinished error, rfl⟩
  | cons chunk rest ih =>
    apply follows_step rfl
    dsimp only
    split
    next =>
      apply (back.deliver_follows .cancelled _).bind
      rintro result t us chunks - ⟨rfl, ⟨rfl, rfl⟩ | ⟨error, rfl, rfl⟩⟩
      · exact follows_pure ⟨.cancelled chunk rest, rfl⟩
      · exact follows_pure ⟨.uncancelled chunk rest error, rfl⟩
    next =>
      apply (back.sendChunk_follows (small chunk List.mem_cons_self) _).bind
      rintro result t us chunks - (⟨rfl, rfl, rfl⟩ | ⟨error, rfl, rfl, rfl⟩)
      · apply (back.progressAt_follows stream (sent + chunk.length) threshold t).bind
        rintro next u asides chunks - ⟨rfl, progress⟩
        apply (back.sleep_follows stream.plan.delay u).bind
        rintro _ v us chunks - ⟨rfl, rfl⟩
        apply (ih (fun other member => small other (List.mem_cons_of_mem _ member)) _ next v).mono
        rintro result us chunks ⟨further, rfl⟩
        -- Progress is said between the chunks, and is none of them.
        have passed : asides.filterMap Utterance.chunk? = [] := by
          rw [List.filterMap_eq_nil_iff]
          rintro ⟨signal, answer⟩ member
          obtain ⟨_, _, _, -, rfl⟩ := progress _ member
          rfl
        have taken := Telling.taken chunk progress further
        constructor
        · simpa using taken
        · simp [Utterance.chunk?, passed]
      · exact follows_pure ⟨.refused chunk rest error, rfl⟩

section Pieces

variable {limit : Nat} {s : Station W H} (narrow : ports.Narrow s limit)

include narrow

theorem sendInline_follows (message kind : String) :
    Follows ports (sendInline ports message kind) s fun _ us chunks =>
      Inline limit message kind us ∧ chunks = [] := by
  have bounds := s.endpoint.state.chunkSize_bounds (ports.mtu s.world)
  have small : s.endpoint.state.chunkSize (ports.mtu s.world) ≤ limit := narrow _ _ s (.done s)
  apply returns_sendInline
  intro size cut
  change size = min (max (s.endpoint.state.chunkSize (ports.mtu s.world)) 1) maxChunk at cut
  apply (back.notifyAll_follows _ s).mono
  rintro _ us chunks ⟨recited, rfl⟩
  exact ⟨⟨size, by omega, by omega, recited⟩, rfl⟩

/-- The "busy" answer is said only if it is owed. -/
theorem answerBusy_follows :
    Follows ports (answerBusy ports) s fun _ us chunks =>
      (us = [] ∨ Inline limit "Transmission busy" "busy" us) ∧ chunks = [] := by
  apply follows_step rfl
  dsimp only
  split
  next =>
    have taken : Trail ports s [] []
        { s with endpoint := { s.endpoint with busyOwed := false } } := by
      apply Trail.booked _ (.done _)
      rfl
    apply (back.sendInline_follows (narrow.onward taken) _ _).mono
    rintro _ us chunks ⟨given, rfl⟩
    exact ⟨.inr given, rfl⟩
  next => exact follows_pure ⟨.inl rfl, rfl⟩

theorem refuse_follows {γ : Type} (error : SendError) (message kind : String) :
    Follows ports (refuse ports error message kind : Act W H (Except SendError γ)) s
      fun result us chunks => result = .error error ∧ Inline limit message kind us ∧
        chunks = [] := by
  apply (back.sendInline_follows narrow message kind).bind
  rintro _ t us chunks - ⟨given, rfl⟩
  apply follows_pure
  rw [List.append_nil]
  exact ⟨rfl, given, rfl⟩

end Pieces

theorem allocate_follows (size : Nat) (s : Station W H) :
    Follows ports (CommandLink.allocate ports size) s fun block us chunks =>
      us = [] ∧ chunks = [] ∧ ∀ granted ∈ block, granted.written = [] := by
  apply (back.ask_follows .primary size s).bind
  rintro granted t us chunks - ⟨rfl, rfl⟩
  split
  next => exact follows_pure ⟨rfl, rfl, by simp⟩
  next =>
    apply (back.ask_follows .secondary size t).bind
    rintro granted u us chunks - ⟨rfl, rfl⟩
    split
    next =>
      apply follows_modify rfl
      exact follows_pure ⟨rfl, rfl, by simp⟩
    next => exact follows_pure ⟨rfl, rfl, by simp⟩

section Courses

variable {limit : Nat} (document : Document) (activity : Option Activity) {s : Station W H}
  (narrow : ports.Narrow s limit)

include narrow

/-- What is prepared is what the document wrote; else that is the end of its course. -/
theorem prepare_follows :
    Follows ports (prepare ports document) s fun result us chunks =>
      (∃ payload, result = .ok payload ∧ document.written = some payload ∧ us = [] ∧
        chunks = []) ∨
      ∃ error, result = .error error ∧ Fate limit document activity (.error error) us chunks := by
  have refused (error : SendError) {message : String} (answer : error.answer? = some message)
      {t : Station W H} (narrow : ports.Narrow t limit) :
      Follows ports
        (refuse ports error message error.peerKind : Act W H (Except SendError Bytes)) t
        fun result us chunks => (∃ payload, result = .ok payload ∧
          document.written = some payload ∧ us = [] ∧ chunks = []) ∨
            ∃ error, result = .error error ∧
              Fate limit document activity (.error error) us chunks := by
    apply (back.refuse_follows narrow error message error.peerKind).mono
    rintro _ us _ ⟨rfl, given, rfl⟩
    exact .inr ⟨error, rfl, .answered answer given⟩
  apply returns_endpoint
  cases measured : document.serializedLength with
  | error error =>
    obtain rfl := Document.serializedLength_error measured
    exact follows_pure (.inr ⟨.serialize, rfl, .unserialized⟩)
  | ok total =>
    dsimp only
    split
    next => exact refused (.tooLarge _ _) rfl narrow
    next =>
      -- The station may be another one behind every port, but one on the trail.
      apply (back.freeBytes_follows s).bind
      rintro free t us chunks read ⟨rfl, rfl⟩
      have narrow := narrow.onward read
      split
      next => exact refused (.lowMemory _) rfl narrow
      next =>
        apply (back.allocate_follows _ t).bind
        rintro block u us chunks asked ⟨rfl, rfl, empty⟩
        cases block with
        | none =>
          exact refused (.outOfMemory _) rfl (narrow.onward asked)
        | some block =>
          cases filled : document.fill block with
          | error error =>
            obtain rfl := Document.fill_error filled
            exact follows_pure (.inr ⟨.serialize, filled, .unserialized⟩)
          | ok payload =>
            have written := Document.written_of_fill (empty block rfl) filled
            exact follows_pure (.inl ⟨payload, filled, written, rfl, rfl⟩)

theorem sendPayload_follows {payload : Bytes} (written : document.written = some payload) :
    Follows ports (sendPayload ports payload activity) s fun result us chunks =>
      Fate limit document activity result us chunks := by
  -- The link is read before the free memory, so the bound is taken here and not behind it.
  have small : s.endpoint.state.chunkSize (ports.mtu s.world) ≤ limit := narrow _ _ s (.done s)
  have bounds := s.endpoint.state.chunkSize_bounds (ports.mtu s.world)
  apply returns_currentChunk
  apply (back.freeBytes_follows s).bind
  rintro free t us chunks - ⟨rfl, rfl⟩
  apply returns_endpoint
  obtain ⟨plan, planned⟩ : ∃ plan, plan = t.endpoint.settings.plan payload.length free
      (s.endpoint.chunkSize (ports.mtu s.world)) := ⟨_, rfl⟩
  have sizes : plan.chunkSize ≤ s.endpoint.state.chunkSize (ports.mtu s.world) ∧
      plan.chunkSize ≤ maxChunk := by
    rw [planned]
    exact t.endpoint.settings.plan_chunkSize_le _ _ (Nat.lt_of_lt_of_le (by decide) bounds.1)
  -- Pieces of no size are cut as pieces of one byte.
  have cut := Bytes.pieces_max_one plan.chunkSize payload
  have capped : ∀ chunk ∈ Bytes.pieces plan.chunkSize payload, chunk.length ≤ maxChunk := by
    rw [planned]
    exact t.endpoint.settings.length_le_of_mem_planned _ _
      (Nat.lt_of_lt_of_le (by decide) bounds.1) payload
  have told (stream : Stream) (same : stream.activity = activity) (threshold : Nat)
      (u : Station W H) :
      Follows ports (sendChunks ports stream (Bytes.pieces plan.chunkSize payload) 0 threshold) u
        fun result us chunks => Fate limit document activity result us chunks := by
    apply (back.sendChunks_follows stream _ capped 0 threshold u).mono
    rintro result us chunks ⟨telling, rfl⟩
    rw [same, ← cut] at telling
    exact .told written (by omega) (by omega) telling
  dsimp only
  rw [← planned]
  split
  next =>
    apply follows_modify rfl
    exact told _ rfl _ _
  next => exact told _ rfl _ _

theorem transmit_fated :
    Follows ports (transmit ports document activity) s fun result us chunks =>
      Fate limit document activity result us chunks := by
  apply (back.prepare_follows document activity narrow).bind
  rintro result t us chunks prepared (⟨payload, rfl, written, rfl, rfl⟩ | ⟨error, rfl, fate⟩)
  · exact back.sendPayload_follows document activity (narrow.onward prepared) written
  · apply follows_pure
    rw [List.append_nil, List.append_nil]
    exact fate

/-- Whoever holds the lock sends a document on one of its courses. -/
theorem transmit_follows :
    Follows ports (transmit ports document activity) s fun result us chunks =>
      Transit limit document activity result us chunks :=
  (back.transmit_fated document activity narrow).mono fun _ _ _ fate => fate.transit

end Courses

end Ports.Within

end CommandLink
