import CommandLink.Bench.Inbound
import CommandLink.Proofs.Speech

/-!
# A link that goes down while a document goes out

While a document goes out, the link may go down in any of the pauses, and another peer may
come up. Connections are numbered, so that it can be said on which of them a notification
goes out.

What is noticed of all this is what stands at the end of the pause. When the link is down
then, the next notification is refused, and that is the end of the document. A request to
cancel ends it as well. A link that is up is taken for the one from before, also when there
is another peer on it by then.
-/

namespace CommandLink

open Act

variable {W H α β : Type}

/-! ## Watching the connections -/

/-- On which connection the link was when a pause began and when it ended, and whether a
request to cancel was waiting then. -/
structure Pause where
  before : Option Nat
  after : Option Nat
  cancelled : Bool
  deriving DecidableEq

/-- A notification, with the connection on which the link was and its answer, or a pause. -/
inductive Sighting where
  | notified (bytes : Bytes) (line : Option Nat) (answer : Except LinkError Unit)
  | paused (pause : Pause)
  deriving DecidableEq

/-- What goes out, and on which connection. -/
def Sighting.aired? : Sighting → Option (Nat × Bytes)
  | .notified bytes (some connection) (.ok ()) => some (connection, bytes)
  | .notified _ _ _ => none
  | .paused _ => none

/-- The ports, with every notification and every pause written down. -/
def Ports.watched (line : W → Option Nat) (ports : Ports W H) : Ports (Recorded W Sighting) H where
  notify bytes := do
    let before := line (← world).world
    let answer ← lift (ports.notify bytes)
    note [.notified bytes before answer]
    return answer
  requestMtu mtu := lift (ports.requestMtu mtu)
  restartAdvertising := lift ports.restartAdvertising
  mtu recorded := ports.mtu recorded.world
  now recorded := ports.now recorded.world
  sleep time := do
    let before := line (← world).world
    lift (ports.sleep time)
    note [.paused ⟨before, line (← world).world, (← endpoint).cancelRequested⟩]
  randomBelow bound := lift (ports.randomBelow bound)
  freeBytes := lift ports.freeBytes
  minFreeBytes recorded := ports.minFreeBytes recorded.world
  allocate pool size := lift (ports.allocate pool size)
  handle handler parsed := lift (ports.handle handler parsed)
  hasTelemetry recorded := ports.hasTelemetry recorded.world
  nextTelemetry := lift ports.nextTelemetry
  rounds := ports.rounds

/-- Ports that come back, of a link that takes nothing while it is down. Whatever else they do
is left open, and so is when connections come and go. -/
structure Ports.Connecting (ports : Ports W H) (line : W → Option Nat) : Prop where
  notify : ∀ bytes s, Returns (ports.notify bytes) s fun answer _ =>
    line s.world = none → ∃ error, answer = .error error
  sleep : ∀ time s, Returns (ports.sleep time) s fun _ _ => True
  freeBytes : ∀ s, Returns ports.freeBytes s fun _ _ => True
  allocate : ∀ pool size s, Returns (ports.allocate pool size) s fun _ _ => True

/-! ## Crossings -/

/-- A moment of a run in which a document is sent. -/
inductive Moment where
  | said (utterance : Utterance) (line : Option Nat)
  | paused (pause : Pause)

namespace Moment

def sighting : Moment → Sighting
  | .said utterance line => .notified utterance.signal.bytes line utterance.answer
  | .paused pause => .paused pause

def utterance? : Moment → Option Utterance
  | .said utterance _ => some utterance
  | .paused _ => none

end Moment

/-- An inline error, on whatever connections its pieces go out. There is no pause in it. -/
def InlineMoments (message kind : String) (ms : List Moment) : Prop :=
  ∃ us, Inline maxChunk message kind us ∧ ms.map Moment.utterance? = us.map some

/-- How chunks go out, when the link is on a connection or down, and a request to cancel is
waiting or not. Each round depends on these two as the pause before it left them. -/
inductive Conveyed (activity : Option Activity) :
    Option Nat → Bool → List Bytes → Except SendError Unit → List Moment → Prop where
  | finished (connection requested) :
    Conveyed activity (some connection) requested [] (.ok ())
      [.said ⟨.finished, .ok ()⟩ (some connection)]
  | unfinished (line requested error) :
    Conveyed activity line requested [] (.error (.link error))
      [.said ⟨.finished, .error error⟩ line]
  | cancelled (connection chunk rest) :
    Conveyed activity (some connection) true (chunk :: rest) (.error .cancelled)
      [.said ⟨.cancelled, .ok ()⟩ (some connection)]
  | uncancelled (line chunk rest error) :
    Conveyed activity line true (chunk :: rest) (.error (.link error))
      [.said ⟨.cancelled, .error error⟩ line]
  | refused (line chunk rest error) :
    Conveyed activity line false (chunk :: rest) (.error (.link error))
      [.said ⟨.content chunk, .error error⟩ line]
  | taken (connection chunk pause) {rest result asides ms}
    (progress : ∀ aside ∈ asides, ∃ u line reported done total, aside = .said u line ∧
      activity = some reported ∧ u.signal = .progress reported done total)
    (further : Conveyed activity pause.after pause.cancelled rest result ms) :
    Conveyed activity (some connection) false (chunk :: rest) result
      (.said ⟨.content chunk, .ok ()⟩ (some connection) :: asides ++ .paused pause :: ms)

/-- A document does not go out, and at most an inline error does, or its chunks go out. -/
inductive Crossing (document : Document) (activity : Option Activity) :
    Except SendError Unit → List Moment → Prop where
  | unsent (error) {ms} (given : ms = [] ∨ ∃ message kind, InlineMoments message kind ms) :
    Crossing document activity (.error error) ms
  | sent {payload size line requested result ms} (written : document.written = some payload)
    (positive : 0 < size)
    (conveyed : Conveyed activity line requested (Bytes.pieces size payload) result ms) :
    Crossing document activity result ms

/-! ### Behind a pause -/

theorem InlineMoments.unpaused {message kind : String} {ms : List Moment}
    (given : InlineMoments message kind ms) (pause : Pause) : .paused pause ∉ ms := by
  obtain ⟨us, -, same⟩ := given
  intro member
  have none : Moment.utterance? (.paused pause) ∈ us.map some := by
    rw [← same]
    exact List.mem_map_of_mem member
  obtain ⟨u, -, some⟩ := List.mem_map.mp none
  cases some

namespace Conveyed

variable {activity : Option Activity} {line : Option Nat} {requested : Bool}
  {chunks : List Bytes} {result : Except SendError Unit} {ms : List Moment}

/-- Whatever goes out next goes to the link as it is. -/
theorem begins (conveyed : Conveyed activity line requested chunks result ms) :
    ∃ u later, ms = .said u line :: later := by
  cases conveyed with
  | finished => exact ⟨_, _, rfl⟩
  | unfinished => exact ⟨_, _, rfl⟩
  | cancelled => exact ⟨_, _, rfl⟩
  | uncancelled => exact ⟨_, _, rfl⟩
  | refused => exact ⟨_, _, rfl⟩
  | taken => exact ⟨_, _, List.cons_append ..⟩

/-- On a link that is down the next is the last, and it is refused. -/
theorem down (conveyed : Conveyed activity none requested chunks result ms) :
    ∃ signal error, ms = [.said ⟨signal, .error error⟩ none] ∧ result = .error (.link error) := by
  cases conveyed with
  | unfinished _ _ error => exact ⟨_, error, rfl, rfl⟩
  | uncancelled _ _ _ error => exact ⟨_, error, rfl, rfl⟩
  | refused _ _ _ error => exact ⟨_, error, rfl, rfl⟩

/-- After a request to cancel the next is the last, and it is no chunk. -/
theorem cancel (conveyed : Conveyed activity line true chunks result ms) :
    ∃ u, ms = [.said u line] ∧ ∀ chunk, u.signal ≠ .content chunk := by
  cases conveyed with
  | finished => exact ⟨_, rfl, nofun⟩
  | unfinished => exact ⟨_, rfl, nofun⟩
  | cancelled => exact ⟨_, rfl, nofun⟩
  | uncancelled => exact ⟨_, rfl, nofun⟩

/-- Two pauses in one list of moments, with none before the first. -/
theorem split_at_pause {quiet earlier later : List Moment} {first pause : Pause}
    (unpaused : .paused pause ∉ quiet)
    (same : quiet ++ .paused first :: ms = earlier ++ .paused pause :: later) :
    (first = pause ∧ ms = later) ∨ ∃ between, ms = between ++ .paused pause :: later := by
  rcases List.append_eq_append_iff.mp same with ⟨between, -, behind⟩ | ⟨between, front, behind⟩
  · cases between with
    | nil =>
      cases behind
      exact .inl ⟨rfl, rfl⟩
    | cons moment between =>
      cases behind
      exact .inr ⟨between, rfl⟩
  · cases between with
    | nil =>
      cases behind
      exact .inl ⟨rfl, rfl⟩
    | cons moment between =>
      cases behind
      rw [front] at unpaused
      exact absurd (List.mem_append_right _ List.mem_cons_self) unpaused

/-- Behind a pause chunks go out as the pause left the link. -/
theorem behind (conveyed : Conveyed activity line requested chunks result ms) {pause : Pause}
    {earlier later : List Moment} (there : ms = earlier ++ .paused pause :: later) :
    ∃ rest, Conveyed activity pause.after pause.cancelled rest result later := by
  -- Where only one thing is left to say, no pause follows.
  have lone {u : Utterance} {line : Option Nat} {earlier : List Moment}
      (same : [.said u line] = earlier ++ .paused pause :: later) : False := by
    have member : Moment.paused pause ∈ [Moment.said u line] := by
      rw [same]
      exact List.mem_append_right _ List.mem_cons_self
    cases List.mem_singleton.mp member
  induction conveyed generalizing earlier with
  | finished => exact (lone there).elim
  | unfinished => exact (lone there).elim
  | cancelled => exact (lone there).elim
  | uncancelled => exact (lone there).elim
  | refused => exact (lone there).elim
  | @taken connection chunk first rest result asides ms progress further ih =>
    have unpaused : .paused pause ∉ .said ⟨.content chunk, .ok ()⟩ (some connection) :: asides := by
      intro member
      rcases List.mem_cons.mp member with same | aside
      · cases same
      · obtain ⟨_, _, _, _, _, same, -⟩ := progress _ aside
        cases same
    -- The pause is the one behind this chunk, or it comes later.
    rcases split_at_pause unpaused there with ⟨rfl, rfl⟩ | ⟨between, within⟩
    · exact ⟨rest, further⟩
    · exact ih within

end Conveyed

/-! ## Runs that are watched -/

/-- A procedure comes back, and `post` is known of the moments of its run. -/
def Act.Shows (act : Act (Recorded W Sighting) H α) (s : Station (Recorded W Sighting) H)
    (post : α → Station (Recorded W Sighting) H → List Moment → Prop) : Prop :=
  Returns act s fun a t =>
    ∃ ms, t.world.diary = s.world.diary ++ ms.map Moment.sighting ∧ post a t ms

namespace Act

variable {s : Station (Recorded W Sighting) H}

theorem Shows.mono {act : Act (Recorded W Sighting) H α}
    {post wanted : α → Station (Recorded W Sighting) H → List Moment → Prop}
    (shown : Shows act s post) (enough : ∀ a t ms, post a t ms → wanted a t ms) :
    Shows act s wanted :=
  Returns.mono shown fun a t ⟨ms, diary, known⟩ => ⟨ms, diary, enough a t ms known⟩

theorem shows_pure {a : α} {post : α → Station (Recorded W Sighting) H → List Moment → Prop}
    (known : post a s []) : Shows (pure a) s post :=
  returns_pure ⟨[], by simp, known⟩

theorem Shows.bind {act : Act (Recorded W Sighting) H α} {next : α → Act (Recorded W Sighting) H β}
    {between : α → Station (Recorded W Sighting) H → List Moment → Prop}
    {post : β → Station (Recorded W Sighting) H → List Moment → Prop}
    (first : Shows act s between)
    (second : ∀ a t ms, between a t ms → Shows (next a) t fun b u more => post b u (ms ++ more)) :
    Shows (act >>= next) s post := by
  apply Returns.bind first
  rintro a t ⟨ms, diary, there⟩
  apply Returns.mono (second a t ms there)
  rintro b u ⟨more, further, done⟩
  exact ⟨ms ++ more, by rw [further, diary, List.map_append, List.append_assoc], done⟩

theorem Shows.discard {act : Act (Recorded W Sighting) H α}
    {post : List Moment → Prop} (shown : Shows act s fun _ _ ms => post ms) :
    Shows (discard act) s fun _ _ ms => post ms :=
  Returns.discard shown

end Act

namespace Ports.Connecting

variable {ports : Ports W H} {line : W → Option Nat} (connecting : ports.Connecting line)

include connecting

theorem shows_notify (signal : Signal) (s : Station (Recorded W Sighting) H) :
    Shows ((ports.watched line).notify signal.bytes) s fun answer _ ms =>
      ms = [.said ⟨signal, answer⟩ (line s.world.world)] ∧
        (line s.world.world = none → ∃ error, answer = .error error) := by
  apply returns_world
  apply (returns_lift (connecting.notify signal.bytes _)).bind
  rintro answer t ⟨refused, silent⟩
  apply returns_note
  apply returns_pure
  refine ⟨_, ?_, rfl, refused⟩
  simp [Station.record, silent, Moment.sighting]

/-- A pause leaves the link and the request to cancel as its entry says. -/
theorem shows_sleep (time : Nat) (s : Station (Recorded W Sighting) H) :
    Shows ((ports.watched line).sleep time) s fun _ t ms =>
      ms = [.paused ⟨line s.world.world, line t.world.world, t.endpoint.cancelRequested⟩] := by
  apply returns_world
  apply (returns_lift (connecting.sleep time _)).bind
  rintro _ t ⟨-, silent⟩
  -- The entry is written behind the pause, from the station that the pause leaves.
  apply returns_world
  apply returns_endpoint
  refine ⟨(), _, rfl, _, ?_, rfl⟩
  simp [silent, Moment.sighting]

theorem shows_freeBytes (s : Station (Recorded W Sighting) H) :
    Shows (ports.watched line).freeBytes s fun _ _ ms => ms = [] :=
  (returns_lift (connecting.freeBytes _)).mono fun _ _ known => ⟨[], by simp [known.2], rfl⟩

theorem shows_allocate (pool : Pool) (size : Nat) (s : Station (Recorded W Sighting) H) :
    Shows ((ports.watched line).allocate pool size) s fun _ _ ms => ms = [] :=
  (returns_lift (connecting.allocate pool size _)).mono fun _ _ known => ⟨[], by simp [known.2], rfl⟩

theorem shows_deliver (signal : Signal) (s : Station (Recorded W Sighting) H) :
    Shows (deliver (ports.watched line) signal.bytes) s fun result _ ms =>
      (result = .ok () ∧ ∃ connection, line s.world.world = some connection ∧
        ms = [.said ⟨signal, .ok ()⟩ (some connection)]) ∨
      ∃ error, result = .error (.link error) ∧
        ms = [.said ⟨signal, .error error⟩ (line s.world.world)] := by
  apply Returns.bind (connecting.shows_notify signal s)
  rintro answer t ⟨ms, diary, rfl, refused⟩
  cases answer with
  | ok =>
    cases place : line s.world.world with
    | none =>
      obtain ⟨error, impossible⟩ := refused place
      cases impossible
    | some connection =>
      rw [place] at diary
      exact returns_pure ⟨_, diary, .inl ⟨rfl, connection, rfl, rfl⟩⟩
  | error error => exact returns_pure ⟨_, diary, .inr ⟨error, rfl, rfl⟩⟩

/-! ## The procedures of sending -/

theorem shows_notifyAll (signals : List Signal) (s : Station (Recorded W Sighting) H) :
    Shows (notifyAll (ports.watched line) (signals.map Signal.bytes)) s fun _ _ ms =>
      ∃ us, Recited signals us ∧ ms.map Moment.utterance? = us.map some := by
  induction signals generalizing s with
  | nil => exact shows_pure ⟨[], .done, rfl⟩
  | cons signal rest ih =>
    apply (connecting.shows_notify signal s).bind
    rintro answer t ms ⟨rfl, -⟩
    cases answer with
    | ok =>
      apply (ih t).mono
      rintro _ _ more ⟨us, further, same⟩
      refine ⟨⟨signal, .ok ()⟩ :: us, .taken signal further, ?_⟩
      rw [List.map_append, same]
      rfl
    | error error => exact shows_pure ⟨[⟨signal, .error error⟩], .refused signal _ error, rfl⟩

theorem shows_sendInline (message kind : String) (s : Station (Recorded W Sighting) H) :
    Shows (sendInline (ports.watched line) message kind) s fun _ _ ms =>
      InlineMoments message kind ms := by
  apply returns_sendInline
  intro size cut
  apply (connecting.shows_notifyAll _ s).mono
  rintro _ _ ms ⟨us, recited, same⟩
  have room : 1 ≤ maxChunk := by decide
  exact ⟨us, ⟨size, by omega, by omega, recited⟩, same⟩

theorem shows_answerBusy (s : Station (Recorded W Sighting) H) :
    Shows (answerBusy (ports.watched line)) s fun _ _ ms =>
      ms = [] ∨ InlineMoments "Transmission busy" "busy" ms := by
  apply returns_step
  split
  next => exact (connecting.shows_sendInline _ _ _).mono fun _ _ _ given => .inr given
  next => exact shows_pure (.inl rfl)

theorem shows_refuse {γ : Type} (error : SendError) (message kind : String)
    (s : Station (Recorded W Sighting) H) :
    Shows (refuse (ports.watched line) error message kind : Act _ _ (Except SendError γ)) s
      fun result _ ms => result = .error error ∧ InlineMoments message kind ms := by
  apply (connecting.shows_sendInline message kind s).bind
  intro _ t ms given
  exact shows_pure ⟨rfl, by simpa using given⟩

theorem shows_progressAt (stream : Stream) (sent threshold : Nat)
    (s : Station (Recorded W Sighting) H) :
    Shows (progressAt (ports.watched line) stream sent threshold) s fun _ _ ms =>
      ∀ aside ∈ ms, ∃ u line reported done total, aside = .said u line ∧
        stream.activity = some reported ∧ u.signal = .progress reported done total := by
  unfold progressAt
  split
  next activity reported _ =>
    dsimp only
    split
    next =>
      have aside : Shows (discard (reportProgress (ports.watched line) activity sent stream.total))
          s fun _ _ ms => ∀ aside ∈ ms, ∃ u line reported done total, aside = .said u line ∧
            stream.activity = some reported ∧ u.signal = .progress reported done total := by
        apply Shows.discard
        apply (connecting.shows_deliver (.progress activity sent stream.total) s).mono
        rintro _ _ ms (⟨-, connection, -, rfl⟩ | ⟨error, -, rfl⟩)
        · simp [reported]
        · simp [reported]
      apply aside.bind
      intro _ t ms known
      exact shows_pure (by simpa using known)
    next => exact shows_pure (by simp)
  next => exact shows_pure (by simp)

theorem shows_sendChunk {chunk : Bytes} (small : chunk.length ≤ maxChunk)
    (s : Station (Recorded W Sighting) H) :
    Shows (sendChunk (ports.watched line) chunk) s fun result _ ms =>
      (result = .ok () ∧ ∃ connection, line s.world.world = some connection ∧
        ms = [.said ⟨.content chunk, .ok ()⟩ (some connection)]) ∨
      ∃ error, result = .error (.link error) ∧
        ms = [.said ⟨.content chunk, .error error⟩ (line s.world.world)] := by
  unfold sendChunk
  rw [if_neg (Nat.not_lt.mpr small)]
  apply (connecting.shows_deliver (.content chunk) s).bind
  rintro result t ms (⟨rfl, connection, place, rfl⟩ | ⟨error, rfl, rfl⟩)
  · exact returns_modifyEndpoint (shows_pure (.inl ⟨rfl, connection, place, rfl⟩))
  · exact shows_pure (.inr ⟨error, rfl, rfl⟩)

theorem shows_breakOff (s : Station (Recorded W Sighting) H) (activity : Option Activity)
    (chunk : Bytes) (rest : List Bytes) :
    Shows (breakOff (ports.watched line)) s fun result _ ms =>
      Conveyed activity (line s.world.world) true (chunk :: rest) result ms := by
  apply (connecting.shows_deliver .cancelled s).bind
  rintro result t ms (⟨rfl, connection, place, rfl⟩ | ⟨error, rfl, rfl⟩)
  · rw [place]
    exact shows_pure (.cancelled connection chunk rest)
  · exact shows_pure (.uncancelled _ chunk rest error)

theorem shows_sendChunks (stream : Stream) (chunks : List Bytes)
    (small : ∀ chunk ∈ chunks, chunk.length ≤ maxChunk) (sent threshold : Nat)
    (s : Station (Recorded W Sighting) H) :
    Shows (sendChunks (ports.watched line) stream chunks sent threshold) s fun result _ ms =>
      Conveyed stream.activity (line s.world.world) s.endpoint.cancelRequested chunks result ms := by
  -- Each round starts from the station that the pause before it left.
  induction chunks generalizing sent threshold s with
  | nil =>
    apply (connecting.shows_deliver .finished s).mono
    rintro result t ms (⟨rfl, connection, place, rfl⟩ | ⟨error, rfl, rfl⟩)
    · rw [place]
      exact .finished connection _
    · exact .unfinished _ _ error
  | cons chunk rest ih =>
    apply returns_step
    cases request : s.endpoint.cancelRequested with
    | true => exact connecting.shows_breakOff _ stream.activity chunk rest
    | false =>
      apply (connecting.shows_sendChunk (small chunk List.mem_cons_self) _).bind
      rintro result t ms (⟨rfl, connection, place, rfl⟩ | ⟨error, rfl, rfl⟩)
      · apply (connecting.shows_progressAt stream _ threshold t).bind
        intro threshold u asides progress
        apply (connecting.shows_sleep stream.plan.delay u).bind
        rintro _ v ms rfl
        have onward := ih (fun other member => small other (List.mem_cons_of_mem _ member))
          (sent + chunk.length) threshold v
        apply onward.mono
        intro result _ more further
        have taken := Conveyed.taken connection chunk
          ⟨line u.world.world, line v.world.world, v.endpoint.cancelRequested⟩ progress further
        have here : line s.world.world = some connection := place
        rw [here]
        simpa using taken
      · exact shows_pure (.refused _ chunk rest error)

theorem shows_allocateBlock (size : Nat) (s : Station (Recorded W Sighting) H) :
    Shows (CommandLink.allocate (ports.watched line) size) s fun granted _ ms =>
      ms = [] ∧ ∀ block ∈ granted, block.written = [] := by
  apply (connecting.shows_allocate .primary size s).bind
  rintro granted t ms rfl
  split
  next => exact shows_pure ⟨rfl, by simp⟩
  next =>
    apply (connecting.shows_allocate .secondary size t).bind
    rintro granted u ms rfl
    split
    next => exact returns_modifyEndpoint (shows_pure ⟨rfl, by simp⟩)
    next => exact shows_pure ⟨rfl, by simp⟩

section Documents

variable (document : Document) (activity : Option Activity)

theorem shows_prepare (s : Station (Recorded W Sighting) H) :
    Shows (prepare (ports.watched line) document) s fun result _ ms =>
      (∃ payload, result = .ok payload ∧ document.written = some payload ∧ ms = []) ∨
        ∃ error, result = .error error ∧
          (ms = [] ∨ ∃ message kind, InlineMoments message kind ms) := by
  have refused (error : SendError) (message kind : String) (t : Station (Recorded W Sighting) H) :
      Shows (refuse (ports.watched line) error message kind : Act _ _ (Except SendError Bytes)) t
        fun result _ ms =>
          (∃ payload, result = .ok payload ∧ document.written = some payload ∧ ms = []) ∨
            ∃ error, result = .error error ∧
              (ms = [] ∨ ∃ message kind, InlineMoments message kind ms) :=
    (connecting.shows_refuse error message kind t).mono fun _ _ _ known =>
      .inr ⟨error, known.1, .inr ⟨_, _, known.2⟩⟩
  apply returns_endpoint
  cases document.serializedLength with
  | error error => exact shows_pure (.inr ⟨error, rfl, .inl rfl⟩)
  | ok total =>
    dsimp only
    split
    next => exact refused _ _ _ s
    next =>
      apply (connecting.shows_freeBytes s).bind
      rintro free t ms rfl
      split
      next => exact refused _ _ _ t
      next =>
        apply (connecting.shows_allocateBlock _ t).bind
        rintro block u ms ⟨rfl, empty⟩
        cases block with
        | none => exact refused _ _ _ u
        | some block =>
          cases filled : document.fill block with
          | error error => exact shows_pure (.inr ⟨error, filled, .inl rfl⟩)
          | ok payload =>
            have written := Document.written_of_fill (empty block rfl) filled
            exact shows_pure (.inl ⟨payload, filled, written, rfl⟩)

theorem shows_sendPayload {payload : Bytes} (written : document.written = some payload)
    (s : Station (Recorded W Sighting) H) :
    Shows (sendPayload (ports.watched line) payload activity) s fun result _ ms =>
      Crossing document activity result ms := by
  have bounds := s.endpoint.state.chunkSize_bounds (ports.mtu s.world.world)
  apply returns_currentChunk
  apply (connecting.shows_freeBytes s).bind
  rintro free t ms rfl
  apply returns_endpoint
  obtain ⟨plan, planned⟩ : ∃ plan, plan = t.endpoint.settings.plan payload.length free
      (s.endpoint.chunkSize ((ports.watched line).mtu s.world)) := ⟨_, rfl⟩
  have cut := Bytes.pieces_max_one plan.chunkSize payload
  have chunks : ∀ chunk ∈ Bytes.pieces plan.chunkSize payload, chunk.length ≤ maxChunk := by
    rw [planned]
    exact t.endpoint.settings.length_le_of_mem_planned _ _
      (Nat.lt_of_lt_of_le (by decide) bounds.1) payload
  have shown : ∀ (stream : Stream) (threshold : Nat) (u : Station (Recorded W Sighting) H),
      stream.activity = activity →
      Shows (sendChunks (ports.watched line) stream (Bytes.pieces plan.chunkSize payload) 0
        threshold) u fun result _ ms => Crossing document activity result ms := by
    intro stream threshold u same
    apply (connecting.shows_sendChunks stream _ chunks 0 threshold u).mono
    intro result _ ms conveyed
    rw [same, ← cut] at conveyed
    exact .sent written (by omega) conveyed
  dsimp only
  rw [← planned]
  split
  next => exact returns_modifyEndpoint (shown _ _ _ rfl)
  next => exact shown _ _ _ rfl

theorem shows_transmit (s : Station (Recorded W Sighting) H) :
    Shows (transmit (ports.watched line) document activity) s fun result _ ms =>
      Crossing document activity result ms := by
  apply (connecting.shows_prepare document s).bind
  rintro result t ms (⟨payload, rfl, written, rfl⟩ | ⟨error, rfl, given⟩)
  · exact connecting.shows_sendPayload document activity written t
  · exact shows_pure (.unsent error (by simpa using given))

/-- A document passes, and a "busy" answer may come behind it. -/
theorem shows_send (s : Station (Recorded W Sighting) H) :
    Shows (send (ports.watched line) document activity) s fun result _ ms =>
      ∃ stream busy, ms = stream ++ busy ∧ Crossing document activity result stream ∧
        (busy = [] ∨ InlineMoments "Transmission busy" "busy" busy) := by
  apply returns_modifyEndpoint
  apply Returns.ensuring
  apply returns_endpoint
  split
  next =>
    -- Someone else is sending: word is left, and nothing is said.
    apply returns_modifyEndpoint
    exact shows_pure ⟨[], [], rfl, .unsent _ (.inl rfl), .inl rfl⟩
  next =>
    apply returns_modifyEndpoint
    apply Returns.ensuring
    apply (connecting.shows_transmit document activity _).bind
    intro result t stream crossing
    apply returns_modifyEndpoint
    apply (connecting.shows_answerBusy _).bind
    intro _ u busy answer
    exact shows_pure ⟨stream, busy, by simp, crossing, answer⟩

end Documents

end Ports.Connecting

/-! ## The end of a document -/

/-- Whichever pauses of a document the link goes down and comes up in: when it is down at the
end of one, the next notification is refused and is the last of the document, and when a request
to cancel is waiting, the next notification is the last and no chunk. Otherwise nobody looks
whether the link is still on the same connection. What is next goes to the one that is up. -/
theorem link_down_ends_document {ports : Ports W H} {line : W → Option Nat}
    (connecting : ports.Connecting line) (document : Document) (activity : Option Activity)
    (s : Station W H) :
    Returns (send (ports.watched line) document activity) ⟨s.endpoint, { world := s.world }⟩
      fun result t => ∃ stream busy,
        t.world.diary = (stream ++ busy).map Moment.sighting ∧
        Crossing document activity result stream ∧
        (busy = [] ∨ InlineMoments "Transmission busy" "busy" busy) ∧
        ∀ earlier pause later, stream = earlier ++ .paused pause :: later →
          (∃ u rest, later = .said u pause.after :: rest) ∧
          (pause.after = none → ∃ signal error,
            later = [.said ⟨signal, .error error⟩ none] ∧ result = .error (.link error)) ∧
          (pause.cancelled = true → ∃ u,
            later = [.said u pause.after] ∧ ∀ chunk, u.signal ≠ .content chunk) := by
  apply Returns.mono (connecting.shows_send document activity _)
  rintro result t ⟨_, diary, stream, busy, rfl, crossing, answer⟩
  refine ⟨stream, busy, diary, crossing, answer, ?_⟩
  intro earlier pause later there
  cases crossing with
  | unsent error given =>
    -- There is no pause in an inline error.
    have member : Moment.paused pause ∈ stream := by
      rw [there]
      exact List.mem_append_right _ List.mem_cons_self
    rcases given with rfl | ⟨message, kind, given⟩
    · cases member
    · exact absurd member (given.unpaused pause)
  | sent written positive conveyed =>
    obtain ⟨rest, onward⟩ := conveyed.behind there
    refine ⟨onward.begins, ?_, ?_⟩
    · intro down
      rw [down] at onward
      exact onward.down
    · intro cancelled
      rw [cancelled] at onward
      exact onward.cancel

/-- A link, with how many pauses there were. -/
structure Switchboard where
  connection : Option Nat := some 1
  pauses : Nat := 0

/-- Ports of a link that is lost in the second pause. At the end of the pause it is as `later`
says. -/
def lossyPorts (later : Option Nat) : Ports Switchboard Empty where
  notify _ := do
    match (← world).connection with
    | some _ => return .ok ()
    | none => return .error .notConnected
  requestMtu _ := return .ok ()
  restartAdvertising := pure ()
  mtu _ := 23
  now _ := 0
  sleep _ := do
    let pauses := (← world).pauses + 1
    modifyWorld fun world => { world with pauses }
    if pauses = 2 then
      modifyWorld fun world => { world with connection := later }
      modifyEndpoint (·.linkDown)
      if later.isSome then
        modifyEndpoint (·.linkUp)
  randomBelow _ := return 0
  freeBytes := return 262144
  minFreeBytes _ := 262144
  allocate _ _ := return true
  handle handler _ := nomatch handler
  hasTelemetry _ := false
  nextTelemetry := return none
  rounds := 0

theorem lossyPorts_connecting (later : Option Nat) :
    (lossyPorts later).Connecting Switchboard.connection where
  notify bytes := by
    rintro ⟨endpoint, connection, pauses⟩
    cases connection with
    | none => exact ⟨_, _, rfl, fun _ => ⟨_, rfl⟩⟩
    | some connection => exact ⟨_, _, rfl, nofun⟩
  sleep time := by
    rintro ⟨endpoint, connection, pauses⟩
    have moved (change : Switchboard → Switchboard) (s : Station Switchboard Empty) :
        Returns (modifyWorld change) s fun _ _ => True := ⟨(), _, rfl, trivial⟩
    apply returns_world
    apply (moved _ _).bind
    intro _ s _
    split
    next =>
      apply (moved _ _).bind
      intro _ s _
      apply returns_modifyEndpoint
      split
      next => exact ⟨(), _, rfl, trivial⟩
      next => exact ⟨(), _, rfl, trivial⟩
    next => exact ⟨(), _, rfl, trivial⟩
  freeBytes s := ⟨_, s, rfl, trivial⟩
  allocate _ _ s := ⟨_, s, rfl, trivial⟩

/-- The link is down behind the second pause of a document of three chunks: the third chunk is
refused, and that is all. -/
theorem link_down_ends_document_in_second_pause :
    (lossyPorts none).Connecting Switchboard.connection ∧
      Returns (send ((lossyPorts none).watched Switchboard.connection)
          (.steady (List.replicate 50 97)) none) ⟨.fresh {}, { world := {} }⟩
        fun result t => result = .error (.link .notConnected) ∧
          t.world.diary.filterMap Sighting.aired? =
            [(1, List.replicate 20 97), (1, List.replicate 20 97)] ∧
          ∃ stream busy, t.world.diary = (stream ++ busy).map Moment.sighting ∧
            ∀ earlier pause later, stream = earlier ++ .paused pause :: later →
              pause.after = none → ∃ signal error,
                later = [.said ⟨signal, .error error⟩ none] ∧ result = .error (.link error) := by
  have failed : (exec (send ((lossyPorts none).watched Switchboard.connection)
      (.steady (List.replicate 50 97)) none) ⟨.fresh {}, { world := {} }⟩).1 =
        .ok (.error (.link .notConnected)) := by
    decide +kernel
  have aired : (exec (send ((lossyPorts none).watched Switchboard.connection)
      (.steady (List.replicate 50 97)) none)
        ⟨.fresh {}, { world := {} }⟩).2.world.diary.filterMap Sighting.aired? =
      [(1, List.replicate 20 97), (1, List.replicate 20 97)] := by
    decide +kernel
  obtain ⟨result, t, returned, stream, busy, diary, -, -, behind⟩ :=
    link_down_ends_document (lossyPorts_connecting none) (.steady (List.replicate 50 97)) none
      ⟨.fresh {}, {}⟩
  rw [returned] at failed aired
  refine ⟨lossyPorts_connecting none, result, t, returned, Except.ok.inj failed, aired, stream,
    busy, diary, ?_⟩
  intro earlier pause later there
  exact (behind earlier pause later there).2.1

/-- Another peer is there behind the second pause: it is sent the third chunk, and an end
marker. -/
theorem document_continues_to_new_peer :
    let run := exec (send ((lossyPorts (some 2)).watched Switchboard.connection)
      (.steady (List.replicate 50 97)) none) ⟨.fresh {}, { world := {} }⟩
    run.1 = .ok (.ok ()) ∧
      .paused ⟨some 1, some 2, false⟩ ∈ run.2.world.diary ∧
      run.2.world.diary.filterMap Sighting.aired? =
        [(1, List.replicate 20 97), (1, List.replicate 20 97), (2, List.replicate 10 97),
          (2, endMarker)] := by
  decide +kernel

end CommandLink
