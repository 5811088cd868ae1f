import CommandLink.Proofs.Trail

/-!
# What is notified when a document is sent

Whatever the link answers, and whatever else goes on while a port is called, the
notifications of a document that is sent follow one of a few courses. `Speech` says which:
for every notification what it is for, and what the link answered.

The size of the pieces depends on the link at the moment in which they are cut. `limit`
stands for a bound on it, and holds as long as nothing goes on but what is within `R`.
-/

namespace CommandLink

/-! ## Courses -/

/-- What a call told the peer, or tried to. -/
def Call.told? : Call → Option (Bytes × Except LinkError Unit)
  | .notified bytes answer _ => some (bytes, answer)
  | .slept _ _ => none
  | .readFree _ => none
  | .asked _ _ _ => none

/-- A document is not sent and nothing is said, or an inline error is given instead, or it
is told in chunks of at most `limit` bytes. -/
inductive Course (limit : Nat) (document : Document) (activity : Option Activity) :
    Except SendError Unit → List Utterance → Prop where
  | unsaid (error) : Course limit document activity (.error error) []
  | inline (error message kind) {us} (given : Inline limit message kind us) :
    Course limit document activity (.error error) us
  | told {payload size result us} (written : document.written = some payload)
    (positive : 0 < size) (small : size ≤ limit)
    (telling : Telling activity (Bytes.pieces size payload) result us) :
    Course limit document activity result us

/-- The course of a document, with a "busy" answer behind it if one is owed; or nothing,
when someone else is sending. -/
inductive Speech (limit : Nat) (document : Document) (activity : Option Activity) :
    Except SendError Unit → List Utterance → Prop where
  | locked : Speech limit document activity (.error .lockTimeout) []
  | held {result us busy} (course : Course limit document activity result us)
    (answer : busy = [] ∨ Inline limit "Transmission busy" "busy" busy) :
    Speech limit document activity result (us ++ busy)

theorem Transit.course {limit : Nat} {document : Document} {activity : Option Activity}
    {result : Except SendError Unit} {us : List Utterance} {chunks : List Bytes}
    (transit : Transit limit document activity result us chunks) :
    Course limit document activity result us := by
  cases transit with
  | unsaid error => exact .unsaid error
  | inline error message kind other given => exact .inline error message kind given
  | told written positive small telling => exact .told written positive small telling

/-! ## Runs that tell the peer something -/

variable {W H α β : Type}

/-- The station without its diary. -/
def Station.bare (s : Station (Recorded W Call) H) : Station W H := ⟨s.endpoint, s.world.world⟩

/-- A stretch of a run in which this was said, and nothing went on but what is within `R`. -/
structure Spoken (R : Station W H → Station W H → Prop) (s t : Station (Recorded W Call) H)
    (us : List Utterance) : Prop where
  within : R s.bare t.bare
  told : t.world.diary.filterMap Call.told? =
    s.world.diary.filterMap Call.told? ++ us.map Utterance.told

/-- A procedure comes back, and `post` is known of what it said. -/
def Act.Tells (R : Station W H → Station W H → Prop) (act : Act (Recorded W Call) H α)
    (s : Station (Recorded W Call) H) (post : α → List Utterance → Prop) : Prop :=
  Returns act s fun a t => ∃ us, Spoken R s t us ∧ post a us

open Act

theorem Act.Tells.mono {R : Station W H → Station W H → Prop} {act : Act (Recorded W Call) H α}
    {s : Station (Recorded W Call) H} {post wanted : α → List Utterance → Prop}
    (tells : Tells R act s post) (enough : ∀ a us, post a us → wanted a us) :
    Tells R act s wanted :=
  Returns.mono tells fun a _ ⟨us, spoken, known⟩ => ⟨us, spoken, enough a us known⟩

namespace Bookless

variable {R : Station W H → Station W H → Prop} (bookless : Bookless R)

include bookless

theorem spoken_refl (s : Station (Recorded W Call) H) : Spoken R s s [] :=
  ⟨bookless.refl _, by simp⟩

theorem spoken_trans {s t u : Station (Recorded W Call) H} {us more : List Utterance}
    (first : Spoken R s t us) (second : Spoken R t u more) : Spoken R s u (us ++ more) where
  within := bookless.trans _ _ _ first.within second.within
  told := by rw [second.told, first.told, List.map_append, List.append_assoc]

/-- Nothing is said while the books change. -/
theorem spoken_books (s : Station (Recorded W Call) H) {endpoint : Endpoint H}
    (same : endpoint.withoutBooks = s.endpoint.withoutBooks) :
    Spoken R s { s with endpoint } [] :=
  ⟨bookless.books s.bare endpoint same, by simp⟩

theorem tells_pure {s : Station (Recorded W Call) H} {a : α} {post : α → List Utterance → Prop}
    (known : post a []) : Tells R (Pure.pure a) s post :=
  returns_pure ⟨[], bookless.spoken_refl s, known⟩

theorem tells_bind {act : Act (Recorded W Call) H α} {next : α → Act (Recorded W Call) H β}
    {s : Station (Recorded W Call) H} {between : α → List Utterance → Prop}
    {post : β → List Utterance → Prop} (first : Tells R act s between)
    (second : ∀ a t us, R s.bare t.bare → between a us →
      Tells R (next a) t fun b more => post b (us ++ more)) :
    Tells R (act >>= next) s post := by
  refine Returns.bind first fun a t known => ?_
  obtain ⟨us, spoken, there⟩ := known
  refine Returns.mono (second a t us spoken.within there) fun b u also => ?_
  obtain ⟨more, further, done⟩ := also
  exact ⟨us ++ more, bookless.spoken_trans spoken further, done⟩

/-- A procedure that follows a change of the books. -/
theorem tells_behind {act : Act (Recorded W Call) H α} {s : Station (Recorded W Call) H}
    {post : α → List Utterance → Prop} {endpoint : Endpoint H}
    (same : endpoint.withoutBooks = s.endpoint.withoutBooks)
    (tells : Tells R act { s with endpoint } post) :
    Returns act { s with endpoint } fun a t => ∃ us, Spoken R s t us ∧ post a us := by
  refine Returns.mono tells fun a t known => ?_
  obtain ⟨us, spoken, there⟩ := known
  exact ⟨us, bookless.spoken_trans (bookless.spoken_books s same) spoken, there⟩

theorem tells_modify {change : Endpoint H → Endpoint H} {next : Unit → Act (Recorded W Call) H α}
    {s : Station (Recorded W Call) H} {post : α → List Utterance → Prop}
    (kept : ∀ endpoint, (change endpoint).withoutBooks = endpoint.withoutBooks)
    (tells : Tells R (next ()) { s with endpoint := change s.endpoint } post) :
    Tells R (modifyEndpoint change >>= next) s post :=
  returns_modifyEndpoint (bookless.tells_behind (kept s.endpoint) tells)

theorem tells_ensuring {change : Endpoint H → Endpoint H} {act : Act (Recorded W Call) H α}
    {s : Station (Recorded W Call) H} {post : α → List Utterance → Prop}
    (kept : ∀ endpoint, (change endpoint).withoutBooks = endpoint.withoutBooks)
    (tells : Tells R act s post) : Tells R (Act.ensuring change act) s post := by
  refine Returns.ensuring (Returns.mono tells fun a t known => ?_)
  obtain ⟨us, spoken, there⟩ := known
  have still := bookless.spoken_trans spoken (bookless.spoken_books t (kept t.endpoint))
  rw [List.append_nil] at still
  exact ⟨us, still, there⟩

end Bookless

/-! ## The ports -/

namespace Ports.Within

variable {R : Station W H → Station W H → Prop} {ports : Ports W H} (within : ports.Within R)

include within

theorem tells_notify (signal : Signal) (s : Station (Recorded W Call) H) :
    Tells R (ports.logged.notify signal.bytes) s fun answer us => us = [⟨signal, answer⟩] := by
  refine (returns_lift (within.notify signal.bytes _)).bind fun answer t known => ?_
  obtain ⟨there, silent⟩ := known
  refine returns_endpoint (returns_note (returns_pure ⟨_, ⟨there, ?_⟩, rfl⟩))
  simp [Station.record, silent, Call.told?, Utterance.told]

theorem tells_sleep (time : Nat) (s : Station (Recorded W Call) H) :
    Tells R (ports.logged.sleep time) s fun _ us => us = [] := by
  refine (returns_lift (within.sleep time _)).bind fun _ t known => ?_
  obtain ⟨there, silent⟩ := known
  refine returns_endpoint ⟨(), _, rfl, [], ⟨there, ?_⟩, rfl⟩
  simp [silent, Call.told?]

theorem tells_freeBytes (s : Station (Recorded W Call) H) :
    Tells R ports.logged.freeBytes s fun _ us => us = [] := by
  refine (returns_lift (within.freeBytes _)).bind fun free t known => ?_
  obtain ⟨there, silent⟩ := known
  refine returns_note (returns_pure ⟨[], ⟨there, ?_⟩, rfl⟩)
  simp [Station.record, silent, Call.told?]

theorem tells_allocate (pool : Pool) (size : Nat) (s : Station (Recorded W Call) H) :
    Tells R (ports.logged.allocate pool size) s fun _ us => us = [] := by
  refine (returns_lift (within.allocate pool size _)).bind fun granted t known => ?_
  obtain ⟨there, silent⟩ := known
  refine returns_note (returns_pure ⟨[], ⟨there, ?_⟩, rfl⟩)
  simp [Station.record, silent, Call.told?]

theorem logged : ports.logged.ComeBack where
  notify bytes s := (returns_lift (within.notify bytes s.bare)).bind fun _ _ _ =>
    returns_endpoint (returns_note (returns_pure trivial))
  sleep time s := Returns.mono (within.tells_sleep time s) fun _ _ _ => trivial
  freeBytes s := Returns.mono (within.tells_freeBytes s) fun _ _ _ => trivial
  allocate pool size s := Returns.mono (within.tells_allocate pool size s) fun _ _ _ => trivial

/-- What is written down is no matter to `R`. -/
theorem bare : ports.logged.Within fun s t => R s.bare t.bare where
  notify bytes s := (returns_lift (within.notify bytes s.bare)).bind fun _ _ known =>
    returns_endpoint (returns_note (returns_pure known.1))
  sleep time s := Returns.mono (within.tells_sleep time s) fun _ _ ⟨_, spoken, _⟩ => spoken.within
  freeBytes s := Returns.mono (within.tells_freeBytes s) fun _ _ ⟨_, spoken, _⟩ => spoken.within
  allocate pool size s :=
    Returns.mono (within.tells_allocate pool size s) fun _ _ ⟨_, spoken, _⟩ => spoken.within

end Ports.Within

theorem Bookless.bare {R : Station W H → Station W H → Prop} (bookless : Bookless R) :
    Bookless fun s t : Station (Recorded W Call) H => R s.bare t.bare where
  refl s := bookless.refl s.bare
  trans s t u := bookless.trans s.bare t.bare u.bare
  books s := bookless.books s.bare

/-! ## The procedures of sending -/

/-- Wherever things go from here, pieces have at most `limit` bytes. -/
def Ports.Fitting (ports : Ports W H) (R : Station W H → Station W H → Prop)
    (origin : Station W H) (limit : Nat) : Prop :=
  ∀ m, R origin m → m.endpoint.chunkSize (ports.mtu m.world) ≤ limit

/-- No link takes more. -/
theorem fitting_maxChunk (ports : Ports W H) (R : Station W H → Station W H → Prop)
    (origin : Station W H) : ports.Fitting R origin maxChunk :=
  fun m _ => (m.endpoint.state.chunkSize_bounds (ports.mtu m.world)).2

namespace Bookless

variable {R : Station W H → Station W H → Prop} (bookless : Bookless R) {ports : Ports W H}
  (within : ports.Within R)

include bookless within

/-- What is said on a trail is spoken, and nothing goes on there but what is within `R`. -/
theorem spoken_of_trail {s t : Station (Recorded W Call) H} {us : List Utterance}
    {chunks : List Bytes} (trail : Trail ports.logged s us chunks t) : Spoken R s t us := by
  induction trail with
  | done s => exact bookless.spoken_refl s
  | said signal run _ ih =>
    obtain ⟨_, spoken, rfl⟩ := Returns.of_exec (within.tells_notify signal _) run
    exact bookless.spoken_trans spoken ih
  | slept run _ ih =>
    obtain ⟨_, spoken, rfl⟩ := Returns.of_exec (within.tells_sleep _ _) run
    exact bookless.spoken_trans spoken ih
  | read run _ ih =>
    obtain ⟨_, spoken, rfl⟩ := Returns.of_exec (within.tells_freeBytes _) run
    exact bookless.spoken_trans spoken ih
  | asked run _ ih =>
    obtain ⟨_, spoken, rfl⟩ := Returns.of_exec (within.tells_allocate _ _ _) run
    exact bookless.spoken_trans spoken ih
  | @sent chunk s _ _ _ _ ih =>
    have books : (s.endpoint.count (Counters.sent chunk)).withoutBooks =
        s.endpoint.withoutBooks := rfl
    exact bookless.spoken_trans (bookless.spoken_books s books) ih
  | @booked s _ _ _ endpoint same _ ih =>
    -- All that is left out here is among the books.
    have books : endpoint.withoutBooks = s.endpoint.withoutBooks := by
      have ruled := congrArg Endpoint.withoutBooks same
      exact ruled
    exact bookless.spoken_trans (bookless.spoken_books s books) ih

section Courses

variable {origin : Station W H} {limit : Nat}
  (fits : ports.Fitting R origin limit)
  (document : Document) (activity : Option Activity)

include fits

theorem narrow_of_fitting {s : Station (Recorded W Call) H} (reached : R origin s.bare) :
    ports.logged.Narrow s limit := by
  intro us chunks t trail
  have spoken := bookless.spoken_of_trail within trail
  exact fits t.bare (bookless.trans _ _ _ reached spoken.within)

theorem answerBusy_tells {s : Station (Recorded W Call) H} (reached : R origin s.bare) :
    Tells R (CommandLink.answerBusy ports.logged) s fun _ us =>
      us = [] ∨ Inline limit "Transmission busy" "busy" us := by
  have narrow := bookless.narrow_of_fitting within fits reached
  apply Returns.mono (within.logged.answerBusy_follows narrow)
  rintro _ t ⟨us, chunks, trail, answer, -⟩
  exact ⟨us, bookless.spoken_of_trail within trail, answer⟩

theorem transmit_tells {s : Station (Recorded W Call) H} (reached : R origin s.bare) :
    Tells R (CommandLink.transmit ports.logged document activity) s fun result us =>
      Course limit document activity result us := by
  apply Returns.mono (within.logged.transmit_follows document activity
    (bookless.narrow_of_fitting within fits reached))
  rintro result t ⟨us, chunks, trail, transit⟩
  exact ⟨us, bookless.spoken_of_trail within trail, transit.course⟩

/-- Around what is known of a document that goes out, there is a "busy" answer behind it if one is
owed; and when someone else is sending, nothing goes out. -/
theorem sendHeld_tells_around {post : Except SendError Unit → List Utterance → Prop}
    (transmitted : ∀ s : Station (Recorded W Call) H, R origin s.bare →
      Tells R (CommandLink.transmit ports.logged document activity) s post)
    {s : Station (Recorded W Call) H} (reached : R origin s.bare) :
    Tells R (CommandLink.sendHeld ports.logged document activity) s fun result said =>
      (result = .error .lockTimeout ∧ said = []) ∨ ∃ us busy, post result us ∧
        (busy = [] ∨ Inline limit "Transmission busy" "busy" busy) ∧ said = us ++ busy := by
  refine returns_endpoint ?_
  split
  next => exact bookless.tells_modify (fun _ => rfl) (bookless.tells_pure (.inl ⟨rfl, rfl⟩))
  next =>
    refine bookless.tells_modify (fun _ => rfl) (bookless.tells_ensuring (fun _ => rfl) ?_)
    -- The lock and the counters are kept in the books, which are no matter to `R`.
    have locked : R origin (Station.bare
        { s with endpoint := { s.endpoint with sending := true, cancelRequested := false } }) :=
      bookless.trans _ _ _ reached (bookless.books s.bare _ rfl)
    refine bookless.tells_bind (transmitted _ locked) fun result t us further known => ?_
    refine bookless.tells_modify (Endpoint.withoutBooks_tally result) ?_
    have counted : R origin (Station.bare
        { t with endpoint := t.endpoint.count (Counters.tally result) }) :=
      bookless.trans _ _ _ locked (bookless.trans _ _ _ further
        (bookless.books t.bare _ (Endpoint.withoutBooks_tally result t.endpoint)))
    refine bookless.tells_bind (bookless.answerBusy_tells within fits counted)
      fun _ u busy _ answer => ?_
    exact bookless.tells_pure (.inr ⟨us, busy, known, answer, by rw [List.append_nil]⟩)

theorem send_tells_around {post : Except SendError Unit → List Utterance → Prop}
    (transmitted : ∀ s : Station (Recorded W Call) H, R origin s.bare →
      Tells R (CommandLink.transmit ports.logged document activity) s post)
    {s : Station (Recorded W Call) H} (reached : R origin s.bare) :
    Tells R (CommandLink.send ports.logged document activity) s fun result said =>
      (result = .error .lockTimeout ∧ said = []) ∨ ∃ us busy, post result us ∧
        (busy = [] ∨ Inline limit "Transmission busy" "busy" busy) ∧ said = us ++ busy := by
  refine bookless.tells_modify (fun _ => rfl) (bookless.tells_ensuring (fun _ => rfl) ?_)
  have counted : R origin (Station.bare
      { s with endpoint := { s.endpoint with inFlight := s.endpoint.inFlight + 1 } }) :=
    bookless.trans _ _ _ reached (bookless.books s.bare _ rfl)
  exact bookless.sendHeld_tells_around within fits document activity transmitted counted

/-- A document that is sent is a speech. -/
theorem send_tells {s : Station (Recorded W Call) H} (reached : R origin s.bare) :
    Tells R (CommandLink.send ports.logged document activity) s fun result us =>
      Speech limit document activity result us := by
  have transmitted (s : Station (Recorded W Call) H) (reached : R origin s.bare) :=
    bookless.transmit_tells within fits document activity reached
  apply (bookless.send_tells_around within fits document activity transmitted reached).mono
  rintro result _ (⟨rfl, rfl⟩ | ⟨us, busy, course, answer, rfl⟩)
  · exact .locked
  · exact .held course answer

end Courses

end Bookless

end CommandLink
