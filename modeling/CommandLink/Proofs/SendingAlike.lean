import CommandLink.Endpoint.Sending
import CommandLink.Proofs.Calls

/-!
# Two runs side by side

Two procedures on two stations run abreast when they end in the same way: both come back, or
both crash with the same message. They are alike under a relation on stations when they run
abreast from any related stations, come to alike results, and leave related stations.

Sending is alike on two stations as soon as their ports are. What it reads of a station is
little, and a relation that says so is a `Likeness`. Whether a request to cancel is waiting
does not count before the lock is taken, since whoever takes it drops the request; so there
is one relation for outside and a closer one for inside the lock. Whoever holds the lock reads
still less until the document is done (`Semblance`): not whether a "busy" answer is owed, and
no counter.

What holds before and behind every run of a procedure is a relation of two equal stations, so
that it too is shown by what is alike (`Keeps`).
-/

namespace CommandLink

variable {W V H G α β γ δ : Type}

namespace Act

/-- Two procedures end in the same way, and this is known of how they left their stations. -/
def Abreast (f : Act W H α) (g : Act V G β) (a : Station W H) (b : Station V G)
    (known : α → β → Station W H → Station V G → Prop)
    (crashed : Station W H → Station V G → Prop) : Prop :=
  (∃ x y s t, exec f a = (.ok x, s) ∧ exec g b = (.ok y, t) ∧ known x y s t) ∨
    ∃ crash s t, exec f a = (.error crash, s) ∧ exec g b = (.error crash, t) ∧ crashed s t

namespace Abreast

variable {f : Act W H α} {g : Act V G β} {a : Station W H} {b : Station V G}
  {crashed : Station W H → Station V G → Prop}

theorem bind {between : α → β → Station W H → Station V G → Prop} {f' : α → Act W H γ}
    {g' : β → Act V G δ} {known : γ → δ → Station W H → Station V G → Prop}
    (first : Abreast f g a b between crashed)
    (second : ∀ x y s t, between x y s t → Abreast (f' x) (g' y) s t known crashed) :
    Abreast (f >>= f') (g >>= g') a b known crashed := by
  rcases first with ⟨x, y, s, t, left, right, there⟩ | ⟨crash, s, t, left, right, there⟩
  · rw [Abreast, exec_bind_of_ok left, exec_bind_of_ok right]
    exact second x y s t there
  · refine .inr ⟨crash, s, t, ?_, ?_, there⟩
    · rw [exec_bind, left]
    · rw [exec_bind, right]

theorem mono {known wanted : α → β → Station W H → Station V G → Prop}
    {fallen : Station W H → Station V G → Prop} (abreast : Abreast f g a b known crashed)
    (enough : ∀ x y s t, known x y s t → wanted x y s t)
    (anyway : ∀ s t, crashed s t → fallen s t) : Abreast f g a b wanted fallen := by
  rcases abreast with ⟨x, y, s, t, left, right, there⟩ | ⟨crash, s, t, left, right, there⟩
  · exact .inl ⟨x, y, s, t, left, right, enough x y s t there⟩
  · exact .inr ⟨crash, s, t, left, right, anyway s t there⟩

theorem ensuring {change : Endpoint H → Endpoint H} {change' : Endpoint G → Endpoint G}
    {known : α → β → Station W H → Station V G → Prop}
    (abreast : Abreast f g a b
      (fun x y s t => known x y { s with endpoint := change s.endpoint }
        { t with endpoint := change' t.endpoint })
      fun s t => crashed { s with endpoint := change s.endpoint }
        { t with endpoint := change' t.endpoint }) :
    Abreast (ensuring change f) (ensuring change' g) a b known crashed := by
  rcases abreast with ⟨x, y, s, t, left, right, there⟩ | ⟨crash, s, t, left, right, there⟩
  · refine .inl ⟨x, y, _, _, ?_, ?_, there⟩
    · rw [exec_ensuring, left]
    · rw [exec_ensuring, right]
  · refine .inr ⟨crash, _, _, ?_, ?_, there⟩
    · rw [exec_ensuring, left]
    · rw [exec_ensuring, right]

theorem modify {change : Endpoint H → Endpoint H} {change' : Endpoint G → Endpoint G}
    {f : Unit → Act W H γ} {g : Unit → Act V G δ}
    {known : γ → δ → Station W H → Station V G → Prop}
    (rest : Abreast (f ()) (g ()) { a with endpoint := change a.endpoint }
      { b with endpoint := change' b.endpoint } known crashed) :
    Abreast (modifyEndpoint change >>= f) (modifyEndpoint change' >>= g) a b known crashed := rest

end Abreast

/-- Two procedures run abreast from related stations. They leave related stations, also when
they crash, and their results are related. -/
def Alike (R : Station W H → Station V G → Prop) (Q : α → β → Prop) (f : Act W H α)
    (g : Act V G β) : Prop :=
  ∀ a b, R a b → Abreast f g a b (fun x y s t => Q x y ∧ R s t) R

section Alike

variable {R : Station W H → Station V G → Prop} {Q : α → β → Prop} {P : γ → δ → Prop}

theorem alike_pure {x : α} {y : β} (related : Q x y) :
    Alike R Q (pure x : Act W H α) (pure y : Act V G β) :=
  fun a b there => .inl ⟨x, y, a, b, rfl, rfl, related, there⟩

theorem Alike.bind {f : Act W H α} {g : Act V G β} {f' : α → Act W H γ} {g' : β → Act V G δ}
    (first : Alike R Q f g) (second : ∀ x y, Q x y → Alike R P (f' x) (g' y)) :
    Alike R P (f >>= f') (g >>= g') := by
  intro a b there
  apply (first a b there).bind
  intro x y s t ⟨related, still⟩
  exact second x y related s t still

/-- Behind the same result, both go on from it. -/
theorem Alike.bind_same {f : Act W H α} {g : Act V G α} {f' : α → Act W H γ} {g' : α → Act V G δ}
    (first : Alike R Eq f g) (second : ∀ x, Alike R P (f' x) (g' x)) :
    Alike R P (f >>= f') (g >>= g') := by
  apply first.bind
  rintro x _ rfl
  exact second x

theorem Alike.discard {f : Act W H α} {g : Act V G β} (alike : Alike R Q f g) :
    Alike R Eq (discard f) (discard g) := by
  intro a b there
  change Abreast (f >>= fun _ => pure ()) (g >>= fun _ => pure ()) a b _ _
  exact alike.bind (fun _ _ _ => alike_pure rfl) a b there

theorem alike_endpoint {f : Endpoint H → Act W H γ} {g : Endpoint G → Act V G δ}
    (rest : ∀ a b, R a b → Alike R P (f a.endpoint) (g b.endpoint)) :
    Alike R P (endpoint >>= f) (endpoint >>= g) :=
  fun a b there => rest a b there a b there

theorem alike_world {f : W → Act W H γ} {g : V → Act V G δ}
    (rest : ∀ a b, R a b → Alike R P (f a.world) (g b.world)) :
    Alike R P (world >>= f) (world >>= g) :=
  fun a b there => rest a b there a b there

theorem alike_modify {change : Endpoint H → Endpoint H} {change' : Endpoint G → Endpoint G}
    (kept : ∀ a b, R a b → R { a with endpoint := change a.endpoint }
      { b with endpoint := change' b.endpoint }) :
    Alike R Eq (modifyEndpoint change) (modifyEndpoint change') :=
  fun a b there => .inl ⟨(), (), _, _, rfl, rfl, rfl, kept a b there⟩

theorem alike_step {change : Endpoint H → α × Endpoint H} {change' : Endpoint G → β × Endpoint G}
    (kept : ∀ a b, R a b → Q (change a.endpoint).1 (change' b.endpoint).1 ∧
      R { a with endpoint := (change a.endpoint).2 }
        { b with endpoint := (change' b.endpoint).2 }) :
    Alike R Q (step change) (step change') :=
  fun a b there => .inl ⟨_, _, _, _, rfl, rfl, kept a b there⟩

theorem Alike.ensuring {f : Act W H α} {g : Act V G β} {change : Endpoint H → Endpoint H}
    {change' : Endpoint G → Endpoint G} (alike : Alike R Q f g)
    (kept : ∀ a b, R a b → R { a with endpoint := change a.endpoint }
      { b with endpoint := change' b.endpoint }) :
    Alike R Q (ensuring change f) (ensuring change' g) := by
  intro a b there
  apply Abreast.ensuring
  apply (alike a b there).mono
  · intro x y s t ⟨related, still⟩
    exact ⟨related, kept s t still⟩
  · exact kept

/-- Worlds with diaries are related as the worlds in them are, and as the diaries are, which
nobody writes into. -/
theorem lift_alike {E : Type} {S : Station (Recorded W E) H → Station (Recorded V E) G → Prop}
    {f : Act W H α} {g : Act V G β}
    (within : ∀ a b, S a b → R ⟨a.endpoint, a.world.world⟩ ⟨b.endpoint, b.world.world⟩)
    (around : ∀ a b s t, S a b → R s t → S ⟨s.endpoint, { a.world with world := s.world }⟩
      ⟨t.endpoint, { b.world with world := t.world }⟩)
    (alike : Alike R Q f g) : Alike S Q (lift f) (lift g) := by
  intro a b there
  rcases alike _ _ (within a b there) with
    ⟨x, y, s, t, left, right, related, still⟩ | ⟨crash, s, t, left, right, still⟩
  · rw [Abreast, exec_lift, exec_lift, left, right]
    exact .inl ⟨x, y, _, _, rfl, rfl, related, around a b s t there still⟩
  · rw [Abreast, exec_lift, exec_lift, left, right]
    exact .inr ⟨crash, _, _, rfl, rfl, around a b s t there still⟩

/-- Whatever becomes of a procedure, what held before it holds behind it. -/
def Keeps (I : Station W H → Prop) (act : Act W H α) : Prop := ∀ s, I s → I (exec act s).2

theorem Keeps.alike {I : Station W H → Prop} {act : Act W H α} (keeps : Keeps I act) :
    Alike (fun a b => a = b ∧ I a) Eq act act := by
  rintro a _ ⟨rfl, there⟩
  have still := keeps a there
  cases ended : exec act a with
  | mk result after =>
    rw [ended] at still
    cases result with
    | ok x => exact .inl ⟨x, x, after, after, ended, ended, rfl, rfl, still⟩
    | error crash => exact .inr ⟨crash, after, after, ended, ended, rfl, still⟩

theorem Keeps.of_returns {I : Station W H → Prop} {act : Act W H α}
    (returns : ∀ s, I s → Returns act s fun _ t => I t) : Keeps I act := by
  intro s there
  obtain ⟨a, t, run, still⟩ := returns s there
  rw [run]
  exact still

/-- What is kept is known when a procedure comes back. -/
theorem Keeps.returns {I : Station W H → Prop} {act : Act W H α} {s : Station W H}
    {known : α → Station W H → Prop} (keeps : Keeps I act) (there : I s)
    (returns : Returns act s known) : Returns act s fun a t => known a t ∧ I t := by
  obtain ⟨a, t, run, holds⟩ := returns
  have still := keeps s there
  rw [run] at still
  exact ⟨a, t, run, holds, still⟩

theorem Alike.keeps {I : Station W H → Prop} {act : Act W H α}
    (alike : Alike (fun a b => a = b ∧ I a) Eq act act) : Keeps I act := by
  intro s there
  rcases alike s s ⟨rfl, there⟩ with
    ⟨x, y, t, u, left, -, -, -, still⟩ | ⟨crash, t, u, left, -, -, still⟩
  · rw [left]
    exact still
  · rw [left]
    exact still

end Alike

end Act

open Act

/-! ## What sending reads of two stations -/

/-- Changes of the counters while a document goes out. How transmissions end is not among
them. -/
def Counters.Minor (change : Counters → Counters) : Prop :=
  ∀ c, (change c).transmissionsCompleted = c.transmissionsCompleted ∧
    (change c).transmissionsFailed = c.transmissionsFailed ∧
    (change c).cancellations = c.cancellations ∧ (change c).lockTimeouts = c.lockTimeouts

/-- Nothing that is read while a document goes out tells the two stations from each other, and
what is changed then leaves them related. -/
structure Semblance (p : Ports W H) (q : Ports V G) (R : Station W H → Station V G → Prop) :
    Prop where
  settings : ∀ a b, R a b → a.endpoint.settings = b.endpoint.settings
  chunk : ∀ a b, R a b →
    a.endpoint.chunkSize (p.mtu a.world) = b.endpoint.chunkSize (q.mtu b.world)
  count : ∀ change, Counters.Minor change → ∀ a b, R a b →
    R { a with endpoint := a.endpoint.count change } { b with endpoint := b.endpoint.count change }
  cancel : ∀ a b, R a b → a.endpoint.cancelRequested = b.endpoint.cancelRequested ∧
    R { a with endpoint := { a.endpoint with cancelRequested := false } }
      { b with endpoint := { b.endpoint with cancelRequested := false } }

/-- Outside the lock and inside it, nothing that sending reads tells the two stations from
each other, and its own books leave them related. -/
structure Likeness (p : Ports W H) (q : Ports V G)
    (outside inside : Station W H → Station V G → Prop) : Prop where
  settings : ∀ a b, inside a b → a.endpoint.settings = b.endpoint.settings
  chunk : ∀ a b, inside a b →
    a.endpoint.chunkSize (p.mtu a.world) = b.endpoint.chunkSize (q.mtu b.world)
  count : ∀ change a b, inside a b → inside { a with endpoint := a.endpoint.count change }
    { b with endpoint := b.endpoint.count change }
  cancel : ∀ a b, inside a b → a.endpoint.cancelRequested = b.endpoint.cancelRequested ∧
    inside { a with endpoint := { a.endpoint with cancelRequested := false } }
      { b with endpoint := { b.endpoint with cancelRequested := false } }
  owed : ∀ a b, inside a b → a.endpoint.busyOwed = b.endpoint.busyOwed ∧
    inside { a with endpoint := { a.endpoint with busyOwed := false } }
      { b with endpoint := { b.endpoint with busyOwed := false } }
  sending : ∀ a b, outside a b → a.endpoint.sending = b.endpoint.sending
  flight : ∀ (change : Nat → Nat) a b, outside a b →
    outside { a with endpoint := { a.endpoint with inFlight := change a.endpoint.inFlight } }
      { b with endpoint := { b.endpoint with inFlight := change b.endpoint.inFlight } }
  owe : ∀ change a b, outside a b →
    outside { a with endpoint := { a.endpoint with busyOwed := true }.count change }
      { b with endpoint := { b.endpoint with busyOwed := true }.count change }
  lock : ∀ a b, outside a b →
    inside { a with endpoint := { a.endpoint with sending := true, cancelRequested := false } }
      { b with endpoint := { b.endpoint with sending := true, cancelRequested := false } }
  unlock : ∀ a b, inside a b →
    outside { a with endpoint := { a.endpoint with sending := false } }
      { b with endpoint := { b.endpoint with sending := false } }

/-- The ports that sending uses are alike. -/
structure Ports.SendAlike (p : Ports W H) (q : Ports V G)
    (R : Station W H → Station V G → Prop) : Prop where
  notify : ∀ bytes, Alike R Eq (p.notify bytes) (q.notify bytes)
  sleep : ∀ time, Alike R Eq (p.sleep time) (q.sleep time)
  freeBytes : Alike R Eq p.freeBytes q.freeBytes
  allocate : ∀ pool size, Alike R Eq (p.allocate pool size) (q.allocate pool size)

/-! ## The procedures of sending -/

section Notify

variable {p : Ports W H} {q : Ports V G} {R : Station W H → Station V G → Prop}
  (notify : ∀ bytes, Alike R Eq (p.notify bytes) (q.notify bytes))

include notify

theorem deliver_alike (bytes : Bytes) : Alike R Eq (deliver p bytes) (deliver q bytes) := by
  apply (notify bytes).bind_same
  intro answer
  cases answer with
  | ok => exact alike_pure rfl
  | error error => exact alike_pure rfl

theorem notifyAll_alike (pieces : List Bytes) :
    Alike R Eq (notifyAll p pieces) (notifyAll q pieces) := by
  induction pieces with
  | nil => exact alike_pure rfl
  | cons piece rest ih =>
    apply (notify piece).bind_same
    intro answer
    cases answer with
    | ok => exact ih
    | error error => exact alike_pure rfl

theorem progressAt_alike (stream : Stream) (sent threshold : Nat) :
    Alike R Eq (progressAt p stream sent threshold) (progressAt q stream sent threshold) := by
  unfold progressAt
  split
  next =>
    dsimp only
    split
    next =>
      apply (deliver_alike notify _).discard.bind_same
      intro
      exact alike_pure rfl
    next => exact alike_pure rfl
  next => exact alike_pure rfl

theorem breakOff_alike : Alike R Eq (breakOff p) (breakOff q) := by
  apply (deliver_alike notify cancelledMarker).bind_same
  intro answer
  cases answer with
  | ok => exact alike_pure rfl
  | error error => exact alike_pure rfl

end Notify

namespace Semblance

variable {p : Ports W H} {q : Ports V G} {R : Station W H → Station V G → Prop}
  (semblance : Semblance p q R)

include semblance

theorem currentChunk_alike : Alike R Eq (currentChunk p) (currentChunk q) :=
  fun a b there => .inl ⟨_, _, a, b, rfl, rfl, semblance.chunk a b there, there⟩

theorem count_bind {change : Counters → Counters} {f : Unit → Act W H α} {g : Unit → Act V G β}
    {Q : α → β → Prop} (minor : Counters.Minor change) (rest : Alike R Q (f ()) (g ())) :
    Alike R Q (Act.count change >>= f) (Act.count change >>= g) := by
  apply (alike_modify (semblance.count change minor)).bind_same
  intro
  exact rest

variable (ports : p.SendAlike q R)

include ports

theorem sendInline_alike (message kind : String) :
    Alike R Eq (sendInline p message kind) (sendInline q message kind) := by
  apply semblance.currentChunk_alike.bind_same
  intro chunk
  exact (notifyAll_alike ports.notify _).discard

theorem refuse_alike (error : SendError) (message kind : String) :
    Alike R Eq (refuse p error message kind : Act W H (Except SendError α))
      (refuse q error message kind) := by
  apply (semblance.sendInline_alike ports _ _).bind_same
  intro
  exact alike_pure rfl

theorem sendChunk_alike (chunk : Bytes) : Alike R Eq (sendChunk p chunk) (sendChunk q chunk) := by
  unfold sendChunk
  split
  next => exact alike_pure rfl
  next =>
    apply (deliver_alike ports.notify chunk).bind_same
    intro answer
    cases answer with
    | ok =>
      apply semblance.count_bind
      · exact fun _ => ⟨rfl, rfl, rfl, rfl⟩
      · exact alike_pure rfl
    | error error => exact alike_pure rfl

theorem sendChunks_alike (stream : Stream) (chunks : List Bytes) (sent threshold : Nat) :
    Alike R Eq (sendChunks p stream chunks sent threshold)
      (sendChunks q stream chunks sent threshold) := by
  -- The counts change from round to round, so that they are general.
  induction chunks generalizing sent threshold with
  | nil => exact deliver_alike ports.notify endMarker
  | cons chunk rest ih =>
    apply (alike_step fun a b there => semblance.cancel a b there).bind_same
    intro cancelled
    cases cancelled with
    | true => exact breakOff_alike ports.notify
    | false =>
      apply (semblance.sendChunk_alike ports chunk).bind_same
      intro answer
      cases answer with
      | error error => exact alike_pure rfl
      | ok =>
        apply (progressAt_alike ports.notify stream _ threshold).bind_same
        intro next
        apply (ports.sleep _).bind_same
        intro
        exact ih _ next

theorem allocate_alike (size : Nat) : Alike R Eq (allocate p size) (allocate q size) := by
  apply (ports.allocate .primary size).bind_same
  intro granted
  cases granted with
  | true => exact alike_pure rfl
  | false =>
    apply (ports.allocate .secondary size).bind_same
    intro granted
    cases granted with
    | true =>
      apply semblance.count_bind
      · exact fun _ => ⟨rfl, rfl, rfl, rfl⟩
      · exact alike_pure rfl
    | false => exact alike_pure rfl

theorem prepare_alike (document : Document) :
    Alike R Eq (prepare p document) (prepare q document) := by
  apply alike_endpoint
  intro a b there
  dsimp only
  rw [semblance.settings a b there]
  cases document.serializedLength with
  | error error => exact alike_pure rfl
  | ok total =>
    dsimp only
    split
    next => exact semblance.refuse_alike ports _ _ _
    next =>
      apply ports.freeBytes.bind_same
      intro free
      split
      next => exact semblance.refuse_alike ports _ _ _
      next =>
        apply (semblance.allocate_alike ports _).bind_same
        intro block
        cases block with
        | none => exact semblance.refuse_alike ports _ _ _
        | some block => exact alike_pure rfl

theorem sendPayload_alike (payload : Bytes) (activity : Option Activity) :
    Alike R Eq (sendPayload p payload activity) (sendPayload q payload activity) := by
  apply semblance.currentChunk_alike.bind_same
  intro unit
  apply ports.freeBytes.bind_same
  intro free
  apply alike_endpoint
  intro a b there
  dsimp only
  rw [semblance.settings a b there]
  split
  next =>
    apply semblance.count_bind
    · exact fun _ => ⟨rfl, rfl, rfl, rfl⟩
    · exact semblance.sendChunks_alike ports _ _ _ _
  next => exact semblance.sendChunks_alike ports _ _ _ _

theorem transmit_alike (document : Document) (activity : Option Activity) :
    Alike R Eq (transmit p document activity) (transmit q document activity) := by
  apply (semblance.prepare_alike ports document).bind_same
  intro prepared
  cases prepared with
  | error error => exact alike_pure rfl
  | ok payload => exact semblance.sendPayload_alike ports payload activity

end Semblance

/-! ## What whoever holds the lock keeps -/

/-- What holds of a station whichever minor count is taken, and whoever takes back a request to
cancel or word of a "busy" answer. -/
structure Minor (I : Station W H → Prop) : Prop where
  count : ∀ change, Counters.Minor change → ∀ s, I s →
    I { s with endpoint := s.endpoint.count change }
  cancel : ∀ s, I s → I { s with endpoint := { s.endpoint with cancelRequested := false } }
  owed : ∀ s, I s → I { s with endpoint := { s.endpoint with busyOwed := false } }

/-- The ports that sending uses keep what holds. -/
structure Ports.Keep (ports : Ports W H) (I : Station W H → Prop) : Prop where
  notify : ∀ bytes, Keeps I (ports.notify bytes)
  sleep : ∀ time, Keeps I (ports.sleep time)
  freeBytes : Keeps I ports.freeBytes
  allocate : ∀ pool size, Keeps I (ports.allocate pool size)

namespace Ports.Keep

variable {ports : Ports W H} {I : Station W H → Prop} (keep : ports.Keep I) (minor : Minor I)

include keep in
theorem sendAlike : ports.SendAlike ports fun a b => a = b ∧ I a where
  notify bytes := (keep.notify bytes).alike
  sleep time := (keep.sleep time).alike
  freeBytes := keep.freeBytes.alike
  allocate pool size := (keep.allocate pool size).alike

include minor in
theorem semblance : Semblance ports ports fun a b => a = b ∧ I a where
  settings := by
    rintro a _ ⟨rfl, -⟩
    rfl
  chunk := by
    rintro a _ ⟨rfl, -⟩
    rfl
  count := by
    rintro change small a _ ⟨rfl, there⟩
    exact ⟨rfl, minor.count change small a there⟩
  cancel := by
    rintro a _ ⟨rfl, there⟩
    exact ⟨rfl, rfl, minor.cancel a there⟩

include keep minor

theorem prepare_keeps (document : Document) : Keeps I (prepare ports document) :=
  ((semblance minor).prepare_alike keep.sendAlike document).keeps

theorem transmit_keeps (document : Document) (activity : Option Activity) :
    Keeps I (transmit ports document activity) :=
  ((semblance minor).transmit_alike keep.sendAlike document activity).keeps

theorem answerBusy_keeps : Keeps I (answerBusy ports) := by
  intro s there
  have unowed := minor.owed s there
  change I (exec (if s.endpoint.busyOwed = true then _ else _)
    { s with endpoint := { s.endpoint with busyOwed := false } }).2
  split
  next => exact ((semblance minor).sendInline_alike keep.sendAlike _ _).keeps _ unowed
  next => exact unowed

end Ports.Keep

namespace Likeness

variable {p : Ports W H} {q : Ports V G} {outside inside : Station W H → Station V G → Prop}
  (like : Likeness p q outside inside)

include like

theorem semblance : Semblance p q inside where
  settings := like.settings
  chunk := like.chunk
  count change _ := like.count change
  cancel := like.cancel

variable (ports : p.SendAlike q inside)

include ports

theorem answerBusy_alike : Alike inside Eq (answerBusy p) (answerBusy q) := by
  apply (alike_step fun a b there => like.owed a b there).bind_same
  intro owed
  cases owed with
  | true => exact like.semblance.sendInline_alike ports _ _
  | false => exact alike_pure rfl

theorem sendHeld_alike (document : Document) (activity : Option Activity) :
    Alike outside Eq (sendHeld p document activity) (sendHeld q document activity) := by
  have tally : ∀ result, Alike inside Eq
      (do
        Act.count (Counters.tally result)
        answerBusy p
        return result)
      (do
        Act.count (Counters.tally result)
        answerBusy q
        return result) := by
    intro result
    apply (alike_modify (like.count _)).bind_same
    intro
    apply (like.answerBusy_alike ports).bind_same
    intro
    exact alike_pure rfl
  intro a b there
  change Abreast (if a.endpoint.sending = true then _ else _)
    (if b.endpoint.sending = true then _ else _) a b _ _
  rw [← like.sending a b there]
  split
  next =>
    -- Who finds the lock held leaves word, and that is all.
    apply (alike_modify (like.owe _)).bind_same _ a b there
    intro
    exact alike_pure rfl
  next =>
    -- Inside the lock the request to cancel is dropped, so the closer relation holds.
    have held := like.lock a b there
    apply Abreast.modify
    apply Abreast.ensuring
    apply (((like.semblance.transmit_alike ports document activity).bind_same tally) _ _ held).mono
    · intro x y s t ⟨same, still⟩
      exact ⟨same, like.unlock s t still⟩
    · exact like.unlock

theorem send_alike (document : Document) (activity : Option Activity) :
    Alike outside Eq (send p document activity) (send q document activity) := by
  apply (alike_modify (like.flight (· + 1))).bind_same
  intro
  exact (like.sendHeld_alike ports document activity).ensuring (like.flight (· - 1))

end Likeness

/-! ## What sending does not touch -/

/-- An endpoint without the books that sending keeps, and without any counter. -/
def Endpoint.uncounted (endpoint : Endpoint H) : Endpoint H :=
  { endpoint.withoutBooks with counters := {} }

/-- What holds whatever becomes of the books of sending and of the counters. -/
def Immune (I : Station W H → Prop) : Prop :=
  ∀ s (endpoint : Endpoint H), endpoint.uncounted = s.endpoint.uncounted → I s →
    I { s with endpoint }

/-- Inside the lock and outside it, it holds of equal stations. -/
theorem Immune.likeness {I : Station W H → Prop} (immune : Immune I) (ports : Ports W H) :
    Likeness ports ports (fun a b => a = b ∧ I a) (fun a b => a = b ∧ I a) where
  settings := by rintro a _ ⟨rfl, -⟩; rfl
  chunk := by rintro a _ ⟨rfl, -⟩; rfl
  count := by rintro change a _ ⟨rfl, there⟩; exact ⟨rfl, immune a _ rfl there⟩
  cancel := by rintro a _ ⟨rfl, there⟩; exact ⟨rfl, rfl, immune a _ rfl there⟩
  owed := by rintro a _ ⟨rfl, there⟩; exact ⟨rfl, rfl, immune a _ rfl there⟩
  sending := by rintro a _ ⟨rfl, -⟩; rfl
  flight := by rintro change a _ ⟨rfl, there⟩; exact ⟨rfl, immune a _ rfl there⟩
  owe := by rintro change a _ ⟨rfl, there⟩; exact ⟨rfl, immune a _ rfl there⟩
  lock := by rintro a _ ⟨rfl, there⟩; exact ⟨rfl, immune a _ rfl there⟩
  unlock := by rintro a _ ⟨rfl, there⟩; exact ⟨rfl, immune a _ rfl there⟩

theorem settings_immune (settings : Settings) :
    Immune fun s : Station W H => s.endpoint.settings = settings :=
  fun _ _ same there => (congrArg Endpoint.settings same).trans there

theorem Ports.Keep.send_keeps {ports : Ports W H} {I : Station W H → Prop} (keep : ports.Keep I)
    (immune : Immune I) (document : Document) (activity : Option Activity) :
    Keeps I (send ports document activity) :=
  ((immune.likeness ports).send_alike keep.sendAlike document activity).keeps

end CommandLink
