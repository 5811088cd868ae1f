import CommandLink.Proofs.SendingAlike
import CommandLink.Proofs.Speech

/-!
# How a document goes out, round by round

A journal holds every call that sending makes of a port, as it is when the call comes back,
and whether a request to cancel was waiting before the call and behind it.

The chunks of a document have one round each: the chunk goes out, progress may be reported,
and there is a pause. `Rounds` follows the loop over the chunks call by call, whatever the
ports answer and whatever else goes on while they are called. Between two calls only sending
itself is at work, so that the flags of the entries are linked from one to the next.
-/

namespace CommandLink

/-! ## Journals -/

/-- A call of a port, with its answer. -/
inductive Exchange where
  | notified (bytes : Bytes) (answer : Except LinkError Unit)
  | slept (time : Nat)
  | readFree (bytes : Nat)
  | asked (pool : Pool) (size : Nat) (granted : Bool)
  deriving DecidableEq

/-- An entry of a journal. -/
inductive Entry where
  /-- A call came back. A request to cancel was waiting before it and behind it, or not. -/
  | call (exchange : Exchange) (before after : Bool)
  /-- A send came back that was made while another one was under way. -/
  | nested (result : Except SendError Unit)
  deriving DecidableEq

namespace Entry

/-- What the peer was told, or was to be told. -/
def told? : Entry → Option (Bytes × Except LinkError Unit)
  | .call (.notified bytes answer) _ _ => some (bytes, answer)
  | .call (.slept _) _ _ => none
  | .call (.readFree _) _ _ => none
  | .call (.asked _ _ _) _ _ => none
  | .nested _ => none

/-- Calls whose flags are linked: each begins as the one before it ended. -/
inductive Linked : Bool → List Entry → Bool → Prop where
  | nil (requested) : Linked requested [] requested
  | cons (exchange before after) {rest last} (further : Linked after rest last) :
    Linked before (.call exchange before after :: rest) last

theorem Linked.append {entries more : List Entry} {first middle last : Bool}
    (linked : Linked first entries middle) (further : Linked middle more last) :
    Linked first (entries ++ more) last := by
  induction linked with
  | nil => exact further
  | cons exchange before after _ ih => exact .cons exchange before after (ih further)

/-- An inline error as it stands in a journal, as far as the link takes it. -/
structure Gives (message kind : String) (first : Bool) (entries : List Entry) (last : Bool) :
    Prop where
  linked : Linked first entries last
  told : ∃ us, Inline maxChunk message kind us ∧
    entries.filterMap Entry.told? = us.map Utterance.told

end Entry

variable {W H E α β : Type}

namespace Act

/-- Write a call into the journal when it comes back. -/
def entered (exchange : α → Exchange) (act : Act (Recorded W Entry) H α) :
    Act (Recorded W Entry) H α := do
  -- Others may ask to cancel meanwhile, so the request is read twice.
  let before := (← endpoint).cancelRequested
  let answer ← act
  note [.call (exchange answer) before (← endpoint).cancelRequested]
  return answer

end Act

open Act

/-- The ports in a world with a diary, in which they write nothing. -/
def Ports.lifted (ports : Ports W H) : Ports (Recorded W E) H where
  notify bytes := lift (ports.notify bytes)
  requestMtu mtu := lift (ports.requestMtu mtu)
  restartAdvertising := lift ports.restartAdvertising
  mtu recorded := ports.mtu recorded.world
  now recorded := ports.now recorded.world
  sleep time := lift (ports.sleep time)
  randomBelow bound := lift (ports.randomBelow bound)
  freeBytes := lift ports.freeBytes
  minFreeBytes recorded := ports.minFreeBytes recorded.world
  allocate pool size := lift (ports.allocate pool size)
  handle handler parsed := lift (ports.handle handler parsed)
  hasTelemetry recorded := ports.hasTelemetry recorded.world
  nextTelemetry := lift ports.nextTelemetry
  rounds := ports.rounds

/-- The ports, with every call that sending makes written into a journal. -/
def Ports.journaled (ports : Ports W H) : Ports (Recorded W Entry) H :=
  { ports.lifted with
    notify := fun bytes => entered (.notified bytes) (lift (ports.notify bytes))
    sleep := fun time => entered (fun _ => .slept time) (lift (ports.sleep time))
    freeBytes := entered .readFree (lift ports.freeBytes)
    allocate := fun pool size => entered (.asked pool size) (lift (ports.allocate pool size)) }

/-! ## What is written -/

/-- A procedure comes back, and `post` is known of what it wrote into the diary. -/
def Act.Writes (act : Act (Recorded W E) H α) (s : Station (Recorded W E) H)
    (post : α → Station (Recorded W E) H → List E → Prop) : Prop :=
  Returns act s fun a t => ∃ entries, t.world.diary = s.world.diary ++ entries ∧ post a t entries

namespace Act

variable {s : Station (Recorded W E) H}

theorem Writes.mono {act : Act (Recorded W E) H α}
    {post wanted : α → Station (Recorded W E) H → List E → Prop} (writes : Writes act s post)
    (enough : ∀ a t entries, post a t entries → wanted a t entries) : Writes act s wanted :=
  Returns.mono writes fun a t ⟨entries, diary, known⟩ => ⟨entries, diary, enough a t entries known⟩

theorem writes_pure {a : α} {post : α → Station (Recorded W E) H → List E → Prop}
    (known : post a s []) : Writes (pure a) s post :=
  returns_pure ⟨[], by simp, known⟩

theorem Writes.bind {act : Act (Recorded W E) H α} {next : α → Act (Recorded W E) H β}
    {between : α → Station (Recorded W E) H → List E → Prop}
    {post : β → Station (Recorded W E) H → List E → Prop} (first : Writes act s between)
    (second : ∀ a t entries, between a t entries →
      Writes (next a) t fun b u more => post b u (entries ++ more)) :
    Writes (act >>= next) s post := by
  apply Returns.bind first
  rintro a t ⟨entries, diary, there⟩
  apply Returns.mono (second a t entries there)
  rintro b u ⟨more, further, done⟩
  exact ⟨entries ++ more, by rw [further, diary, List.append_assoc], done⟩

theorem Keeps.writes {I : Station (Recorded W E) H → Prop} {act : Act (Recorded W E) H α}
    {post : α → Station (Recorded W E) H → List E → Prop} (keeps : Keeps I act) (there : I s)
    (writes : Writes act s post) : Writes act s fun a t entries => post a t entries ∧ I t :=
  Returns.mono (keeps.returns there writes) fun _ _ ⟨⟨entries, diary, known⟩, still⟩ =>
    ⟨entries, diary, known, still⟩

/-- What a run wrote is known, however it is taken apart. -/
theorem Writes.of_exec {act : Act (Recorded W E) H α}
    {post : α → Station (Recorded W E) H → List E → Prop} (writes : Writes act s post) {a : α}
    {t : Station (Recorded W E) H} (run : exec act s = (.ok a, t)) {entries : List E}
    (diary : t.world.diary = s.world.diary ++ entries) : post a t entries := by
  obtain ⟨others, same, known⟩ := Returns.of_exec writes run
  rw [diary, List.append_cancel_left_eq] at same
  rw [same]
  exact known

end Act

theorem Act.entered_writes {exchange : α → Exchange} {act : Act W H α}
    {s : Station (Recorded W Entry) H} {known : α → Station W H → Prop}
    (returns : Returns act ⟨s.endpoint, s.world.world⟩ known) :
    Writes (entered exchange (lift act)) s fun a t entries =>
      known a ⟨t.endpoint, t.world.world⟩ ∧ entries =
        [.call (exchange a) s.endpoint.cancelRequested t.endpoint.cancelRequested] := by
  apply returns_endpoint
  apply (returns_lift returns).bind
  rintro a t ⟨there, silent⟩
  apply returns_endpoint
  apply returns_note
  apply returns_pure
  exact ⟨_, by simp [Station.record, silent], there, rfl⟩

/-- Ports that come back still do when they are written into a journal. -/
theorem Ports.Within.journaled {ports : Ports W H} (back : ports.ComeBack) :
    ports.journaled.ComeBack where
  notify bytes _ := Returns.mono (entered_writes (back.notify bytes _)) fun _ _ _ => trivial
  sleep time _ := Returns.mono (entered_writes (back.sleep time _)) fun _ _ _ => trivial
  freeBytes _ := Returns.mono (entered_writes (back.freeBytes _)) fun _ _ _ => trivial
  allocate pool size _ :=
    Returns.mono (entered_writes (back.allocate pool size _)) fun _ _ _ => trivial

/-- Writing into a journal touches no endpoint. -/
theorem Act.Keeps.entered {I : Endpoint H → Prop} {act : Act W H α}
    (keeps : Keeps (fun s => I s.endpoint) act) (exchange : α → Exchange) :
    Keeps (fun s => I s.endpoint) (entered exchange (lift act)) := by
  intro s there
  have still := keeps ⟨s.endpoint, s.world.world⟩ there
  cases ended : exec act ⟨s.endpoint, s.world.world⟩ with
  | mk answer after =>
    rw [ended] at still
    have lifted : exec (lift act) s =
        (answer, ⟨after.endpoint, { s.world with world := after.world }⟩) := by
      rw [exec_lift, ended]
    have begun : exec (Act.entered exchange (lift act)) s =
        exec (lift act >>= fun answer => do
          note [.call (exchange answer) s.endpoint.cancelRequested (← endpoint).cancelRequested]
          return answer) s := rfl
    rw [begun, exec_bind, lifted]
    cases answer with
    | ok answer => exact still
    | error crash => exact still

theorem Ports.Keep.journaled {ports : Ports W H} {I : Endpoint H → Prop}
    (keep : ports.Keep fun s => I s.endpoint) : ports.journaled.Keep fun s => I s.endpoint where
  notify bytes := (keep.notify bytes).entered _
  sleep time := (keep.sleep time).entered _
  freeBytes := keep.freeBytes.entered _
  allocate pool size := (keep.allocate pool size).entered _

/-- Nobody is owed the answer that the link was busy. -/
def Station.Unowed (s : Station W H) : Prop := s.endpoint.busyOwed = false

theorem unowed_minor : Minor (Station.Unowed (W := W) (H := H)) where
  count _ _ _ unowed := unowed
  cancel _ unowed := unowed
  owed _ _ := rfl

theorem settings_minor (settings : Settings) :
    Minor fun s : Station W H => s.endpoint.settings = settings where
  count _ _ _ same := same
  cancel _ same := same
  owed _ same := same

theorem bookless_true : Bookless fun _ _ : Station W H => True where
  refl _ := trivial
  trans _ _ _ _ _ := trivial
  books _ _ _ := trivial

/-! ## Rounds -/

/-- Behind a chunk progress is reported when its threshold is reached, and the threshold moves
on, whether the link takes the report or not. -/
inductive Reported (stream : Stream) (sent threshold : Nat) :
    Nat → Bool → List Entry → Bool → Prop where
  | silent (requested) (early : stream.activity = none ∨ stream.plan.reportProgress = false ∨
      percent sent stream.total < threshold) :
    Reported stream sent threshold threshold requested [] requested
  | told (activity answer before after) (active : stream.activity = some activity)
      (long : stream.plan.reportProgress = true) (due : threshold ≤ percent sent stream.total) :
    Reported stream sent threshold
      (nextThreshold stream.progressStep (percent sent stream.total)) before
      [.call (.notified (Bytes.ofText (Progress.document activity sent stream.total)) answer)
        before after] after

/-- The rounds of the remaining chunks, when so many bytes are sent, the next report waits for
a threshold, and a request to cancel is waiting or not. There is one for each chunk that the
link takes. One more call ends the document, and leaves a request waiting or not. -/
inductive Rounds (stream : Stream) :
    List Bytes → Nat → Nat → Bool → Except SendError Unit → List (List Entry) → Entry → Bool →
      Prop where
  -- Nobody looks for a request behind the last chunk.
  | finished (sent threshold requested after) :
    Rounds stream [] sent threshold requested (.ok ()) []
      (.call (.notified endMarker (.ok ())) requested after) after
  | unfinished (sent threshold requested error after) :
    Rounds stream [] sent threshold requested (.error (.link error)) []
      (.call (.notified endMarker (.error error)) requested after) after
  -- To look for a request is to take it, so none is waiting when the next call begins.
  | cancelled (chunk rest sent threshold after) :
    Rounds stream (chunk :: rest) sent threshold true (.error .cancelled) []
      (.call (.notified cancelledMarker (.ok ())) false after) after
  | uncancelled (chunk rest sent threshold error after) :
    Rounds stream (chunk :: rest) sent threshold true (.error (.link error)) []
      (.call (.notified cancelledMarker (.error error)) false after) after
  | refused (chunk rest sent threshold error after) :
    Rounds stream (chunk :: rest) sent threshold false (.error (.link error)) []
      (.call (.notified chunk (.error error)) false after) after
  | taken (chunk sent taken told after) {rest threshold next asides result rounds closing last}
      (report : Reported stream (sent + chunk.length) threshold next taken asides told)
      (further : Rounds stream rest (sent + chunk.length) next after result rounds closing last) :
    Rounds stream (chunk :: rest) sent threshold false result
      ((.call (.notified chunk (.ok ())) false taken :: asides ++
        [.call (.slept stream.plan.delay) told after]) :: rounds) closing last

theorem Reported.telling {stream : Stream} {sent threshold next : Nat} {requested last : Bool}
    {entries : List Entry} (report : Reported stream sent threshold next requested entries last) :
    ∃ asides : List Utterance, entries.filterMap Entry.told? = asides.map Utterance.told ∧
      ∀ aside ∈ asides, ∃ reported done total,
        stream.activity = some reported ∧ aside.signal = .progress reported done total := by
  cases report with
  | silent => exact ⟨[], rfl, nofun⟩
  | told activity answer before after active =>
    refine ⟨[⟨.progress activity sent stream.total, answer⟩], rfl, ?_⟩
    intro aside member
    rw [List.mem_singleton.mp member]
    exact ⟨activity, sent, stream.total, active, rfl⟩

/-- What is told in the rounds of a document. -/
theorem Rounds.telling {stream : Stream} {chunks : List Bytes} {sent threshold : Nat}
    {requested last : Bool} {result : Except SendError Unit} {rounds : List (List Entry)}
    {closing : Entry}
    (gone : Rounds stream chunks sent threshold requested result rounds closing last) :
    ∃ us, Telling stream.activity chunks result us ∧
      (rounds.flatten ++ [closing]).filterMap Entry.told? = us.map Utterance.told := by
  induction gone with
  | finished => exact ⟨_, .finished, rfl⟩
  | unfinished _ _ _ error => exact ⟨_, .unfinished error, rfl⟩
  | cancelled chunk rest => exact ⟨_, .cancelled chunk rest, rfl⟩
  | uncancelled chunk rest _ _ error => exact ⟨_, .uncancelled chunk rest error, rfl⟩
  | refused chunk rest _ _ error => exact ⟨_, .refused chunk rest error, rfl⟩
  | taken chunk sent taken told after report further ih =>
    obtain ⟨asides, reported, progress⟩ := report.telling
    obtain ⟨us, telling, said⟩ := ih
    refine ⟨_, .taken chunk progress telling, ?_⟩
    rw [List.flatten_cons, List.append_assoc, List.filterMap_append, said]
    simp [Entry.told?, reported, Utterance.told, Signal.bytes]

/-- How a payload goes out: the memory is read, and the chunks go their rounds. -/
inductive Streaming (payload : Bytes) (activity : Option Activity) :
    Bool → Except SendError Unit → List Entry → Bool → Prop where
  | mk (stream size free ready) {first result rounds closing last} (positive : 0 < size)
      (whole : stream.total = payload.length) (named : stream.activity = activity)
      (gone : Rounds stream (Bytes.pieces size payload) 0 stream.progressStep ready result rounds
        closing last) :
    Streaming payload activity first result
      (.call (.readFree free) first ready :: (rounds.flatten ++ [closing])) last

/-- A document that is no longer than it may be when it is measured as `text`, and that fits the
block which is asked for then when it is written as `payload`. -/
structure Document.Admitted (settings : Settings) (document : Document) (text payload : Bytes) :
    Prop where
  measured : document.measured = some text
  capped : text.length ≤ settings.maxResponse.toNat
  written : document.written = some payload
  fits : payload.length ≤ text.length + settings.responseMargin.toNat

/-- A document that was prepared goes out as its bytes were planned, from a reading of the
memory and for a link that takes chunks of so many bytes. -/
structure Sent (settings : Settings) (document : Document) (activity : Option Activity)
    (result : Except SendError Unit) (payload : Bytes) where
  preparing : List Entry
  free : Nat
  unit : Nat
  stream : Stream
  rounds : List (List Entry)
  closing : Entry
  /-- Whether a request to cancel was waiting before the reading, behind it, and in the end. -/
  requests : Bool × Bool × Bool
  written : document.written = some payload
  short : payload.length ≤ settings.maxResponse.toNat + settings.responseMargin.toNat
  wide : 20 ≤ unit
  silent : preparing.filterMap Entry.told? = []
  planned : stream.plan = settings.plan payload.length free unit
  whole : stream.total = payload.length
  named : stream.activity = activity
  stepped : stream.progressStep = max settings.progressStep.toNat 1
  gone : Rounds stream (Bytes.pieces stream.plan.chunkSize payload) 0 stream.progressStep
    requests.2.1 result rounds closing requests.2.2

/-- What is written of a document that goes out up to its reading of the memory. -/
def Sent.opening {settings : Settings} {document : Document} {activity : Option Activity}
    {result : Except SendError Unit} {payload : Bytes}
    (sent : Sent settings document activity result payload) : List Entry :=
  sent.preparing ++ [.call (.readFree sent.free) sent.requests.1 sent.requests.2.1]

theorem Sent.silent_opening {settings : Settings} {document : Document}
    {activity : Option Activity} {result : Except SendError Unit} {payload : Bytes}
    (sent : Sent settings document activity result payload) :
    sent.opening.filterMap Entry.told? = [] := by
  rw [opening, List.filterMap_append, sent.silent]
  rfl

/-! ## The procedures of sending -/

namespace Ports.Within

variable {ports : Ports W H} (back : ports.ComeBack)

include back

theorem deliver_writes (bytes : Bytes) (s : Station (Recorded W Entry) H) :
    Writes (deliver ports.journaled bytes) s fun result t entries => ∃ answer,
      entries = [.call (.notified bytes answer) s.endpoint.cancelRequested
        t.endpoint.cancelRequested] ∧
      (answer = .ok () ∧ result = .ok () ∨
        ∃ error, answer = .error error ∧ result = .error (.link error)) := by
  apply (entered_writes (back.notify bytes _)).bind
  rintro answer t _ ⟨-, rfl⟩
  cases answer with
  | ok => exact writes_pure ⟨_, by simp, .inl ⟨rfl, rfl⟩⟩
  | error error => exact writes_pure ⟨_, by simp, .inr ⟨error, rfl, rfl⟩⟩

theorem progressAt_writes (stream : Stream) (sent threshold : Nat)
    (s : Station (Recorded W Entry) H) :
    Writes (progressAt ports.journaled stream sent threshold) s fun next t entries =>
      Reported stream sent threshold next s.endpoint.cancelRequested entries
        t.endpoint.cancelRequested := by
  unfold progressAt
  split
  next activity active long =>
    dsimp only
    split
    next due =>
      -- How the report was taken is forgotten.
      have told : Writes (discard (reportProgress ports.journaled activity sent stream.total)) s
          fun _ t entries => ∃ answer, entries =
            [.call (.notified (Bytes.ofText (Progress.document activity sent stream.total)) answer)
              s.endpoint.cancelRequested t.endpoint.cancelRequested] := by
        apply Returns.discard
        apply Writes.mono (back.deliver_writes _ s)
        rintro _ t entries ⟨answer, rfl, -⟩
        exact ⟨answer, rfl⟩
      apply told.bind
      rintro _ t _ ⟨answer, rfl⟩
      exact writes_pure (.told activity answer _ _ active long due)
    next early => exact writes_pure (.silent _ (.inr (.inr (Nat.not_le.mp early))))
  next inactive =>
    -- Either there is no activity, or the document is too short for reports.
    refine writes_pure (.silent _ ?_)
    cases active : stream.activity with
    | none => exact .inl rfl
    | some activity =>
      have short := inactive activity active
      exact .inr (.inl (by simpa using short))

theorem sendChunk_writes {chunk : Bytes} (small : chunk.length ≤ maxChunk)
    (s : Station (Recorded W Entry) H) :
    Writes (sendChunk ports.journaled chunk) s fun result t entries => ∃ answer,
      entries = [.call (.notified chunk answer) s.endpoint.cancelRequested
        t.endpoint.cancelRequested] ∧
      (answer = .ok () ∧ result = .ok () ∨
        ∃ error, answer = .error error ∧ result = .error (.link error)) := by
  unfold sendChunk
  rw [if_neg (Nat.not_lt.mpr small)]
  apply (back.deliver_writes chunk s).bind
  rintro result t _ ⟨answer, rfl, ⟨rfl, rfl⟩ | ⟨error, rfl, rfl⟩⟩
  · exact returns_modifyEndpoint (writes_pure ⟨_, by simp [Endpoint.count], .inl ⟨rfl, rfl⟩⟩)
  · exact writes_pure ⟨_, by simp, .inr ⟨error, rfl, rfl⟩⟩

/-- The loop goes its rounds. -/
theorem sendChunks_writes (stream : Stream) (chunks : List Bytes)
    (small : ∀ chunk ∈ chunks, chunk.length ≤ maxChunk) (sent threshold : Nat)
    (s : Station (Recorded W Entry) H) :
    Writes (sendChunks ports.journaled stream chunks sent threshold) s fun result t entries =>
      ∃ rounds closing, entries = rounds.flatten ++ [closing] ∧
        Rounds stream chunks sent threshold s.endpoint.cancelRequested result rounds closing
          t.endpoint.cancelRequested := by
  -- Every round starts from what the one before it left: the counts and the station.
  induction chunks generalizing sent threshold s with
  | nil =>
    apply (back.deliver_writes endMarker s).mono
    rintro result t _ ⟨answer, rfl, ⟨rfl, rfl⟩ | ⟨error, rfl, rfl⟩⟩
    · exact ⟨[], _, rfl, .finished sent threshold _ _⟩
    · exact ⟨[], _, rfl, .unfinished sent threshold _ error _⟩
  | cons chunk rest ih =>
    apply returns_step
    cases requested : s.endpoint.cancelRequested with
    | true =>
      apply (back.deliver_writes cancelledMarker _).bind
      rintro result t _ ⟨answer, rfl, ⟨rfl, rfl⟩ | ⟨error, rfl, rfl⟩⟩
      · exact writes_pure ⟨[], _, rfl, .cancelled chunk rest sent threshold _⟩
      · exact writes_pure ⟨[], _, rfl, .uncancelled chunk rest sent threshold error _⟩
    | false =>
      apply (back.sendChunk_writes (small chunk List.mem_cons_self) _).bind
      rintro result t _ ⟨answer, rfl, ⟨rfl, rfl⟩ | ⟨error, rfl, rfl⟩⟩
      · apply (back.progressAt_writes stream _ threshold t).bind
        intro next u asides report
        apply (entered_writes (back.sleep stream.plan.delay _)).bind
        rintro _ v _ ⟨-, rfl⟩
        have others := ih (fun other member => small other (List.mem_cons_of_mem _ member))
          (sent + chunk.length) next v
        apply others.mono
        rintro result w _ ⟨rounds, closing, rfl, further⟩
        have taken := Rounds.taken chunk sent _ _ _ report further
        exact ⟨_, closing, by simp, taken⟩
      · exact writes_pure ⟨[], _, rfl, .refused chunk rest sent threshold error _⟩

/-! ### Inline errors -/

theorem notifyAll_writes (signals : List Signal) (s : Station (Recorded W Entry) H) :
    Writes (notifyAll ports.journaled (signals.map Signal.bytes)) s fun _ t entries =>
      Entry.Linked s.endpoint.cancelRequested entries t.endpoint.cancelRequested ∧
        ∃ us, Recited signals us ∧ entries.filterMap Entry.told? = us.map Utterance.told := by
  induction signals generalizing s with
  | nil => exact writes_pure ⟨.nil _, [], .done, rfl⟩
  | cons signal rest ih =>
    apply (entered_writes (back.notify signal.bytes _)).bind
    rintro answer t _ ⟨-, rfl⟩
    cases answer with
    | ok =>
      apply (ih t).mono
      rintro _ u entries ⟨linked, us, recited, told⟩
      refine ⟨.cons _ _ _ linked, _, .taken signal recited, ?_⟩
      simpa [Entry.told?, Utterance.told] using told
    | error error =>
      exact writes_pure ⟨.cons _ _ _ (.nil _), _, .refused signal rest error, rfl⟩

theorem sendInline_writes (message kind : String) (s : Station (Recorded W Entry) H) :
    Writes (sendInline ports.journaled message kind) s fun _ t entries =>
      Entry.Gives message kind s.endpoint.cancelRequested entries t.endpoint.cancelRequested := by
  have bounds := s.endpoint.state.chunkSize_bounds (ports.mtu s.world.world)
  apply returns_sendInline
  intro size cut
  change size = min (max (s.endpoint.state.chunkSize (ports.mtu s.world.world)) 1) maxChunk at cut
  apply (back.notifyAll_writes _ s).mono
  rintro _ t entries ⟨linked, us, recited, told⟩
  exact ⟨linked, us, ⟨size, by omega, by omega, recited⟩, told⟩

/-- The "busy" answer is given when it is owed, and only then. -/
theorem answerBusy_writes (s : Station (Recorded W Entry) H) :
    Writes (answerBusy ports.journaled) s fun _ t entries =>
      (s.endpoint.busyOwed = true →
        Entry.Gives "Transmission busy" "busy" s.endpoint.cancelRequested entries
          t.endpoint.cancelRequested) ∧
      (s.endpoint.busyOwed ≠ true →
        entries = [] ∧ t.endpoint.cancelRequested = s.endpoint.cancelRequested) := by
  apply returns_step
  cases owed : s.endpoint.busyOwed with
  | true =>
    apply (back.sendInline_writes _ _ _).mono
    intro _ t entries given
    exact ⟨fun _ => given, fun unowed => absurd rfl unowed⟩
  | false => exact writes_pure ⟨nofun, fun _ => ⟨rfl, rfl⟩⟩

theorem refuse_writes {γ : Type} (error : SendError) (message kind : String)
    (s : Station (Recorded W Entry) H) :
    Writes (refuse ports.journaled error message kind : Act _ _ (Except SendError γ)) s
      fun result t entries => result = .error error ∧
        Entry.Gives message kind s.endpoint.cancelRequested entries
          t.endpoint.cancelRequested := by
  apply (back.sendInline_writes _ _ s).bind
  intro _ t entries given
  apply writes_pure
  rw [List.append_nil]
  exact ⟨rfl, given⟩

/-! ### Preparing -/

theorem allocate_writes (size : Nat) (s : Station (Recorded W Entry) H) :
    Writes (CommandLink.allocate ports.journaled size) s fun block t entries =>
      Entry.Linked s.endpoint.cancelRequested entries t.endpoint.cancelRequested ∧
        entries.filterMap Entry.told? = [] ∧ ∀ granted ∈ block, granted = { capacity := size } := by
  apply (entered_writes (back.allocate .primary size _)).bind
  rintro granted t _ ⟨-, rfl⟩
  split
  next => exact writes_pure ⟨.cons _ _ _ (.nil _), rfl, by simp⟩
  next =>
    apply (entered_writes (back.allocate .secondary size _)).bind
    rintro granted u _ ⟨-, rfl⟩
    split
    next =>
      exact returns_modifyEndpoint (writes_pure ⟨.cons _ _ _ (.cons _ _ _ (.nil _)), rfl, by simp⟩)
    next => exact writes_pure ⟨.cons _ _ _ (.cons _ _ _ (.nil _)), rfl, by simp⟩

/-- As long as a document is not refused, nothing is said while it is prepared. Else nothing is
said or an inline error is given. -/
theorem prepare_writes (document : Document) (s : Station (Recorded W Entry) H) :
    Writes (prepare ports.journaled document) s fun result t entries =>
      (∀ payload, result = .ok payload →
        Entry.Linked s.endpoint.cancelRequested entries t.endpoint.cancelRequested ∧
          entries.filterMap Entry.told? = [] ∧
          ∃ text, document.Admitted s.endpoint.settings text payload) ∧
      ∀ error, result = .error error →
        ∃ us, (us = [] ∨ ∃ message kind, Inline maxChunk message kind us) ∧
          entries.filterMap Entry.told? = us.map Utterance.told := by
  -- What was called before a document is refused is no notification.
  have refused (error : SendError) (message kind : String) (t : Station (Recorded W Entry) H)
      (calls : List Entry) (silent : calls.filterMap Entry.told? = [])
      (known : Bytes → Station (Recorded W Entry) H → List Entry → Prop) :
      Writes (refuse ports.journaled error message kind : Act _ _ (Except SendError Bytes)) t
        fun result u entries => (∀ payload, result = .ok payload → known payload u entries) ∧
          ∀ error, result = .error error →
            ∃ us, (us = [] ∨ ∃ message kind, Inline maxChunk message kind us) ∧
              (calls ++ entries).filterMap Entry.told? = us.map Utterance.told := by
    apply (back.refuse_writes error message kind t).mono
    rintro _ u entries ⟨rfl, given⟩
    obtain ⟨us, inline, told⟩ := given.told
    refine ⟨nofun, fun _ _ => ⟨us, .inr ⟨message, kind, inline⟩, ?_⟩⟩
    rw [List.filterMap_append, silent, told]
    rfl
  apply returns_endpoint
  cases measured : document.measured with
  | none =>
    simp only [Document.serializedLength, measured]
    apply writes_pure
    constructor
    · rintro payload ⟨⟩
    · exact fun _ _ => ⟨[], .inl rfl, rfl⟩
  | some text =>
    simp only [Document.serializedLength, measured]
    split
    next => exact refused _ _ _ s [] rfl _
    next allowed =>
      apply (entered_writes (back.freeBytes _)).bind
      rintro free t _ ⟨-, rfl⟩
      split
      next => exact refused _ _ _ t [_] rfl fun _ u _ => Entry.Linked _ _ _ ∧ _
      next =>
        apply (back.allocate_writes _ t).bind
        rintro block u entries ⟨linked, silent, fresh⟩
        cases block with
        | none =>
          simp only [← List.append_assoc]
          exact refused _ _ _ u ([_] ++ entries) (by simpa [Entry.told?] using silent)
            fun _ _ _ => Entry.Linked _ _ _ ∧ _
        | some block =>
          apply writes_pure
          rw [List.append_nil]
          constructor
          · intro payload filled
            obtain rfl := fresh block rfl
            exact ⟨.cons _ _ _ linked, silent, text, measured, Nat.not_lt.mp allowed,
              Document.written_of_fill rfl filled, Document.length_le_of_fill rfl filled⟩
          · exact fun _ _ => ⟨[], .inl rfl, silent⟩

/-- A payload goes its rounds in the pieces that are planned behind the reading of the memory,
for the link as it is before. -/
theorem sendPayload_rounds (payload : Bytes) (activity : Option Activity)
    (s : Station (Recorded W Entry) H) {known : Station W H → Prop}
    (reads : Returns ports.freeBytes ⟨s.endpoint, s.world.world⟩ fun _ t => known t) :
    Writes (sendPayload ports.journaled payload activity) s fun result t entries =>
      ∃ (u : Station (Recorded W Entry) H) (free : Nat) (stream : Stream)
        (rounds : List (List Entry)) (closing : Entry), known ⟨u.endpoint, u.world.world⟩ ∧
        entries = .call (.readFree free) s.endpoint.cancelRequested u.endpoint.cancelRequested ::
          (rounds.flatten ++ [closing]) ∧
        stream.plan = u.endpoint.settings.plan payload.length free
          (s.endpoint.state.chunkSize (ports.mtu s.world.world)) ∧
        stream.total = payload.length ∧ stream.activity = activity ∧
        stream.progressStep = max u.endpoint.settings.progressStep.toNat 1 ∧
        Rounds stream (Bytes.pieces stream.plan.chunkSize payload) 0 stream.progressStep
          u.endpoint.cancelRequested result rounds closing t.endpoint.cancelRequested := by
  have bounds := s.endpoint.state.chunkSize_bounds (ports.mtu s.world.world)
  apply returns_currentChunk
  apply (entered_writes reads).bind
  rintro free t _ ⟨there, rfl⟩
  apply returns_endpoint
  obtain ⟨plan, planned⟩ : ∃ plan, plan = t.endpoint.settings.plan payload.length free
      (s.endpoint.chunkSize (ports.journaled.mtu s.world)) := ⟨_, rfl⟩
  have small : ∀ chunk ∈ Bytes.pieces plan.chunkSize payload, chunk.length ≤ maxChunk := by
    rw [planned]
    exact t.endpoint.settings.length_le_of_mem_planned _ _
      (Nat.lt_of_lt_of_le (by decide) bounds.1) payload
  -- Memory pressure is counted or not, and the rounds are the same.
  have went (r : Station (Recorded W Entry) H)
      (still : r.endpoint.cancelRequested = t.endpoint.cancelRequested) (step : Nat)
      (stepped : step = max t.endpoint.settings.progressStep.toNat 1) :
      Writes (sendChunks ports.journaled ⟨plan, payload.length, step, activity⟩
        (Bytes.pieces plan.chunkSize payload) 0 step) r fun result v entries =>
          ∃ (u : Station (Recorded W Entry) H) (memory : Nat) (stream : Stream)
            (rounds : List (List Entry)) (closing : Entry), known ⟨u.endpoint, u.world.world⟩ ∧
            .call (.readFree free) s.endpoint.cancelRequested t.endpoint.cancelRequested :: entries =
              .call (.readFree memory) s.endpoint.cancelRequested u.endpoint.cancelRequested ::
                (rounds.flatten ++ [closing]) ∧
            stream.plan = u.endpoint.settings.plan payload.length memory
              (s.endpoint.state.chunkSize (ports.mtu s.world.world)) ∧
            stream.total = payload.length ∧ stream.activity = activity ∧
            stream.progressStep = max u.endpoint.settings.progressStep.toNat 1 ∧
            Rounds stream (Bytes.pieces stream.plan.chunkSize payload) 0 stream.progressStep
              u.endpoint.cancelRequested result rounds closing v.endpoint.cancelRequested := by
    apply (back.sendChunks_writes _ _ small 0 step r).mono
    rintro result v _ ⟨rounds, closing, rfl, gone⟩
    rw [still] at gone
    exact ⟨t, free, ⟨plan, payload.length, step, activity⟩, rounds, closing, there, rfl, planned,
      rfl, rfl, stepped, gone⟩
  dsimp only
  rw [← planned]
  split
  next => exact returns_modifyEndpoint (went { t with endpoint := t.endpoint.count _ } rfl _ rfl)
  next => exact went _ rfl _ rfl

theorem sendPayload_writes (payload : Bytes) (activity : Option Activity)
    (s : Station (Recorded W Entry) H) :
    Writes (sendPayload ports.journaled payload activity) s fun result t entries =>
      Streaming payload activity s.endpoint.cancelRequested result entries
        t.endpoint.cancelRequested := by
  apply (back.sendPayload_rounds payload activity s (back.freeBytes _)).mono
  rintro result t _ ⟨u, free, stream, rounds, closing, -, rfl, -, whole, named, -, gone⟩
  rw [← Bytes.pieces_max_one] at gone
  exact .mk stream _ free _ (by omega) whole named gone

/-- A document is refused while it is prepared, or its bytes go out. -/
theorem transmit_rounds {settings : Settings}
    (steady : ports.Keep fun s => s.endpoint.settings = settings) (document : Document)
    (activity : Option Activity) {s : Station (Recorded W Entry) H}
    (same : s.endpoint.settings = settings) :
    Writes (transmit ports.journaled document activity) s fun result _ entries =>
      (∃ error us, result = .error error ∧
        (us = [] ∨ ∃ message kind, Inline maxChunk message kind us) ∧
        entries.filterMap Entry.told? = us.map Utterance.told) ∨
      ∃ payload, ∃ sent : Sent settings document activity result payload,
        entries = sent.opening ++ sent.rounds.flatten ++ [sent.closing] ∧
          ∃ text, document.Admitted settings text payload := by
  have journaled : ports.journaled.Keep fun s => s.endpoint.settings = settings :=
    Ports.Keep.journaled (I := fun endpoint => endpoint.settings = settings) steady
  have kept := journaled.prepare_keeps (settings_minor settings) document
  apply (kept.writes same (back.prepare_writes document s)).bind
  rintro prepared t preparing ⟨⟨filled, refused⟩, still⟩
  cases prepared with
  | error error =>
    apply writes_pure
    rw [List.append_nil]
    obtain ⟨us, given, told⟩ := refused error rfl
    exact .inl ⟨error, us, rfl, given, told⟩
  | ok payload =>
    obtain ⟨-, silent, text, admitted⟩ := filled payload rfl
    rw [same] at admitted
    have reads : Returns ports.freeBytes ⟨t.endpoint, t.world.world⟩ fun _ u =>
        u.endpoint.settings = settings :=
      (steady.freeBytes.returns still (back.freeBytes _)).mono fun _ _ known => known.2
    apply (back.sendPayload_rounds payload activity t reads).mono
    rintro result u _ ⟨r, free, stream, rounds, closing, there, rfl, planned, whole, named, stepped,
      gone⟩
    rw [there] at planned stepped
    have short : payload.length ≤ settings.maxResponse.toNat + settings.responseMargin.toNat :=
      Nat.le_trans admitted.fits (Nat.add_le_add_right admitted.capped _)
    have wide := (t.endpoint.state.chunkSize_bounds (ports.mtu t.world.world)).1
    refine .inr ⟨payload, ⟨preparing, free, _, stream, rounds, closing,
      (t.endpoint.cancelRequested, _, _), admitted.written, short, wide, silent, planned, whole,
      named, stepped, gone⟩, ?_, text, admitted⟩
    simp [Sent.opening]

end Ports.Within

/-! ## Whoever holds the lock -/

/-- The station, once a send has taken the lock. A request to cancel is void then. -/
def Station.locked (s : Station W H) : Station W H :=
  { s with
    endpoint :=
      { s.endpoint with
        inFlight := s.endpoint.inFlight + 1, sending := true, cancelRequested := false } }

/-- The station, once a send has given the lock back. -/
def Station.released (s : Station W H) : Station W H :=
  { s with
    endpoint := { s.endpoint with sending := false, inFlight := s.endpoint.inFlight - 1 } }

/-- What a send does while it has the lock. -/
def holding (ports : Ports W H) (document : Document) (activity : Option Activity) :
    Act W H (Except SendError Unit) := do
  let result ← transmit ports document activity
  count (Counters.tally result)
  answerBusy ports
  return result

/-- A send is counted among those that are under way, whether it gets the lock or not. -/
theorem exec_send (ports : Ports W H) (document : Document) (activity : Option Activity)
    (s : Station W H) :
    exec (send ports document activity) s =
      let run := exec (sendHeld ports document activity)
        { s with endpoint := { s.endpoint with inFlight := s.endpoint.inFlight + 1 } }
      (run.1, { run.2 with
        endpoint := { run.2.endpoint with inFlight := run.2.endpoint.inFlight - 1 } }) :=
  rfl

section Idle

variable {ports : Ports W H} {document : Document} {activity : Option Activity} {s : Station W H}
  (idle : s.endpoint.sending = false)

include idle

/-- A send that finds the lock free takes it, and does not look at a request from before. -/
theorem exec_send_of_idle :
    exec (send ports document activity) s =
      ((exec (holding ports document activity) s.locked).1,
        (exec (holding ports document activity) s.locked).2.released) := by
  have taken : exec (sendHeld ports document activity)
      { s with endpoint := { s.endpoint with inFlight := s.endpoint.inFlight + 1 } } =
        exec (ensuring (fun endpoint => { endpoint with sending := false })
          (holding ports document activity)) s.locked := by
    change exec (if s.endpoint.sending = true then _ else _) _ = _
    rw [idle, if_neg Bool.false_ne_true]
    rfl
  rw [exec_send, taken, exec_ensuring]
  rfl

/-- A send that finds the lock free, put together from what it does while it has it. -/
theorem exec_send_of_answered {result : Except SendError Unit} {t u : Station W H}
    (transmitted : exec (transmit ports document activity) s.locked = (.ok result, t))
    (answered : exec (answerBusy ports)
      { t with endpoint := t.endpoint.count (Counters.tally result) } = (.ok (), u)) :
    exec (send ports document activity) s = (.ok result, u.released) := by
  have counted : exec (count (Counters.tally result)) t =
      (.ok (), { t with endpoint := t.endpoint.count (Counters.tally result) }) := rfl
  have held : exec (holding ports document activity) s.locked = (.ok result, u) := by
    rw [holding, exec_bind_of_ok transmitted, exec_bind_of_ok counted, exec_bind_of_ok answered]
    rfl
  rw [exec_send_of_idle idle, held]

theorem returns_send_of_idle {known : Except SendError Unit → Station W H → Prop}
    (rest : Returns (transmit ports document activity) s.locked fun result t =>
      Returns (answerBusy ports) { t with endpoint := t.endpoint.count (Counters.tally result) }
        fun _ u => known result u.released) :
    Returns (send ports document activity) s known := by
  obtain ⟨result, t, transmitted, _, u, answered, there⟩ := rest
  exact ⟨result, u.released, exec_send_of_answered idle transmitted answered, there⟩

end Idle

/-- A send that finds the lock free gives the "busy" answer behind its document, if it is owed
then. -/
theorem Ports.Within.send_writes {ports : Ports W H} (back : ports.ComeBack) {document : Document}
    {activity : Option Activity} {s : Station (Recorded W Entry) H}
    (idle : s.endpoint.sending = false)
    {post : Except SendError Unit → Station (Recorded W Entry) H → List Entry → Prop}
    (transmitted : Writes (transmit ports.journaled document activity) s.locked post) :
    Writes (send ports.journaled document activity) s fun result u entries =>
      ∃ t told answer, entries = told ++ answer ∧ post result t told ∧
        (t.endpoint.busyOwed = true →
          Entry.Gives "Transmission busy" "busy" t.endpoint.cancelRequested answer
            u.endpoint.cancelRequested) ∧
        (t.endpoint.busyOwed ≠ true →
          answer = [] ∧ u.endpoint.cancelRequested = t.endpoint.cancelRequested) := by
  apply returns_send_of_idle idle
  apply Returns.mono transmitted
  rintro result t ⟨told, diary, known⟩
  apply Returns.mono (back.answerBusy_writes _)
  rintro _ u ⟨answer, further, given, unasked⟩
  refine ⟨told ++ answer, ?_, t, told, answer, rfl, known, given, unasked⟩
  change u.world.diary = _
  rw [further, ← List.append_assoc]
  exact congrArg (· ++ answer) diary

end CommandLink
