import CommandLink.Bench.Inbound
import CommandLink.Proofs.Rounds
import CommandLink.Proofs.SendingAlike
import Mathlib.Data.List.Forall2

/-!
# Requests to cancel a document

Whoever is called while a document goes out may ask to cancel it. The request is looked at
before each chunk and nowhere else, so what counts is the round in which it is made first:
that round is the last. The run up to the first look counts as a round before the first chunk.

A request that is made after the last look is of no account to the document, and neither is
one from before the lock was taken.
-/

namespace CommandLink

open Act

variable {W H α : Type}

/-! ## Requests in a journal -/

/-- What goes out is taken by the link. -/
def Exchange.Taken : Exchange → Prop
  | .notified _ answer => answer = .ok ()
  | .slept _ => True
  | .readFree _ => True
  | .asked _ _ _ => True

namespace Entry

/-- A request to cancel is made while the call goes on. -/
def Raises : Entry → Prop
  | .call _ before after => before = false ∧ after = true
  | .nested _ => False

/-- The link takes what goes out, and a request that is waiting goes on waiting. -/
def Accepted : Entry → Prop
  | .call exchange before after => exchange.Taken ∧ (before = true → after = true)
  | .nested _ => True

/-- A request to cancel is made somewhere in these entries. -/
def Raised (entries : List Entry) : Prop := ∃ entry ∈ entries, entry.Raises

/-- A request to cancel is made in the stretch with this number. -/
def RaisedIn (stretches : List (List Entry)) (j : Nat) : Prop :=
  ∃ entries, stretches[j]? = some entries ∧ Raised entries

theorem raisedIn_zero {entries : List Entry} {rest : List (List Entry)} :
    RaisedIn (entries :: rest) 0 ↔ Raised entries := by
  simp [RaisedIn]

theorem raisedIn_succ {entries : List Entry} {rest : List (List Entry)} {j : Nat} :
    RaisedIn (entries :: rest) (j + 1) ↔ RaisedIn rest j := by
  simp [RaisedIn]

theorem RaisedIn.lt_length {stretches : List (List Entry)} {j : Nat}
    (raised : RaisedIn stretches j) : j < stretches.length := by
  obtain ⟨entries, there, -⟩ := raised
  exact (List.getElem?_eq_some_iff.mp there).1

/-- A request waits at the end if one was waiting at the beginning or one is made. -/
theorem Linked.last_iff {first last : Bool} {entries : List Entry}
    (linked : Linked first entries last) (accepted : ∀ entry ∈ entries, entry.Accepted) :
    last = true ↔ first = true ∨ Raised entries := by
  induction linked with
  | nil requested => simp [Raised]
  | cons exchange before after further ih =>
    have stands := (accepted _ List.mem_cons_self).2
    rw [ih fun entry member => accepted entry (List.mem_cons_of_mem _ member)]
    -- The call raises nothing where a request was waiting already, and that one stands.
    cases before with
    | false => simp [Raised, Raises]
    | true => simp [Raised, Raises, stands rfl]

/-- When none was waiting at the beginning, one waits at the end exactly if one is made. -/
theorem Linked.last_iff_raised {last : Bool} {entries : List Entry}
    (linked : Linked false entries last) (accepted : ∀ entry ∈ entries, entry.Accepted) :
    last = true ↔ Raised entries := by
  simpa using linked.last_iff accepted

end Entry

open Entry

/-- The round of a chunk that the link takes: nobody has asked to cancel, the chunk goes out,
progress may be reported, and there is a pause. -/
inductive Round (activity : Option Activity) (chunk : Bytes) : List Entry → Prop where
  | plain (time taken last) :
    Round activity chunk
      [.call (.notified chunk (.ok ())) false taken, .call (.slept time) taken last]
  | reporting (reported done total time taken told last) (active : activity = some reported) :
    Round activity chunk
      [.call (.notified chunk (.ok ())) false taken,
        .call (.notified (Bytes.ofText (Progress.document reported done total)) (.ok ())) taken told,
        .call (.slept time) told last]

/-! ## How the rounds end -/

/-- A document of `n` chunks ends when all are out, or behind the stretch in which a request to
cancel is first made. The stretches are what goes on before the first look for a request, and
then the rounds. -/
inductive Ending (n : Nat) (opening : List Entry) (rounds : List (List Entry)) :
    Except SendError Unit → Entry → Bool → Prop where
  | whole (waiting last) (all : rounds.length = n)
    (quiet : ∀ j < n, ¬ RaisedIn (opening :: rounds) j) :
    Ending n opening rounds (.ok ()) (.call (.notified endMarker (.ok ())) waiting last) last
  | broken (last) (short : rounds.length < n) (raised : RaisedIn (opening :: rounds) rounds.length)
    (quiet : ∀ j < rounds.length, ¬ RaisedIn (opening :: rounds) j) :
    Ending n opening rounds (.error .cancelled)
      (.call (.notified cancelledMarker (.ok ())) false last) last

namespace Ending

variable {n : Nat} {opening : List Entry} {rounds : List (List Entry)}
  {result : Except SendError Unit} {closing : Entry} {last : Bool}

/-- What is known of some stretches is known of them behind one in which nobody asks. -/
theorem behind (ending : Ending n opening rounds result closing last) {before : List Entry}
    (calm : ¬ Raised before) : Ending (n + 1) before (opening :: rounds) result closing last := by
  have later {bound : Nat} (quiet : ∀ j < bound, ¬ RaisedIn (opening :: rounds) j) :
      ∀ j < bound + 1, ¬ RaisedIn (before :: opening :: rounds) j := by
    rintro (_ | j) small raised
    · exact calm (raisedIn_zero.mp raised)
    · exact quiet j (Nat.lt_of_succ_lt_succ small) (raisedIn_succ.mp raised)
  cases ending with
  | whole waiting _ all quiet => exact .whole _ _ (congrArg (· + 1) all) (later quiet)
  | broken _ short raised quiet =>
    exact .broken _ (Nat.succ_lt_succ short) (raisedIn_succ.mpr raised) (later quiet)

/-- The stretch in which a request is made is the last one, if there are chunks behind it. -/
theorem broken_of_raisedIn (ending : Ending n opening rounds result closing last) {j : Nat}
    (small : j < n) (raised : RaisedIn (opening :: rounds) j) :
    rounds.length = j ∧ result = .error .cancelled ∧
      closing = .call (.notified cancelledMarker (.ok ())) false last := by
  cases ending with
  | whole _ _ _ quiet => exact absurd raised (quiet j small)
  | broken _ _ _ quiet =>
    -- There is no stretch behind the last round, and none before it has a request.
    have within : j < rounds.length + 1 := raised.lt_length
    have reached : ¬ j < rounds.length := fun early => quiet j early raised
    exact ⟨by omega, rfl, rfl⟩

theorem whole_of_quiet (ending : Ending n opening rounds result closing last)
    (calm : ∀ j < n, ¬ RaisedIn (opening :: rounds) j) :
    rounds.length = n ∧ result = .ok () ∧ closing.told? = some (endMarker, .ok ()) := by
  cases ending with
  | whole _ _ all => exact ⟨all, rfl, rfl⟩
  | broken _ short raised => exact absurd raised (calm _ short)

end Ending

theorem Reported.linked {stream : Stream} {sent threshold next : Nat} {first last : Bool}
    {entries : List Entry} (report : Reported stream sent threshold next first entries last) :
    Linked first entries last := by
  cases report with
  | silent => exact .nil first
  | told => exact .cons _ _ _ (.nil last)

theorem Reported.round {stream : Stream} {chunk : Bytes} {sent threshold next : Nat}
    {taken told last : Bool} {asides : List Entry}
    (report : Reported stream sent threshold next taken asides told)
    (accepted : ∀ entry ∈ asides, entry.Accepted) :
    Round stream.activity chunk
      (.call (.notified chunk (.ok ())) false taken :: asides ++
        [.call (.slept stream.plan.delay) told last]) := by
  cases report with
  | silent => exact .plain _ _ _
  | told activity answer _ _ active =>
    have gone : answer = .ok () := (accepted _ List.mem_cons_self).1
    rw [gone]
    exact .reporting activity sent stream.total _ _ _ _ active

namespace Rounds

variable {stream : Stream} {chunks : List Bytes} {sent threshold : Nat} {requested last : Bool}
  {result : Except SendError Unit} {rounds : List (List Entry)} {closing : Entry}

theorem forall₂_round
    (gone : Rounds stream chunks sent threshold requested result rounds closing last)
    (accepted : ∀ entry ∈ rounds.flatten, entry.Accepted) :
    List.Forall₂ (Round stream.activity) (chunks.take rounds.length) rounds := by
  induction gone with
  | finished => exact .nil
  | unfinished => exact .nil
  | cancelled => exact .nil
  | uncancelled => exact .nil
  | refused => exact .nil
  | taken chunk sent taken told after report further ih =>
    rw [List.flatten_cons, List.forall_mem_append] at accepted
    refine .cons (report.round ?_) (ih accepted.2)
    intro entry member
    exact accepted.1 entry (List.mem_append_left _ (List.mem_cons_of_mem _ member))

/-- All chunks go out when no request is made before the last look, and else the round of the
first request is the last one. `opening` is the stretch up to the first look. -/
theorem ending (gone : Rounds stream chunks sent threshold requested result rounds closing last)
    (accepted : ∀ entry ∈ rounds.flatten ++ [closing], entry.Accepted) (opening : List Entry)
    (begun : requested = true ↔ Raised opening) :
    Ending chunks.length opening rounds result closing last := by
  -- Every round is the stretch up to the look of the next one.
  induction gone generalizing opening with
  | finished => exact .whole _ _ rfl nofun
  | cancelled chunk rest =>
    exact .broken _ (by simp) (raisedIn_zero.mpr (begun.mp rfl)) nofun
  | unfinished =>
    have taken := (accepted _ List.mem_cons_self).1
    cases taken
  | uncancelled =>
    have taken := (accepted _ List.mem_cons_self).1
    cases taken
  | refused =>
    have taken := (accepted _ List.mem_cons_self).1
    cases taken
  | @taken chunk sent taken told after rest threshold next asides result rounds closing last report
      further ih =>
    rw [List.flatten_cons, List.append_assoc, List.forall_mem_append] at accepted
    have linked : Linked false (.call (.notified chunk (.ok ())) false taken :: asides ++
        [.call (.slept stream.plan.delay) told after]) after :=
      .cons _ _ _ (report.linked.append (.cons _ _ _ (.nil after)))
    have onward := linked.last_iff_raised accepted.1
    exact (ih accepted.2 _ onward).behind fun raised => Bool.false_ne_true (begun.mpr raised)

end Rounds

/-- How a payload ends, with what was written before its first call. -/
theorem Streaming.ending {payload : Bytes} {activity : Option Activity} {first last : Bool}
    {result : Except SendError Unit} {entries : List Entry}
    (gone : Streaming payload activity first result entries last)
    (accepted : ∀ entry ∈ entries, entry.Accepted) {preparing : List Entry}
    (linked : Linked false preparing first) (prepared : ∀ entry ∈ preparing, entry.Accepted) :
    ∃ size reading rounds closing, 0 < size ∧
      entries = reading :: (rounds.flatten ++ [closing]) ∧ reading.told? = none ∧
      List.Forall₂ (Round activity) ((Bytes.pieces size payload).take rounds.length) rounds ∧
      Ending (Bytes.pieces size payload).length (preparing ++ [reading]) rounds result closing
        last := by
  cases gone with
  | mk stream size free ready positive whole named gone =>
    rw [List.forall_mem_cons] at accepted
    have opening := linked.append (.cons (.readFree free) first ready (.nil ready))
    have waiting := opening.last_iff_raised
      (List.forall_mem_append.mpr ⟨prepared, List.forall_mem_singleton.mpr accepted.1⟩)
    have went := gone.forall₂_round (List.forall_mem_append.mp accepted.2).1
    rw [named] at went
    exact ⟨size, _, _, _, positive, rfl, rfl, went, gone.ending accepted.2 _ waiting⟩

/-! ## Ports that accept everything -/

/-- A request to cancel that was waiting still is, and no cancelled document was counted. -/
structure Station.Stands (s t : Station W H) : Prop where
  request : s.endpoint.cancelRequested = true → t.endpoint.cancelRequested = true
  cancellations : t.endpoint.counters.cancellations = s.endpoint.counters.cancellations

/-- Ports that come back, of a link that takes whatever goes out. Whoever is called may ask to
cancel, and nobody but sending takes such a request back. -/
structure Ports.Accepting (ports : Ports W H) : Prop where
  notify : ∀ bytes s, Returns (ports.notify bytes) s fun answer t => answer = .ok () ∧ s.Stands t
  sleep : ∀ time s, Returns (ports.sleep time) s fun _ t => s.Stands t
  freeBytes : ∀ s, Returns ports.freeBytes s fun _ t => s.Stands t
  allocate : ∀ pool size s, Returns (ports.allocate pool size) s fun _ t => s.Stands t

/-- What was written from one station to the other is accepted. -/
def Accepts (s t : Station (Recorded W Entry) H) : Prop :=
  ∃ entries, t.world.diary = s.world.diary ++ entries ∧ ∀ entry ∈ entries, entry.Accepted

theorem accepts_bookless : Bookless (Accepts (W := W) (H := H)) where
  refl s := ⟨[], by simp, nofun⟩
  trans := by
    rintro s t u ⟨entries, diary, accepted⟩ ⟨more, further, others⟩
    refine ⟨entries ++ more, by rw [further, diary, List.append_assoc], ?_⟩
    exact List.forall_mem_append.mpr ⟨accepted, others⟩
  books s endpoint _ := ⟨[], by simp, nofun⟩

/-- So many cancelled documents were counted. -/
def Station.Cancelled (n : Nat) (s : Station W H) : Prop :=
  s.endpoint.counters.cancellations = n

theorem cancelled_minor (n : Nat) : Minor (Station.Cancelled (W := W) (H := H) n) where
  count _ minor s cancelled := (minor s.endpoint.counters).2.2.1.trans cancelled
  cancel _ cancelled := cancelled
  owed _ cancelled := cancelled

section Entered

variable (exchange : α → Exchange) {act : Act W H α}
  (returns : ∀ s, Returns act s fun a t => (exchange a).Taken ∧ s.Stands t)

include returns

/-- A call that is taken, and leaves a request standing, is written as an accepted one. -/
theorem entered_accepts : Act.Within Accepts (entered exchange (lift act)) := by
  intro s
  apply Returns.mono (entered_writes (returns _))
  rintro a t ⟨entries, diary, ⟨taken, stands⟩, rfl⟩
  refine ⟨_, diary, ?_⟩
  intro entry member
  rw [List.mem_singleton.mp member]
  exact ⟨taken, stands.request⟩

end Entered

namespace Ports.Accepting

variable {ports : Ports W H} (accepting : ports.Accepting)

include accepting

theorem comeBack : ports.ComeBack where
  notify bytes s := (accepting.notify bytes s).mono fun _ _ _ => trivial
  sleep time s := (accepting.sleep time s).mono fun _ _ _ => trivial
  freeBytes s := (accepting.freeBytes s).mono fun _ _ _ => trivial
  allocate pool size s := (accepting.allocate pool size s).mono fun _ _ _ => trivial

theorem within_accepts : ports.journaled.Within Accepts where
  notify bytes := entered_accepts (.notified bytes) (accepting.notify bytes)
  sleep time := entered_accepts (fun _ => .slept time) fun s =>
    (accepting.sleep time s).mono fun _ _ stands => ⟨trivial, stands⟩
  freeBytes := entered_accepts .readFree fun s =>
    (accepting.freeBytes s).mono fun _ _ stands => ⟨trivial, stands⟩
  allocate pool size := entered_accepts (.asked pool size) fun s =>
    (accepting.allocate pool size s).mono fun _ _ stands => ⟨trivial, stands⟩

theorem keep_cancelled (n : Nat) : ports.journaled.Keep (Station.Cancelled n) :=
  Ports.Keep.journaled (I := fun endpoint => endpoint.counters.cancellations = n)
    { notify := fun bytes => .of_returns fun s same =>
        (accepting.notify bytes s).mono fun _ _ known => known.2.cancellations.trans same
      sleep := fun time => .of_returns fun s same =>
        (accepting.sleep time s).mono fun _ _ stands => stands.cancellations.trans same
      freeBytes := .of_returns fun s same =>
        (accepting.freeBytes s).mono fun _ _ stands => stands.cancellations.trans same
      allocate := fun pool size => .of_returns fun s same =>
        (accepting.allocate pool size s).mono fun _ _ stands => stands.cancellations.trans same }

end Ports.Accepting

/-! ## What goes out -/

/-- Given or not, the answer comes behind whatever goes before. -/
theorem Ports.Within.send_writes_of_prepared {ports : Ports W H} (back : ports.ComeBack)
    {document : Document} (activity : Option Activity) {s ready : Station (Recorded W Entry) H}
    (idle : s.endpoint.sending = false) {payload : Bytes}
    (prepared : exec (prepare ports.journaled document) s.locked = (.ok (.ok payload), ready)) :
    Writes (send ports.journaled document activity) s fun result t entries =>
      ∃ preparing streaming answer middle, entries = preparing ++ streaming ++ answer ∧
        ready.world.diary = s.world.diary ++ preparing ∧
        Linked false preparing ready.endpoint.cancelRequested ∧
        preparing.filterMap told? = [] ∧
        Streaming payload activity ready.endpoint.cancelRequested result streaming middle ∧
        Linked middle answer t.endpoint.cancelRequested ∧
        (answer = [] ∨ ∃ first last, Gives "Transmission busy" "busy" first answer last) := by
  obtain ⟨preparing, there, known⟩ :=
    Returns.of_exec (back.prepare_writes document s.locked) prepared
  obtain ⟨linked, silent, -⟩ := known.1 payload rfl
  -- The run of `prepare` is given, so what is known of it is known of `ready`.
  have transmitted : Writes (transmit ports.journaled document activity) s.locked
      fun result t told => ∃ streaming, told = preparing ++ streaming ∧
        Streaming payload activity ready.endpoint.cancelRequested result streaming
          t.endpoint.cancelRequested := by
    rw [Writes, Returns, transmit, exec_bind_of_ok prepared]
    apply Returns.mono (back.sendPayload_writes payload activity ready)
    rintro result t ⟨streaming, further, gone⟩
    refine ⟨preparing ++ streaming, ?_, streaming, rfl, gone⟩
    rw [further, there, List.append_assoc]
  apply (back.send_writes idle transmitted).mono
  rintro result u _ ⟨t, _, answer, rfl, ⟨streaming, rfl, gone⟩, given, unasked⟩
  refine ⟨preparing, streaming, answer, t.endpoint.cancelRequested, rfl, there, linked, silent,
    gone, ?_⟩
  by_cases owed : t.endpoint.busyOwed = true
  · exact ⟨(given owed).linked, .inr ⟨_, _, given owed⟩⟩
  · obtain ⟨rfl, same⟩ := unasked owed
    rw [same]
    exact ⟨.nil _, .inl rfl⟩

theorem Counters.tally_cancellations (result : Except SendError Unit) {c d : Counters}
    (same : c.cancellations = d.cancellations) :
    (tally result c).cancellations = (tally result d).cancellations := by
  rcases result with error | _
  · cases error with
    | cancelled => exact congrArg (· + 1) same
    | _ => exact same
  · exact same

namespace Ports.Accepting

variable {ports : Ports W H} (accepting : ports.Accepting)

include accepting

/-- A document that ends as cancelled is counted so, and no other is. -/
theorem send_cancelled (document : Document) (activity : Option Activity)
    {s : Station (Recorded W Entry) H} (idle : s.endpoint.sending = false) :
    Returns (send ports.journaled document activity) s fun result t =>
      t.endpoint.counters.cancellations =
        (Counters.tally result s.endpoint.counters).cancellations := by
  -- Neither the document nor the answer moves the counter; the tally between them may.
  have locked : s.locked.Cancelled s.endpoint.counters.cancellations := rfl
  have keep := accepting.keep_cancelled s.endpoint.counters.cancellations
  have transmitted := accepts_bookless.transmit accepting.within_accepts document activity s.locked
  have kept := keep.transmit_keeps (cancelled_minor _) document activity
  apply returns_send_of_idle idle
  apply Returns.mono (kept.returns locked transmitted)
  rintro result t ⟨-, counted⟩
  have tallied : Station.Cancelled (Counters.tally result s.endpoint.counters).cancellations
      { t with endpoint := t.endpoint.count (Counters.tally result) } :=
    Counters.tally_cancellations result counted
  have keep := accepting.keep_cancelled (Counters.tally result s.endpoint.counters).cancellations
  have answered := accepts_bookless.answerBusy accepting.within_accepts.notify
    { t with endpoint := t.endpoint.count (Counters.tally result) }
  have kept := keep.answerBusy_keeps (cancelled_minor _)
  apply Returns.mono (kept.returns tallied answered)
  rintro _ u ⟨-, still⟩
  exact still

end Ports.Accepting

/-! ## Where a document breaks off -/

/-- The request to cancel is looked at before each chunk, and the first look that finds it is
the last thing before the document is broken off. So when the request is first made in the
stretch between two looks, the chunks up to there are all that goes out of the document, and a
request behind the last look, or from before the lock was taken, changes nothing. -/
theorem cancelled_at_first_look {ports : Ports W H} (accepting : ports.Accepting)
    (document : Document) (activity : Option Activity) {s ready : Station (Recorded W Entry) H}
    (idle : s.endpoint.sending = false) {payload : Bytes}
    (prepared : exec (prepare ports.journaled document) s.locked = (.ok (.ok payload), ready)) :
    (∀ requested, exec (send ports.journaled document activity)
        { s with endpoint := { s.endpoint with cancelRequested := requested } } =
      exec (send ports.journaled document activity) s) ∧
    Returns (send ports.journaled document activity) s fun result t =>
      ∃ size preparing rounds closing answer, 0 < size ∧
        t.world.diary = s.world.diary ++ (preparing ++ rounds.flatten ++ closing :: answer) ∧
        ready.world.diary <+: s.world.diary ++ preparing ∧
        preparing.filterMap told? = [] ∧
        List.Forall₂ (Round activity) ((Bytes.pieces size payload).take rounds.length) rounds ∧
        (answer = [] ∨ ∃ first last, Gives "Transmission busy" "busy" first answer last) ∧
        (∀ j < (Bytes.pieces size payload).length, RaisedIn (preparing :: rounds) j →
          rounds.length = j ∧ result = .error .cancelled ∧
          closing.told? = some (cancelledMarker, .ok ()) ∧
          t.endpoint.counters.cancellations = s.endpoint.counters.cancellations + 1 ∧
          (t.endpoint.cancelRequested = true ↔ Raised (closing :: answer))) ∧
        ((∀ j < (Bytes.pieces size payload).length, ¬ RaisedIn (preparing :: rounds) j) →
          rounds.length = (Bytes.pieces size payload).length ∧ result = .ok () ∧
          closing.told? = some (endMarker, .ok ()) ∧
          t.endpoint.counters.cancellations = s.endpoint.counters.cancellations) := by
  constructor
  · -- The lock is taken with the same station either way.
    intro requested
    rw [exec_send_of_idle idle]
    exact exec_send_of_idle idle
  · have sent := accepting.comeBack.send_writes_of_prepared activity idle prepared
    have taken := accepts_bookless.send accepting.within_accepts document activity s
    have counted := accepting.send_cancelled document activity idle
    apply Returns.mono ((sent.and taken).and counted)
    rintro result t ⟨⟨⟨entries, diary, preparing, streaming, answer, middle, rfl, there, opened,
      silent, gone, answered, busy⟩, others, written, accepted⟩, cancellations⟩
    -- The entries that are accepted are the ones that are known.
    rw [diary, List.append_cancel_left_eq] at written
    rw [← written] at accepted
    rw [List.forall_mem_append, List.forall_mem_append] at accepted
    obtain ⟨⟨prepared, streamed⟩, answers⟩ := accepted
    obtain ⟨size, reading, rounds, closing, positive, rfl, unsaid, went, ending⟩ :=
      gone.ending streamed opened prepared
    refine ⟨size, preparing ++ [reading], rounds, closing, answer, positive, ?_, ?_, ?_, went, busy,
      ?_, ?_⟩
    · rw [diary]
      simp
    · rw [there, ← List.append_assoc]
      exact List.prefix_append _ _
    · simp [silent, unsaid]
    · intro j small raised
      obtain ⟨last, rfl, marked⟩ := ending.broken_of_raisedIn small raised
      rw [marked] at streamed ⊢
      have linked : Linked false _ _ :=
        .cons (.notified cancelledMarker (.ok ())) false middle answered
      have waiting := linked.last_iff_raised
        (List.forall_mem_cons.mpr ⟨streamed _ (by simp), answers⟩)
      exact ⟨last, rfl, rfl, cancellations, waiting⟩
    · intro quiet
      obtain ⟨all, rfl, marked⟩ := ending.whole_of_quiet quiet
      exact ⟨all, rfl, marked, cancellations⟩

/-- Ports of a link that takes everything, and counts it. While it takes the second
notification, somebody asks to cancel. -/
def impatientPorts : Ports Nat Empty :=
  { Bench.clockPorts with
    notify := fun _ => do
      let count := (← world) + 1
      modifyWorld fun _ => count
      if count = 2 then
        modifyEndpoint fun endpoint => { endpoint with cancelRequested := true }
      return .ok ()
    sleep := fun _ => pure ()
    freeBytes := return 262144
    allocate := fun _ _ => return true }

theorem impatientPorts_accepting : impatientPorts.Accepting where
  notify bytes s := by
    have counted (n : Nat) : Returns (modifyWorld fun _ => n : Act Nat Empty Unit) s
        fun _ t => t.endpoint = s.endpoint := ⟨(), _, rfl, rfl⟩
    apply returns_world
    apply (counted _).bind
    rintro _ t same
    split
    next =>
      apply returns_modifyEndpoint
      exact returns_pure ⟨rfl, fun _ => rfl, congrArg (·.counters.cancellations) same⟩
    next =>
      refine returns_pure ⟨rfl, fun waiting => ?_, congrArg (·.counters.cancellations) same⟩
      rw [same]
      exact waiting
  sleep _ s := ⟨(), s, rfl, id, rfl⟩
  freeBytes s := ⟨_, s, rfl, id, rfl⟩
  allocate _ _ s := ⟨_, s, rfl, id, rfl⟩

/-- A document of three chunks is broken off behind the second, in whose notification the
request is made. -/
theorem cancelled_at_first_look_in_notification :
    let s : Station (Recorded Nat Entry) Empty := ⟨.fresh {}, { world := 0 }⟩
    impatientPorts.Accepting ∧ s.endpoint.sending = false ∧
      (∃ ready, exec (prepare impatientPorts.journaled (.steady (List.replicate 50 97))) s.locked =
        (.ok (.ok (List.replicate 50 97)), ready)) ∧
      Returns (send impatientPorts.journaled (.steady (List.replicate 50 97)) none) s
        fun result t => result = .error .cancelled ∧
          t.world.diary.filterMap told? =
            [(List.replicate 20 97, .ok ()), (List.replicate 20 97, .ok ()),
              (cancelledMarker, .ok ())] ∧
          ∃ size preparing rounds closing answer,
            t.world.diary = preparing ++ rounds.flatten ++ closing :: answer ∧
            List.Forall₂ (Round none)
              ((Bytes.pieces size (List.replicate 50 97)).take rounds.length) rounds ∧
            ∀ j < (Bytes.pieces size (List.replicate 50 97)).length,
              RaisedIn (preparing :: rounds) j →
                rounds.length = j ∧ closing.told? = some (cancelledMarker, .ok ()) ∧
                t.endpoint.counters.cancellations = 1 := by
  intro s
  have free : s.endpoint.sending = false := rfl
  have payload : (exec (prepare impatientPorts.journaled (.steady (List.replicate 50 97)))
      s.locked).1 = .ok (.ok (List.replicate 50 97)) := by
    decide +kernel
  have ended : (exec (send impatientPorts.journaled (.steady (List.replicate 50 97)) none) s).1 =
      .ok (.error .cancelled) := by
    decide +kernel
  have told : (exec (send impatientPorts.journaled (.steady (List.replicate 50 97)) none)
      s).2.world.diary.filterMap told? =
        [(List.replicate 20 97, .ok ()), (List.replicate 20 97, .ok ()),
          (cancelledMarker, .ok ())] := by
    decide +kernel
  have prepared : exec (prepare impatientPorts.journaled (.steady (List.replicate 50 97)))
      s.locked = (.ok (.ok (List.replicate 50 97)), (exec (prepare impatientPorts.journaled
        (.steady (List.replicate 50 97))) s.locked).2) := Prod.ext payload rfl
  obtain ⟨-, result, t, run, size, preparing, rounds, closing, answer, -, diary, -, -, went, -,
    broken, -⟩ := cancelled_at_first_look impatientPorts_accepting (.steady (List.replicate 50 97))
      none free prepared
  rw [run] at ended told
  refine ⟨impatientPorts_accepting, free, ⟨_, prepared⟩, result, t, run, Except.ok.inj ended, told,
    size, preparing, rounds, closing, answer, diary, went, ?_⟩
  intro j small raised
  obtain ⟨last, -, marked, counted, -⟩ := broken j small raised
  exact ⟨last, marked, counted⟩

end CommandLink
