import CommandLink.Proofs.Reentrance
import Mathlib.Algebra.GroupWithZero.Nat

/-!
# The account of what goes out

An endpoint counts the sends that are under way, how those ended that are over, and the chunks
that the link took. Sends may be made one after the other and while others are under way, over
whatever ports, with anything in between that does not touch the account.

The diary of such a run says when a send begins and how it ends, what the link was told, and how
many sends somebody saw who looked. What the account says is read off the diary.
-/

namespace CommandLink

open Act

variable {W H α β : Type}

/-! ## Diaries -/

/-- What happens in a run of sends. -/
inductive Event where
  | began (document : Document) (activity : Option Activity)
  | ended (result : Except SendError Unit)
  | told (bytes : Bytes) (answer : Except LinkError Unit)
  /-- Somebody looked how many sends are under way. -/
  | seen (inFlight : Nat)

namespace Event

def ended? : Event → Option (Except SendError Unit)
  | .ended result => some result
  | .began _ _ => none
  | .told _ _ => none
  | .seen _ => none

def told? : Event → Option (Bytes × Except LinkError Unit)
  | .told bytes answer => some (bytes, answer)
  | .began _ _ => none
  | .ended _ => none
  | .seen _ => none

end Event

open Event

/-! ## How sends are counted -/

/-- Before the events and behind them so many sends are under way, and whoever looks in between
sees as many as are under way then. -/
inductive Watched : Nat → List Event → Nat → Prop where
  | nothing (n) : Watched n [] n
  | began (document activity) {n events last} (further : Watched (n + 1) events last) :
    Watched n (.began document activity :: events) last
  | ended (result) {n events last} (further : Watched n events last) :
    Watched (n + 1) (.ended result :: events) last
  | told (bytes answer) {n events last} (further : Watched n events last) :
    Watched n (.told bytes answer :: events) last
  | seen {n events last} (further : Watched n events last) :
    Watched n (.seen n :: events) last

theorem Watched.append {first middle last : Nat} {events more : List Event}
    (watched : Watched first events middle) (further : Watched middle more last) :
    Watched first (events ++ more) last := by
  induction watched with
  | nothing => exact further
  | began document activity _ ih => exact .began document activity (ih further)
  | ended result _ ih => exact .ended result (ih further)
  | told bytes answer _ ih => exact .told bytes answer (ih further)
  | seen _ ih => exact .seen (ih further)

/-- Whether a send that ended so counts as failed. -/
def isFailure : Except SendError Unit → Bool
  | .ok () => false
  | .error .cancelled => false
  | .error _ => true

/-- The counters grow by sends that end with these results, and by these chunks. -/
structure Tallied (c d : Counters) (results : List (Except SendError Unit))
    (chunks : List Bytes) : Prop where
  completed : d.transmissionsCompleted = c.transmissionsCompleted + results.count (.ok ())
  cancelled : d.cancellations = c.cancellations + results.count (.error .cancelled)
  failed : d.transmissionsFailed = c.transmissionsFailed + results.countP isFailure
  timeouts : d.lockTimeouts = c.lockTimeouts + results.count (.error .lockTimeout)
  fragments : d.fragmentsSent = c.fragmentsSent + chunks.length
  bytes : d.bytesSent = (chunks.map List.length).foldl Counters.addBytes c.bytesSent

namespace Tallied

variable {c d e : Counters} {results others : List (Except SendError Unit)}
  {chunks more : List Bytes}

theorem trans (first : Tallied c d results chunks) (second : Tallied d e others more) :
    Tallied c e (results ++ others) (chunks ++ more) where
  completed := by rw [second.completed, first.completed, List.count_append, Nat.add_assoc]
  cancelled := by rw [second.cancelled, first.cancelled, List.count_append, Nat.add_assoc]
  failed := by rw [second.failed, first.failed, List.countP_append, Nat.add_assoc]
  timeouts := by rw [second.timeouts, first.timeouts, List.count_append, Nat.add_assoc]
  fragments := by rw [second.fragments, first.fragments, List.length_append, Nat.add_assoc]
  bytes := by rw [second.bytes, first.bytes, List.map_append, List.foldl_append]

/-- It does not matter which send ended first. -/
theorem perm (tallied : Tallied c d results chunks) (same : results.Perm others) :
    Tallied c d others chunks where
  completed := by rw [tallied.completed, same.count_eq]
  cancelled := by rw [tallied.cancelled, same.count_eq]
  failed := by rw [tallied.failed, same.countP_eq]
  timeouts := by rw [tallied.timeouts, same.count_eq]
  fragments := tallied.fragments
  bytes := tallied.bytes

theorem refl (c : Counters) : Tallied c c [] [] := ⟨rfl, rfl, rfl, rfl, rfl, rfl⟩

theorem of_ruled {endpoint other : Endpoint H} (same : other.ruled = endpoint.ruled) :
    Tallied endpoint.counters other.counters [] [] := by
  have counters := congrArg Endpoint.counters same
  simp only [Endpoint.ruled, Counters.mk.injEq] at counters
  constructor <;> simp [counters]

/-- Whoever had the lock did not wait for it too long. -/
theorem tally (c : Counters) {result : Except SendError Unit}
    (other : result ≠ .error .lockTimeout) : Tallied c (Counters.tally result c) [result] [] := by
  cases result with
  | ok => exact ⟨rfl, rfl, rfl, rfl, rfl, rfl⟩
  | error error =>
    cases error with
    | lockTimeout => exact absurd rfl other
    | _ => exact ⟨rfl, rfl, rfl, rfl, rfl, rfl⟩

theorem turnedAway (endpoint : Endpoint H) :
    Tallied endpoint.counters endpoint.turnedAway.counters [.error .lockTimeout] [] :=
  ⟨rfl, rfl, rfl, rfl, rfl, rfl⟩

theorem sent (c : Counters) (chunk : Bytes) : Tallied c (Counters.sent chunk c) [] [chunk] :=
  ⟨rfl, rfl, rfl, rfl, rfl, rfl⟩

/-- The byte count is the sum of the sizes, as long as it does not stop at its largest value. -/
theorem bytes_eq (tallied : Tallied c d results chunks)
    (small : c.bytesSent ≤ Counters.byteLimit) :
    d.bytesSent = min (c.bytesSent + (chunks.map List.length).sum) Counters.byteLimit := by
  rw [tallied.bytes]
  generalize chunks.map List.length = sizes
  generalize c.bytesSent = sum at small ⊢
  induction sizes generalizing sum with
  | nil => simp [small]
  | cons size rest ih =>
    have next : Counters.addBytes sum size ≤ Counters.byteLimit := Nat.min_le_right _ _
    rw [List.foldl_cons, ih _ next, List.sum_cons, Counters.addBytes]
    omega

/-- Every send is counted as completed, as cancelled or as failed, and not twice. -/
theorem total (tallied : Tallied c d results chunks) :
    d.transmissionsCompleted + d.cancellations + d.transmissionsFailed =
      c.transmissionsCompleted + c.cancellations + c.transmissionsFailed + results.length := by
  -- The three kinds of results are apart, and there is no fourth.
  have each : results.count (.ok ()) + results.count (.error .cancelled) +
      results.countP isFailure = results.length := by
    clear tallied
    induction results with
    | nil => rfl
    | cons result rest ih =>
      rw [List.count_cons, List.count_cons, List.countP_cons, List.length_cons, ← ih]
      rcases result with error | _
      · cases error <;> simp [isFailure] <;> omega
      · simp [isFailure]
        omega
  rw [tallied.completed, tallied.cancelled, tallied.failed, ← each]
  omega

end Tallied

/-! ## Runs of sends -/

/-- Nothing went on that is of account to sending. -/
structure Aside (s t : Station (Recorded W Event) H) : Prop where
  diary : t.world.diary = s.world.diary
  sending : t.endpoint.sending = s.endpoint.sending
  inFlight : t.endpoint.inFlight = s.endpoint.inFlight
  tallied : Tallied s.endpoint.counters t.endpoint.counters [] []

/-- The ports, with what they tell the peer written into the diary. -/
def Ports.announced (ports : Ports (Recorded W Event) H) : Ports (Recorded W Event) H :=
  { ports with
    notify := fun bytes => do
      let answer ← ports.notify bytes
      note [.told bytes answer]
      return answer }

/-- A send, with its beginning and its end written into the diary. -/
def accounted (ports : Ports (Recorded W Event) H) (document : Document)
    (activity : Option Activity) : Act (Recorded W Event) H (Except SendError Unit) := do
  note [.began document activity]
  let result ← send ports.announced document activity
  note [.ended result]
  return result

/-- Write down how many sends are under way. -/
def lookAround : Act (Recorded W Event) H Unit := do note [.seen (← endpoint).inFlight]

/-- A run of sends. Whoever is called by a send may go on such a run as well. -/
inductive Sends : ∀ {α : Type}, Act (Recorded W Event) H α → Prop where
  | aside {α : Type} {act : Act (Recorded W Event) H α} (calm : act.Within Aside) : Sends act
  | look : Sends lookAround
  | bind {α β : Type} {act : Act (Recorded W Event) H α} {next : α → Act (Recorded W Event) H β}
    (first : Sends act) (second : ∀ a, Sends (next a)) : Sends (act >>= next)
  | send {ports : Ports (Recorded W Event) H} (document activity)
    (notify : ∀ bytes, Sends (ports.notify bytes)) (sleep : ∀ time, Sends (ports.sleep time))
    (freeBytes : Sends ports.freeBytes)
    (allocate : ∀ pool size, Sends (ports.allocate pool size)) :
    Sends (accounted ports document activity)

/-! ## What a run does to the account -/

/-- From one station to another these events happened, and these chunks were counted. -/
structure Balance (s t : Station (Recorded W Event) H) (events : List Event)
    (chunks : List Bytes) : Prop where
  diary : t.world.diary = s.world.diary ++ events
  sending : t.endpoint.sending = s.endpoint.sending
  inFlight : t.endpoint.inFlight = s.endpoint.inFlight
  watched : Watched s.endpoint.inFlight events t.endpoint.inFlight
  tallied : Tallied s.endpoint.counters t.endpoint.counters (events.filterMap ended?) chunks

namespace Balance

variable {s t u : Station (Recorded W Event) H} {events more : List Event}
  {chunks rest : List Bytes}

theorem trans (first : Balance s t events chunks) (second : Balance t u more rest) :
    Balance s u (events ++ more) (chunks ++ rest) where
  diary := by rw [second.diary, first.diary, List.append_assoc]
  sending := second.sending.trans first.sending
  inFlight := second.inFlight.trans first.inFlight
  watched := first.watched.append second.watched
  tallied := by
    rw [List.filterMap_append]
    exact first.tallied.trans second.tallied

theorem of_aside (aside : Aside s t) : Balance s t [] [] where
  diary := by rw [aside.diary, List.append_nil]
  sending := aside.sending
  inFlight := aside.inFlight
  watched := by
    rw [aside.inFlight]
    exact .nothing _
  tallied := aside.tallied

/-- Without an event, only chunks are counted. -/
theorem of_tallied {endpoint : Endpoint H} (sending : endpoint.sending = s.endpoint.sending)
    (inFlight : endpoint.inFlight = s.endpoint.inFlight)
    (tallied : Tallied s.endpoint.counters endpoint.counters [] chunks) :
    Balance s { s with endpoint } [] chunks where
  diary := (List.append_nil _).symm
  sending := sending
  inFlight := inFlight
  watched := by
    rw [inFlight]
    exact .nothing _
  tallied := tallied

end Balance

/-- The same, with only what was said of the events. -/
def Episode (s t : Station (Recorded W Event) H) (said : List (Bytes × Except LinkError Unit))
    (chunks : List Bytes) : Prop :=
  ∃ events, Balance s t events chunks ∧ events.filterMap told? = said

theorem Episode.trans {s t u : Station (Recorded W Event) H}
    {said others : List (Bytes × Except LinkError Unit)} {chunks rest : List Bytes}
    (first : Episode s t said chunks) (second : Episode t u others rest) :
    Episode s u (said ++ others) (chunks ++ rest) := by
  obtain ⟨events, balance, rfl⟩ := first
  obtain ⟨more, further, rfl⟩ := second
  exact ⟨events ++ more, balance.trans further, List.filterMap_append⟩

theorem Episode.held {s t : Station (Recorded W Event) H}
    {said : List (Bytes × Except LinkError Unit)} {chunks : List Bytes}
    (episode : Episode s t said chunks) (held : s.endpoint.sending = true) :
    t.endpoint.sending = true := by
  obtain ⟨events, balance, -⟩ := episode
  exact balance.sending.trans held

/-- The chunks that the link took in a run. A send that finds the lock free says what is said on
its course, and gives the "busy" answer behind it or not. Whoever else sends meanwhile says
nothing. -/
inductive Contents : List Event → List Bytes → Prop where
  | nothing : Contents [] []
  | seen (n) {events chunks} (further : Contents events chunks) :
    Contents (.seen n :: events) chunks
  | send {document activity result during us busy chunks events more}
    (told : during.filterMap told? = (us ++ busy).map Utterance.told)
    (transit : Transit maxChunk document activity result us chunks)
    (answer : busy = [] ∨ Inline maxChunk "Transmission busy" "busy" busy)
    (further : Contents events more) :
    Contents (.began document activity :: during ++ .ended result :: events) (chunks ++ more)

theorem Contents.append {events others : List Event} {chunks more : List Bytes}
    (contents : Contents events chunks) (further : Contents others more) :
    Contents (events ++ others) (chunks ++ more) := by
  induction contents with
  | nothing => exact further
  | seen n _ ih => exact .seen n ih
  | send told transit answer _ ih =>
    have behind := Contents.send told transit answer ih
    simpa using behind

/-- A run comes back with its account balanced. Where the lock is held it says nothing. -/
def Act.Balanced (act : Act (Recorded W Event) H α) : Prop :=
  ∀ s, Returns act s fun _ t => ∃ events chunks, Balance s t events chunks ∧
    (s.endpoint.sending = false → Contents events chunks) ∧
    (s.endpoint.sending = true → chunks = [] ∧ events.filterMap told? = [])

namespace Act

theorem balanced_aside {act : Act (Recorded W Event) H α} (calm : act.Within Aside) :
    act.Balanced := by
  intro s
  apply (calm s).mono
  intro _ t aside
  exact ⟨[], [], .of_aside aside, fun _ => .nothing, fun _ => ⟨rfl, rfl⟩⟩

theorem balanced_lookAround : (lookAround : Act (Recorded W Event) H Unit).Balanced := by
  intro s
  have seen : Balance s (s.record [.seen s.endpoint.inFlight] s.endpoint)
      [.seen s.endpoint.inFlight] [] :=
    ⟨rfl, rfl, rfl, .seen (.nothing _), .refl _⟩
  exact ⟨(), _, rfl, _, _, seen, fun _ => .seen _ .nothing, fun _ => ⟨rfl, rfl⟩⟩

theorem Balanced.bind {act : Act (Recorded W Event) H α} {next : α → Act (Recorded W Event) H β}
    (first : act.Balanced) (second : ∀ a, (next a).Balanced) : (act >>= next).Balanced := by
  intro s
  apply (first s).bind
  rintro a t ⟨events, chunks, balance, contents, silent⟩
  apply (second a t).mono
  rintro b u ⟨more, rest, further, others, quiet⟩
  refine ⟨events ++ more, chunks ++ rest, balance.trans further, ?_, ?_⟩
  · intro free
    exact (contents free).append (others (balance.sending.trans free))
  · intro held
    obtain ⟨rfl, none⟩ := silent held
    obtain ⟨rfl, nothing⟩ := quiet (balance.sending.trans held)
    refine ⟨rfl, ?_⟩
    rw [List.filterMap_append, none, nothing]
    rfl

/-- Where the lock is held, nothing is said and no chunk is counted. -/
theorem Balanced.silent {act : Act (Recorded W Event) H α} (balanced : act.Balanced)
    {s : Station (Recorded W Event) H} (held : s.endpoint.sending = true) :
    Returns act s fun _ t => Episode s t [] [] := by
  apply (balanced s).mono
  rintro _ t ⟨events, chunks, balance, -, silent⟩
  obtain ⟨rfl, none⟩ := silent held
  exact ⟨events, balance, none⟩

end Act

/-- Ports that go on runs of sends. -/
structure Ports.Balanced (ports : Ports (Recorded W Event) H) : Prop where
  notify : ∀ bytes, (ports.notify bytes).Balanced
  sleep : ∀ time, (ports.sleep time).Balanced
  freeBytes : ports.freeBytes.Balanced
  allocate : ∀ pool size, (ports.allocate pool size).Balanced

namespace Ports.Balanced

variable {ports : Ports (Recorded W Event) H} (balanced : ports.Balanced)

include balanced

theorem announced_comeBack : ports.announced.ComeBack where
  notify bytes s := (balanced.notify bytes s).bind fun _ _ _ =>
    returns_note (returns_pure trivial)
  sleep time s := (balanced.sleep time s).mono fun _ _ _ => trivial
  freeBytes s := (balanced.freeBytes s).mono fun _ _ _ => trivial
  allocate pool size s := (balanced.allocate pool size s).mono fun _ _ _ => trivial

/-- Whoever sends during a notification says nothing, so the notification is all that is said. -/
theorem notify_announced (bytes : Bytes) {s : Station (Recorded W Event) H}
    (held : s.endpoint.sending = true) :
    Returns (ports.announced.notify bytes) s fun answer t => Episode s t [(bytes, answer)] [] := by
  apply ((balanced.notify bytes).silent held).bind
  intro answer t silent
  apply returns_note
  apply returns_pure
  have told : Episode t (t.record [.told bytes answer] t.endpoint) [(bytes, answer)] [] :=
    ⟨[.told bytes answer], ⟨rfl, rfl, rfl, .told _ _ (.nothing _), .refl _⟩, rfl⟩
  exact silent.trans told

/-- Each step of whoever holds the lock is balanced, so the whole trail is. -/
theorem episode_of_trail {s t : Station (Recorded W Event) H} {us : List Utterance}
    {chunks : List Bytes} (trail : Trail ports.announced s us chunks t)
    (held : s.endpoint.sending = true) : Episode s t (us.map Utterance.told) chunks := by
  induction trail with
  | done s => exact ⟨[], .of_tallied rfl rfl (.refl _), rfl⟩
  | said signal run _ ih =>
    have told := Returns.of_exec (balanced.notify_announced signal.bytes held) run
    exact told.trans (ih (told.held held))
  | slept run _ ih =>
    have silent := Returns.of_exec ((balanced.sleep _).silent held) run
    exact silent.trans (ih (silent.held held))
  | read run _ ih =>
    have silent := Returns.of_exec (balanced.freeBytes.silent held) run
    exact silent.trans (ih (silent.held held))
  | asked run _ ih =>
    have silent := Returns.of_exec ((balanced.allocate _ _).silent held) run
    exact silent.trans (ih (silent.held held))
  | @sent chunk s _ _ _ _ ih =>
    have counted : Episode s { s with endpoint := s.endpoint.count (Counters.sent chunk) } []
        [chunk] :=
      ⟨[], .of_tallied rfl rfl (.sent _ _), rfl⟩
    exact counted.trans (ih held)
  | @booked s _ _ _ endpoint same _ ih =>
    -- What is left out here is neither the lock nor a counter of the account.
    have sending : endpoint.sending = s.endpoint.sending := by
      have ruled := congrArg Endpoint.sending same
      exact ruled
    have inFlight : endpoint.inFlight = s.endpoint.inFlight := by
      have ruled := congrArg Endpoint.inFlight same
      exact ruled
    have booked : Episode s { s with endpoint } [] [] :=
      ⟨[], .of_tallied sending inFlight (.of_ruled same), rfl⟩
    exact booked.trans (ih (sending.trans held))

end Ports.Balanced

/-! ## Sends that are accounted for -/

/-- A send that finds the lock held is over at once, and is counted as a timeout that failed. -/
theorem accounted_of_held (ports : Ports (Recorded W Event) H) (document : Document)
    (activity : Option Activity) {s : Station (Recorded W Event) H}
    (held : s.endpoint.sending = true) :
    Returns (accounted ports document activity) s fun _ t =>
      Balance s t [.began document activity, .ended (.error .lockTimeout)] [] := by
  apply returns_note
  have turned : Returns (send ports.announced document activity)
      (s.record [.began document activity] s.endpoint) fun result t =>
        result = .error .lockTimeout ∧
          t = s.record [.began document activity] s.endpoint.turnedAway :=
    ⟨_, _, exec_send_of_held _ _ _ held, rfl, rfl⟩
  apply turned.bind
  rintro _ _ ⟨rfl, rfl⟩
  apply returns_note
  apply returns_pure
  exact
    { diary := by simp [Station.record]
      sending := rfl
      inFlight := rfl
      watched := .began _ _ (.ended _ (.nothing _))
      tallied := .turnedAway s.endpoint }

theorem Transit.result_ne {limit : Nat} {document : Document} {activity : Option Activity}
    {result : Except SendError Unit} {us : List Utterance} {chunks : List Bytes}
    (transit : Transit limit document activity result us chunks) :
    result ≠ .error .lockTimeout := by
  cases transit with
  | unsaid error other => exact fun same => other (Except.error.inj same)
  | inline error message kind other => exact fun same => other (Except.error.inj same)
  | told written positive small telling =>
    clear written
    generalize Bytes.pieces _ _ = pieces at telling
    induction telling with
    | taken chunk progress further ih => exact ih
    | _ => exact nofun

namespace Ports.Balanced

variable {ports : Ports (Recorded W Event) H} (balanced : ports.Balanced)

include balanced

/-- A send that finds the lock free counts how it ended before it gives the "busy" answer, and
others may end before and behind that. -/
theorem send_announced (document : Document) (activity : Option Activity)
    {s : Station (Recorded W Event) H} (idle : s.endpoint.sending = false) :
    Returns (send ports.announced document activity) s fun result t => ∃ during us busy chunks,
      t.world.diary = s.world.diary ++ during ∧ t.endpoint.sending = false ∧
      t.endpoint.inFlight = s.endpoint.inFlight ∧
      Watched (s.endpoint.inFlight + 1) during (s.endpoint.inFlight + 1) ∧
      Tallied s.endpoint.counters t.endpoint.counters (during.filterMap ended? ++ [result])
        chunks ∧
      during.filterMap told? = (us ++ busy).map Utterance.told ∧
      Transit maxChunk document activity result us chunks ∧
      (busy = [] ∨ Inline maxChunk "Transmission busy" "busy" busy) := by
  have back := balanced.announced_comeBack
  apply returns_send_of_idle idle
  apply Returns.mono (back.transmit_follows document activity (ports.announced.narrow_maxChunk _))
  rintro result t ⟨us, chunks, trail, transit⟩
  apply Returns.mono (back.answerBusy_follows (ports.announced.narrow_maxChunk _))
  rintro _ u ⟨busy, _, further, answer, rfl⟩
  obtain ⟨events, sent, said⟩ := balanced.episode_of_trail trail rfl
  obtain ⟨more, answered, given⟩ := balanced.episode_of_trail further sent.sending
  -- Both trails begin with this send under way, and the lock is held on both.
  have level : u.endpoint.inFlight = s.endpoint.inFlight + 1 :=
    answered.inFlight.trans sent.inFlight
  refine ⟨events ++ more, us, busy, chunks, ?_, rfl, ?_, ?_, ?_, ?_, transit, answer⟩
  · change u.world.diary = _
    rw [answered.diary, ← List.append_assoc]
    exact congrArg (· ++ more) sent.diary
  · change u.endpoint.inFlight - 1 = _
    rw [level]
    rfl
  · have watched := sent.watched.append answered.watched
    rw [level] at watched
    exact watched
  · -- The counters know of this end before those behind it, the diary only afterwards.
    have tallied := (sent.tallied.trans (.tally _ transit.result_ne)).trans answered.tallied
    rw [List.append_nil, List.append_nil] at tallied
    apply tallied.perm
    rw [List.filterMap_append, List.append_assoc, List.append_assoc]
    exact List.perm_append_comm.append_left _
  · rw [List.filterMap_append, said, given, List.map_append]

theorem accounted_balanced (document : Document) (activity : Option Activity) :
    (accounted ports document activity).Balanced := by
  intro s
  cases sending : s.endpoint.sending with
  | true =>
    apply (accounted_of_held ports document activity sending).mono
    intro _ t balance
    exact ⟨_, [], balance, fun idle => Bool.noConfusion idle, fun _ => ⟨rfl, rfl⟩⟩
  | false =>
    have begun : (s.record [.began document activity] s.endpoint).endpoint.sending = false :=
      sending
    apply returns_note
    apply (balanced.send_announced document activity begun).bind
    rintro result t ⟨during, us, busy, chunks, diary, free, inFlight, watched, tallied, told,
      transit, answer⟩
    apply returns_note
    apply returns_pure
    have behind := watched.append (.ended result (.nothing s.endpoint.inFlight))
    have balance : Balance s (t.record [.ended result] t.endpoint)
        (.began document activity :: during ++ [.ended result]) chunks :=
      { diary := by simp [Station.record, diary]
        sending := free.trans sending.symm
        inFlight := inFlight
        watched := by
          change Watched s.endpoint.inFlight _ t.endpoint.inFlight
          rw [inFlight]
          exact .began document activity behind
        tallied := by
          rw [List.cons_append, List.filterMap_cons_none rfl, List.filterMap_append]
          exact tallied }
    refine ⟨_, chunks, balance, fun _ => ?_, fun held => Bool.noConfusion held⟩
    have contents := Contents.send told transit answer .nothing
    rw [List.append_nil] at contents
    exact contents

end Ports.Balanced

/-- Whatever goes on a run of sends, its account is balanced. -/
theorem Sends.balanced {act : Act (Recorded W Event) H α} (sends : Sends act) : act.Balanced := by
  induction sends with
  | aside calm => exact balanced_aside calm
  | look => exact balanced_lookAround
  | bind _ _ first second => exact first.bind second
  | send document activity _ _ _ _ notify sleep freeBytes allocate =>
    exact Ports.Balanced.accounted_balanced ⟨notify, sleep, freeBytes, allocate⟩ document activity

/-- In a run of sends, over whatever ports and with whoever is called sending as well, so many
sends are counted as under way at every moment as have begun and not ended, and behind the run as
many as before it. Each send that ended is counted once, as completed, as cancelled or as failed,
as its result says, and as a timeout exactly if it was one. The chunks that are counted, in number
and in size, are those of the documents that the link took, and nothing else that it was told. -/
theorem outbound_account_balances {act : Act (Recorded W Event) H α} (sends : Sends act)
    (s : Station (Recorded W Event) H) :
    Returns act s fun _ t => ∃ events chunks, t.world.diary = s.world.diary ++ events ∧
      t.endpoint.inFlight = s.endpoint.inFlight ∧
      Watched s.endpoint.inFlight events t.endpoint.inFlight ∧
      (let results := events.filterMap ended?
        let before := s.endpoint.counters
        let after := t.endpoint.counters
        after.transmissionsCompleted = before.transmissionsCompleted + results.count (.ok ()) ∧
        after.cancellations = before.cancellations + results.count (.error .cancelled) ∧
        after.transmissionsFailed = before.transmissionsFailed + results.countP isFailure ∧
        after.transmissionsCompleted + after.cancellations + after.transmissionsFailed =
          before.transmissionsCompleted + before.cancellations + before.transmissionsFailed +
            results.length ∧
        after.lockTimeouts = before.lockTimeouts + results.count (.error .lockTimeout) ∧
        after.fragmentsSent = before.fragmentsSent + chunks.length ∧
        (before.bytesSent ≤ Counters.byteLimit →
          after.bytesSent =
            min (before.bytesSent + (chunks.map List.length).sum) Counters.byteLimit)) ∧
      (s.endpoint.sending = false → Contents events chunks) ∧
      (s.endpoint.sending = true → chunks = [] ∧ events.filterMap told? = []) := by
  apply (sends.balanced s).mono
  rintro _ t ⟨events, chunks, balance, contents, silent⟩
  obtain ⟨diary, -, inFlight, watched, tallied⟩ := balance
  exact ⟨events, chunks, diary, inFlight, watched,
    ⟨tallied.completed, tallied.cancelled, tallied.failed, tallied.total, tallied.timeouts,
      tallied.fragments, tallied.bytes_eq⟩, contents, silent⟩

theorem sends_pure (a : α) : Sends (pure a : Act (Recorded W Event) H α) :=
  .aside fun _ => returns_pure ⟨rfl, rfl, rfl, .refl _⟩

theorem sends_lift {act : Act W H α}
    (calm : act.Within fun s t => t.endpoint = s.endpoint) :
    Sends (lift act : Act (Recorded W Event) H α) := by
  apply Sends.aside
  intro s
  apply (returns_lift (calm _)).mono
  rintro a t ⟨same, silent⟩
  have endpoint : t.endpoint = s.endpoint := same
  exact ⟨silent, by rw [endpoint], by rw [endpoint], by rw [endpoint]; exact .refl _⟩

/-- Ports of a link that takes everything. With each notification and in each pause somebody else
sends, and looks around afterwards. -/
def sociablePorts : Ports (Recorded Nat Event) Empty :=
  let visit : Act (Recorded Nat Event) Empty Unit := do
    let _ ← accounted openPorts.lifted (.steady [98]) none
    lookAround
  { openPorts.lifted with
    notify := fun _ => do
      visit
      return .ok ()
    sleep := fun time => do
      visit
      lift (openPorts.sleep time) }

theorem sends_openPorts (document : Document) (activity : Option Activity) :
    Sends (accounted openPorts.lifted document activity) := by
  apply Sends.send
  case notify => exact fun _ => sends_lift fun _ => returns_pure rfl
  case sleep => exact fun _ => sends_lift fun _ => ⟨_, _, rfl, rfl⟩
  case freeBytes => exact sends_lift fun _ => returns_pure rfl
  case allocate => exact fun _ _ => sends_lift fun _ => returns_pure rfl

theorem sends_sociablePorts (document : Document) (activity : Option Activity) :
    Sends (accounted sociablePorts document activity) := by
  have visit := (sends_openPorts (.steady [98]) none).bind fun _ => Sends.look
  apply Sends.send
  case notify => exact fun _ => visit.bind fun _ => sends_pure _
  case sleep => exact fun _ => visit.bind fun _ => sends_lift fun _ => ⟨_, _, rfl, rfl⟩
  case freeBytes => exact sends_lift fun _ => returns_pure rfl
  case allocate => exact fun _ _ => sends_lift fun _ => returns_pure rfl

/-- One document goes out as one chunk, and eight sends by others meanwhile are turned away. -/
theorem outbound_account_balances_with_visitors :
    let before : Station (Recorded Nat Event) Empty := ⟨.fresh {}, { world := 0 }⟩
    let after := (exec (accounted sociablePorts (.steady [97]) none) before).2
    let results := after.world.diary.filterMap ended?
    let counters := after.endpoint.counters
    Watched 0 after.world.diary 0 ∧ after.endpoint.inFlight = 0 ∧
      results = List.replicate 8 (.error .lockTimeout) ++ [.ok ()] ∧
      counters.transmissionsCompleted = 1 ∧ counters.cancellations = 0 ∧
      counters.transmissionsFailed = 8 ∧ counters.lockTimeouts = 8 ∧
      ∃ chunk, Contents after.world.diary [chunk] ∧ counters.bytesSent = chunk.length := by
  intro before after results counters
  have ended : results = List.replicate 8 (.error .lockTimeout) ++ [.ok ()] := by decide +kernel
  have once : counters.fragmentsSent = 1 := by decide +kernel
  have little : counters.bytesSent < Counters.byteLimit := by decide +kernel
  obtain ⟨_, t, run, events, chunks, diary, level, watched, tallied, contents, -⟩ :=
    outbound_account_balances (sends_sociablePorts (.steady [97]) none) before
  obtain ⟨completed, cancelled, failed, -, timeouts, fragments, bytes⟩ := tallied
  obtain rfl : after = t := congrArg Prod.snd run
  obtain rfl : after.world.diary = events := diary
  have told : after.world.diary.filterMap ended? = _ := ended
  rw [told] at completed cancelled failed timeouts
  rw [level] at watched
  refine ⟨watched, level, ended, completed, cancelled, failed, timeouts, ?_⟩
  have single : chunks.length = 1 := by
    rw [← once, show counters.fragmentsSent = _ from fragments]
    exact (Nat.zero_add _).symm
  obtain ⟨chunk, rfl⟩ := List.length_eq_one_iff.mp single
  refine ⟨chunk, contents rfl, ?_⟩
  have sum : counters.bytesSent = min (0 + (chunk.length + 0)) Counters.byteLimit :=
    bytes (Nat.zero_le _)
  omega

end CommandLink
