import CommandLink.Proofs.Speech
import Mathlib.Data.List.Forall2

/-!
# Where documents end for the peer

The peer puts together what comes between two terminators. A refusal of the link is not
known to it: what went out of a document that was given up stays with the peer, and the next
document is put behind it. A `Listener` puts the same bytes together, and also notes how much
it had when something was refused. That much is stale, and what comes behind it up to an end
marker is exactly what was meant.
-/

namespace CommandLink

/-- What was put together up to an end marker. -/
structure Heard where
  /-- All that the link took since the terminator before. -/
  bytes : Bytes
  /-- What it had taken when it last refused something since then. -/
  stale : Bytes
  deriving DecidableEq

structure Listener where
  /-- What was closed by an end marker, oldest first. -/
  documents : List Heard := []
  bytes : Bytes := []
  stale : Bytes := []

namespace Listener

/-- Take note of a notification. Reports of progress are passed over. -/
def hear (listener : Listener) (utterance : Utterance) : Listener :=
  match utterance.signal, utterance.answer with
  | .progress _ _ _, _ => listener
  | .content bytes, .ok () => { listener with bytes := listener.bytes ++ bytes }
  | .finished, .ok () =>
    { documents := listener.documents ++ [⟨listener.bytes, listener.stale⟩] }
  | .cancelled, .ok () => { documents := listener.documents }
  | _, .error _ => { listener with stale := listener.bytes }

def hearAll (listener : Listener) (us : List Utterance) : Listener := us.foldl hear listener

theorem hearAll_append (listener : Listener) (us more : List Utterance) :
    listener.hearAll (us ++ more) = (listener.hearAll us).hearAll more := List.foldl_append

theorem hearAll_cons (listener : Listener) (u : Utterance) (us : List Utterance) :
    listener.hearAll (u :: us) = (listener.hear u).hearAll us := rfl

/-- Whatever is left over is known to be stale. -/
def Settled (listener : Listener) : Prop := listener.bytes = listener.stale

end Listener

/-- What is meant by notifications up to an end marker: a document, or an inline error. -/
inductive Meant where
  | document (text : Bytes)
  | inline (message kind : String)

namespace Meant

def text : Meant → Bytes
  | .document text => text
  | .inline message kind => Bytes.ofText (Reply.inlineError message kind)

def document? : Meant → Option Bytes
  | .document text => some text
  | .inline _ _ => none

/-- Behind what is stale, and before the marker, exactly what was meant is heard. -/
def IsHeard (meant : Meant) (heard : Heard) : Prop := heard.bytes = heard.stale ++ meant.text

end Meant

/-! ## What is heard of a speech -/

/-- With these notifications a listener hears what is meant, and is settled behind them. -/
structure Listener.Hears (listener : Listener) (us : List Utterance) (meant : List Meant) :
    Prop where
  settled : (listener.hearAll us).Settled
  documents : ∃ new, (listener.hearAll us).documents = listener.documents ++ new ∧
    List.Forall₂ Meant.IsHeard meant new

namespace Listener.Hears

variable {listener : Listener} {us more : List Utterance} {meant others : List Meant}

theorem nothing (settled : listener.Settled) : listener.Hears [] [] :=
  ⟨settled, [], (List.append_nil _).symm, .nil⟩

theorem append (first : listener.Hears us meant)
    (second : (listener.hearAll us).Hears more others) :
    listener.Hears (us ++ more) (meant ++ others) := by
  obtain ⟨new, documents, heard⟩ := first.documents
  obtain ⟨newer, further, also⟩ := second.documents
  constructor
  · rw [listener.hearAll_append]
    exact second.settled
  · refine ⟨new ++ newer, ?_, List.rel_append heard also⟩
    rw [listener.hearAll_append, further, documents, List.append_assoc]

/-- The end marker closes what is meant. -/
theorem closed {one : Meant} (settled : listener.Settled)
    (heard : listener.hearAll us =
      { documents := listener.documents ++ [⟨listener.bytes ++ one.text, listener.stale⟩] }) :
    listener.Hears us [one] := by
  constructor
  · rw [heard]
    rfl
  · refine ⟨[⟨listener.bytes ++ one.text, listener.stale⟩], by rw [heard], .cons ?_ .nil⟩
    exact congrArg (· ++ one.text) settled

/-- Nothing is heard of what was broken off. -/
theorem void (heard : listener.hearAll us = { documents := listener.documents }) :
    listener.Hears us [] := by
  constructor
  · rw [heard]
    rfl
  · exact ⟨[], by rw [heard, List.append_nil], .nil⟩

/-- What is left over behind a refusal is stale. -/
theorem refused {bytes : Bytes}
    (heard : listener.hearAll us = { listener with bytes, stale := bytes }) :
    listener.Hears us [] := by
  constructor
  · rw [heard]
    rfl
  · exact ⟨[], by rw [heard, List.append_nil], .nil⟩

end Listener.Hears

/-- Pieces and their end marker are heard whole, or a refusal is noted. -/
theorem Recited.heard {pieces : List Bytes} {us : List Utterance} (listener : Listener)
    (recited : Recited (pieces.map .content ++ [.finished]) us) :
    listener.hearAll us = { documents :=
      listener.documents ++ [⟨listener.bytes ++ pieces.flatten, listener.stale⟩] } ∨
    ∃ bytes, listener.hearAll us = { listener with bytes, stale := bytes } := by
  induction pieces generalizing us listener with
  | nil =>
    cases recited with
    | refused _ _ error => exact .inr ⟨listener.bytes, rfl⟩
    | taken _ further =>
      cases further
      left
      rw [List.flatten_nil, List.append_nil]
      rfl
  | cons piece rest ih =>
    cases recited with
    | refused _ _ error => exact .inr ⟨listener.bytes, rfl⟩
    | taken _ further =>
      -- The rest is heard with this piece in front of it.
      rcases ih { listener with bytes := listener.bytes ++ piece } further with
        whole | ⟨bytes, broken⟩
      · left
        rw [Listener.hearAll_cons, List.flatten_cons, ← List.append_assoc]
        exact whole
      · exact .inr ⟨bytes, broken⟩

theorem Inline.hears {limit : Nat} {message kind : String} {us : List Utterance}
    (given : Inline limit message kind us) {listener : Listener} (settled : listener.Settled) :
    listener.Hears us [.inline message kind] ∨ listener.Hears us [] := by
  obtain ⟨size, -, -, recited⟩ := given
  rcases recited.heard listener with whole | ⟨bytes, broken⟩
  · rw [Bytes.pieces_flatten] at whole
    exact .inl (.closed settled whole)
  · exact .inr (.refused broken)

theorem Listener.hearAll_progress {activity : Option Activity} {asides : List Utterance}
    (progress : ∀ aside ∈ asides, ∃ reported done total,
      activity = some reported ∧ aside.signal = .progress reported done total)
    (listener : Listener) : listener.hearAll asides = listener := by
  induction asides with
  | nil => rfl
  | cons aside rest ih =>
    obtain ⟨reported, done, total, -, report⟩ := progress aside List.mem_cons_self
    have passed : listener.hear aside = listener := by simp only [hear, report]
    rw [hearAll_cons, passed]
    exact ih fun other member => progress other (List.mem_cons_of_mem _ member)

/-- Chunks are heard whole exactly when the document went out. -/
theorem Telling.heard {activity : Option Activity} {chunks : List Bytes}
    {result : Except SendError Unit} {us : List Utterance}
    (telling : Telling activity chunks result us) (listener : Listener) :
    (result = .ok () ∧ listener.hearAll us = { documents :=
      listener.documents ++ [⟨listener.bytes ++ chunks.flatten, listener.stale⟩] }) ∨
    ∃ error, result = .error error ∧ (listener.hearAll us = { documents := listener.documents } ∨
      ∃ bytes, listener.hearAll us = { listener with bytes, stale := bytes }) := by
  -- The listener is general, since every chunk that is taken adds to what it has.
  induction telling generalizing listener with
  | finished =>
    left
    rw [List.flatten_nil, List.append_nil]
    exact ⟨rfl, rfl⟩
  | unfinished error => exact .inr ⟨_, rfl, .inr ⟨listener.bytes, rfl⟩⟩
  | cancelled chunk rest => exact .inr ⟨_, rfl, .inl rfl⟩
  | uncancelled chunk rest error => exact .inr ⟨_, rfl, .inr ⟨listener.bytes, rfl⟩⟩
  | refused chunk rest error => exact .inr ⟨_, rfl, .inr ⟨listener.bytes, rfl⟩⟩
  | @taken chunk rest result asides us progress further ih =>
    -- Reports of progress between the chunks leave no trace.
    have heard : listener.hearAll (⟨.content chunk, .ok ()⟩ :: asides ++ us) =
        { listener with bytes := listener.bytes ++ chunk }.hearAll us := by
      rw [List.cons_append, Listener.hearAll_cons, Listener.hearAll_append]
      exact congrArg (·.hearAll us) (Listener.hearAll_progress progress _)
    rw [heard, List.flatten_cons, ← List.append_assoc]
    exact ih { listener with bytes := listener.bytes ++ chunk }

/-- What a document that was sent amounts to, if it went out. -/
def Document.completed? (document : Document) : Except SendError Unit → Option Bytes
  | .ok () => document.written
  | .error _ => none

theorem Course.hears {limit : Nat} {document : Document} {activity : Option Activity}
    {result : Except SendError Unit} {us : List Utterance}
    (course : Course limit document activity result us) {listener : Listener}
    (settled : listener.Settled) :
    ∃ meant, listener.Hears us meant ∧
      meant.filterMap Meant.document? = (document.completed? result).toList := by
  cases course with
  | unsaid error => exact ⟨[], .nothing settled, rfl⟩
  | inline error message kind given =>
    rcases given.hears settled with heard | unheard
    · exact ⟨_, heard, rfl⟩
    · exact ⟨_, unheard, rfl⟩
  | @told payload size _ _ written positive small telling =>
    have heard := telling.heard listener
    rw [Bytes.pieces_flatten] at heard
    rcases heard with ⟨rfl, whole⟩ | ⟨error, rfl, void | ⟨bytes, broken⟩⟩
    · refine ⟨[.document payload], .closed settled whole, ?_⟩
      simp [Document.completed?, written, Meant.document?]
    · exact ⟨[], .void void, rfl⟩
    · exact ⟨[], .refused broken, rfl⟩

theorem Speech.hears {limit : Nat} {document : Document} {activity : Option Activity}
    {result : Except SendError Unit} {us : List Utterance}
    (speech : Speech limit document activity result us) {listener : Listener}
    (settled : listener.Settled) :
    ∃ meant, listener.Hears us meant ∧
      meant.filterMap Meant.document? = (document.completed? result).toList := by
  cases speech with
  | locked => exact ⟨[], .nothing settled, rfl⟩
  | held course answer =>
    obtain ⟨meant, heard, own⟩ := course.hears settled
    rcases answer with rfl | given
    · rw [List.append_nil]
      exact ⟨meant, heard, own⟩
    · -- The answer comes behind a terminator, or behind what is known to be stale.
      rcases given.hears heard.settled with also | unheard
      · exact ⟨_, heard.append also, by simp [own, Meant.document?]⟩
      · exact ⟨_, heard.append unheard, by simp [own]⟩

/-! ## One document after the other -/

variable {W H : Type}

/-- A document to send, after whatever else goes on before. -/
structure Errand (W H : Type) where
  before : Act W H Unit
  comesBack : Act.Within (fun _ _ => True) before
  document : Document
  activity : Option Activity

open Act

def Errand.run (ports : Ports W H) (errand : Errand W H) :
    Act (Recorded W Call) H (Except SendError Unit) := do
  lift errand.before
  send ports.logged errand.document errand.activity

/-- What an errand with this result said. -/
def Errand.Said (outcome : Errand W H × Except SendError Unit) (us : List Utterance) : Prop :=
  Speech maxChunk outcome.1.document outcome.1.activity outcome.2 us

theorem unrestricted_bookless : Bookless fun _ _ : Station W H => True where
  refl _ := trivial
  trans _ _ _ _ _ := trivial
  books _ _ _ := trivial

theorem Errand.run_tells {ports : Ports W H} (within : ports.Within fun _ _ => True)
    (errand : Errand W H) (s : Station (Recorded W Call) H) :
    Tells (fun _ _ => True) (errand.run ports) s fun result us =>
      Errand.Said (errand, result) us := by
  have before : Tells (fun _ _ => True) (lift errand.before) s fun _ us => us = [] := by
    refine (returns_lift (errand.comesBack _)).mono fun _ t known => ?_
    refine ⟨[], ⟨trivial, ?_⟩, rfl⟩
    simp [known.2]
  refine unrestricted_bookless.tells_bind before fun _ t us _ silent => ?_
  subst silent
  -- No more is needed of the link here than that its chunks have some bound.
  have capped : ports.Fitting (fun _ _ => True) t.bare maxChunk :=
    fun m _ => (m.endpoint.state.chunkSize_bounds _).2
  exact unrestricted_bookless.send_tells within capped errand.document errand.activity trivial

theorem errands_tell {ports : Ports W H} (within : ports.Within fun _ _ => True)
    (errands : List (Errand W H)) (s : Station (Recorded W Call) H) :
    Tells (fun _ _ => True) (errands.mapM (·.run ports)) s fun results us =>
      results.length = errands.length ∧
      ∃ speeches, us = speeches.flatten ∧
        List.Forall₂ Errand.Said (errands.zip results) speeches := by
  induction errands generalizing s with
  | nil => exact unrestricted_bookless.tells_pure ⟨rfl, [], rfl, .nil⟩
  | cons errand rest ih =>
    rw [List.mapM_cons]
    refine unrestricted_bookless.tells_bind (errand.run_tells within s)
      fun result t us _ said => ?_
    refine unrestricted_bookless.tells_bind (ih t) fun results u more _ known => ?_
    obtain ⟨length, speeches, rfl, others⟩ := known
    refine unrestricted_bookless.tells_pure ⟨by simp [length], us :: speeches, by simp, ?_⟩
    exact .cons said others

theorem Listener.hears_speeches {outcomes : List (Errand W H × Except SendError Unit)}
    {speeches : List (List Utterance)} (said : List.Forall₂ Errand.Said outcomes speeches)
    {listener : Listener} (settled : listener.Settled) :
    ∃ meant, listener.Hears speeches.flatten meant ∧
      meant.filterMap Meant.document? =
        outcomes.filterMap fun outcome => outcome.1.document.completed? outcome.2 := by
  induction said generalizing listener with
  | nil => exact ⟨[], .nothing settled, rfl⟩
  | @cons outcome us outcomes speeches first rest ih =>
    obtain ⟨meant, heard, own⟩ := Speech.hears first settled
    obtain ⟨others, further, owned⟩ := ih heard.settled
    refine ⟨meant ++ others, heard.append further, ?_⟩
    rw [List.filterMap_append, own, owned]
    cases completed : outcome.1.document.completed? outcome.2 <;> simp [completed]

/-- Whatever the link refuses: what it took between two terminators is, behind what is stale,
exactly what was meant, and the documents among that are those that went out, in order. It is
the whole of what the link took when nothing was refused since the terminator before. -/
theorem documents_heard_within_boundaries (ports : Ports W H)
    (within : ports.Within fun _ _ => True) (errands : List (Errand W H)) (s : Station W H) :
    Returns (errands.mapM (·.run ports)) ⟨s.endpoint, { world := s.world }⟩ fun results t =>
      results.length = errands.length ∧
      ∃ (speeches : List (List Utterance)) (meant : List Meant),
        List.Forall₂ Errand.Said (errands.zip results) speeches ∧
        t.world.diary.filterMap Call.told? = speeches.flatten.map Utterance.told ∧
        List.Forall₂ Meant.IsHeard meant (Listener.hearAll {} speeches.flatten).documents ∧
        meant.filterMap Meant.document? =
          (errands.zip results).filterMap fun outcome =>
            outcome.1.document.completed? outcome.2 := by
  refine Returns.mono (errands_tell within errands _) fun results t known => ?_
  obtain ⟨us, spoken, length, speeches, rfl, said⟩ := known
  have settled : Listener.Settled {} := rfl
  obtain ⟨meant, heard, own⟩ := Listener.hears_speeches said settled
  obtain ⟨new, documents, alike⟩ := heard.documents
  refine ⟨length, speeches, meant, said, spoken.told, ?_, own⟩
  rw [documents]
  exact alike

/-- Ports of a link that refuses the second notification and takes all others. The world
counts the notifications. -/
def stutteringPorts : Ports Nat Empty :=
  { Bench.clockPorts with
    notify := fun _ => do
      modifyWorld (· + 1)
      if (← world) = 2 then return .error (.stack 6) else return .ok ()
    sleep := fun _ => pure ()
    freeBytes := return 262144
    allocate := fun _ _ => return true }

theorem stutteringPorts_within : stutteringPorts.Within fun _ _ => True where
  notify _ s := by
    have counted : Returns (modifyWorld (· + 1)) s fun _ _ => True := ⟨(), _, rfl, trivial⟩
    refine counted.bind fun _ t _ => returns_world ?_
    split
    next => exact returns_pure trivial
    next => exact returns_pure trivial
  sleep _ _ := returns_pure trivial
  freeBytes _ := returns_pure trivial
  allocate _ _ _ := returns_pure trivial

/-- An errand for a text, with nothing before it. -/
def Errand.plain (text : Bytes) : Errand Nat Empty where
  before := pure ()
  comesBack _ := returns_pure trivial
  document := .steady text
  activity := none

/-- Three documents for the link that stutters. -/
def stutteringErrands : List (Errand Nat Empty) :=
  [.plain (List.replicate 30 97), .plain (List.replicate 5 98), .plain (List.replicate 7 99)]

/-- The second document is heard behind a refusal, with what is left of the first in front of
it, and the third one alone. -/
theorem documents_heard_within_boundaries_of_stutter :
    let run := exec (stutteringErrands.mapM (·.run stutteringPorts))
      ⟨Endpoint.fresh {}, { world := 0 }⟩
    ∃ (speeches : List (List Utterance)) (meant : List Meant),
      run.2.world.diary.filterMap Call.told? = speeches.flatten.map Utterance.told ∧
        List.Forall₂ Meant.IsHeard meant (Listener.hearAll {} speeches.flatten).documents ∧
        meant.filterMap Meant.document? = [List.replicate 5 98, List.replicate 7 99] := by
  intro run
  have results : run.1 = .ok [.error (.link (.stack 6)), .ok (), .ok ()] := by decide +kernel
  obtain ⟨_, last, returned, -, speeches, meant, -, told, heard, own⟩ :=
    documents_heard_within_boundaries stutteringPorts stutteringPorts_within stutteringErrands
      ⟨Endpoint.fresh {}, 0⟩
  obtain rfl := Except.ok.inj ((congrArg Prod.fst returned).symm.trans results)
  have reached : run.2 = last := congrArg Prod.snd returned
  rw [← reached] at told
  exact ⟨speeches, meant, told, heard, own⟩

/-- What the link took of a document that it refused later is put in front of the next one. -/
theorem refused_document_glued_to_next :
    let run := exec (stutteringErrands.mapM (·.run stutteringPorts))
      ⟨Endpoint.fresh {}, { world := 0 }⟩
    run.1 = .ok [.error (.link (.stack 6)), .ok (), .ok ()] ∧
      run.2.world.diary.filterMap Call.told? = [
        (List.replicate 20 97, .ok ()),
        (List.replicate 10 97, .error (.stack 6)),
        (List.replicate 5 98, .ok ()),
        (endMarker, .ok ()),
        (List.replicate 7 99, .ok ()),
        (endMarker, .ok ())] := by
  decide +kernel

end CommandLink
