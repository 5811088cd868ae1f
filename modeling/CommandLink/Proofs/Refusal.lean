import CommandLink.Bench.Inbound
import CommandLink.Json.Reader
import CommandLink.Proofs.Rounds
import CommandLink.Proofs.SendingAlike

/-!
# What becomes of a document that is refused

Before a document goes out it is measured, and its length, the free heap and the two pools are
looked at in this order. The first that stands against it decides the error. The peer is told of
the three errors that are about size or memory, by an inline document of the same kind as the
error; of a document that cannot be serialized it hears nothing.

What the memory would answer is a matter of the ports and of the station as it is when they are
asked (`Ports.Offers`). `Preparation` has one constructor for each way the checks can end.
-/

namespace CommandLink

/-! ## What the peer reads -/

namespace Reply

/-- An error as the peer reads it. Fields are sorted by name when they are read. -/
def reading (message kind : String) : Json :=
  .object [("config", .list []), ("message", .text message), ("status", .text "error"),
    ("type", .text kind)]

/-- Whether a document that was read is this error. -/
def isReading (message kind : String) : Json → Bool
  | .object [(first, .list []), (second, .text told), (third, .text status),
      (fourth, .text sort)] =>
    [first, second, third, fourth] = ["config", "message", "status", "type"] &&
      [told, status, sort] = [message, "error", kind]
  | _ => false

theorem eq_of_isReading {message kind : String} {value : Json}
    (same : isReading message kind value = true) : value = reading message kind := by
  unfold isReading at same
  split at same
  next =>
    simp only [Bool.and_eq_true, decide_eq_true_eq, List.cons.injEq, and_true] at same
    obtain ⟨⟨rfl, rfl, rfl, rfl⟩, rfl, rfl, rfl⟩ := same
    rfl
  next => cases same

/-- The inline document of an error is read as that error, and no part of it is a marker. -/
def Legible (message kind : String) : Prop :=
  (Json.read (Bytes.ofText (inlineError message kind))).toOption.any (isReading message kind) ∧
    60 ∉ Bytes.ofText (inlineError message kind)

instance (message kind : String) : Decidable (Legible message kind) :=
  inferInstanceAs (Decidable (_ ∧ _))

theorem Legible.read {message kind : String} (legible : Legible message kind) :
    Json.read (Bytes.ofText (inlineError message kind)) = .ok (reading message kind) := by
  have shown := legible.1
  cases read : Json.read (Bytes.ofText (inlineError message kind)) with
  | error problem => simp [read, Except.toOption] at shown
  | ok value =>
    have same : isReading message kind value = true := by
      simpa [read, Except.toOption] using shown
    rw [eq_of_isReading same]

end Reply

/-- Whatever answer the peer gets, it can read it, and finds the kind of the error there. -/
theorem SendError.answer_legible {error : SendError} {message : String}
    (answer : error.answer? = some message) : Reply.Legible message error.peerKind := by
  -- The numbers in an error are not in its answer, so there are three documents to look at.
  have capacity : Reply.Legible "Response too large" "capacity" := by decide +kernel
  have low : Reply.Legible "Low memory" "memory" := by decide +kernel
  have full : Reply.Legible "Out of memory" "memory" := by decide +kernel
  cases error with
  | tooLarge length cap => exact Option.some.inj answer ▸ capacity
  | lowMemory free => exact Option.some.inj answer ▸ low
  | outOfMemory requested => exact Option.some.inj answer ▸ full
  | lockTimeout => cases answer
  | cancelled => cases answer
  | serialize => cases answer
  | link error => cases answer

/-! ## What is asked of the memory -/

namespace Entry

/-- What a pool was asked for, and whether it granted it. -/
def asked? : Entry → Option (Pool × Nat × Bool)
  | .call (.asked pool size granted) _ _ => some (pool, size, granted)
  | .call (.notified _ _) _ _ => none
  | .call (.slept _) _ _ => none
  | .call (.readFree _) _ _ => none
  | .nested _ => none

end Entry

open Entry

theorem Reported.unasked {stream : Stream} {sent threshold next : Nat} {requested last : Bool}
    {entries : List Entry} (report : Reported stream sent threshold next requested entries last) :
    entries.filterMap asked? = [] := by
  cases report with
  | silent => rfl
  | told => rfl

/-- No pool is asked while the chunks go their rounds. What ends them early is a refusal of the
link or a request to cancel. -/
theorem Rounds.outcome {stream : Stream} {chunks : List Bytes} {sent threshold : Nat}
    {requested last : Bool} {result : Except SendError Unit} {rounds : List (List Entry)}
    {closing : Entry}
    (gone : Rounds stream chunks sent threshold requested result rounds closing last) :
    (rounds.flatten ++ [closing]).filterMap asked? = [] ∧
      ∀ error, result = .error error → error = .cancelled ∨ ∃ cause, error = .link cause := by
  induction gone with
  | finished => exact ⟨rfl, nofun⟩
  | unfinished _ _ _ error => exact ⟨rfl, fun _ same => .inr ⟨error, (Except.error.inj same).symm⟩⟩
  | cancelled => exact ⟨rfl, fun _ same => .inl (Except.error.inj same).symm⟩
  | uncancelled _ _ _ _ error =>
    exact ⟨rfl, fun _ same => .inr ⟨error, (Except.error.inj same).symm⟩⟩
  | refused _ _ _ _ error => exact ⟨rfl, fun _ same => .inr ⟨error, (Except.error.inj same).symm⟩⟩
  | taken chunk sent taken told after report further ih =>
    obtain ⟨unasked, ended⟩ := ih
    refine ⟨?_, ended⟩
    have aside := report.unasked
    simp only [List.flatten_cons, List.cons_append, List.append_assoc, List.filterMap_cons, asked?,
      List.filterMap_append, aside, List.nil_append, List.filterMap_nil] at unasked ⊢
    exact unasked

variable {W H α : Type}

/-- What the memory offers at a station: so much heap is free, and asked for a block of a size
behind that reading, first the one pool and then the other, each grants it or not. -/
def Ports.Offers (ports : Ports W H) (size : Nat) (s : Station W H) (free : Nat)
    (primary secondary : Bool) : Prop :=
  ∃ t u v, Act.exec ports.freeBytes s = (.ok free, t) ∧
    Act.exec (ports.allocate .primary size) t = (.ok primary, u) ∧
    Act.exec (ports.allocate .secondary size) u = (.ok secondary, v)

/-- Ports of a link that takes everything. Whoever is called leaves no word that the link was
busy. -/
structure Ports.Obliging (ports : Ports W H) : Prop where
  notify : ∀ bytes s, Act.Returns (ports.notify bytes) s fun answer t =>
    answer = .ok () ∧ (s.endpoint.busyOwed = false → t.endpoint.busyOwed = false)
  sleep : ∀ time s, Act.Returns (ports.sleep time) s fun _ t =>
    s.endpoint.busyOwed = false → t.endpoint.busyOwed = false
  freeBytes : ∀ s, Act.Returns ports.freeBytes s fun _ t =>
    s.endpoint.busyOwed = false → t.endpoint.busyOwed = false
  allocate : ∀ pool size s, Act.Returns (ports.allocate pool size) s fun _ t =>
    s.endpoint.busyOwed = false → t.endpoint.busyOwed = false

open Act

namespace Ports.Obliging

variable {ports : Ports W H} (obliging : ports.Obliging)

include obliging

theorem comeBack : ports.ComeBack where
  notify bytes s := (obliging.notify bytes s).mono fun _ _ _ => trivial
  sleep time s := (obliging.sleep time s).mono fun _ _ _ => trivial
  freeBytes s := (obliging.freeBytes s).mono fun _ _ _ => trivial
  allocate pool size s := (obliging.allocate pool size s).mono fun _ _ _ => trivial

theorem keep_unowed : ports.journaled.Keep Station.Unowed :=
  Ports.Keep.journaled (I := fun endpoint => endpoint.busyOwed = false)
    { notify := fun bytes => .of_returns fun s unowed =>
        (obliging.notify bytes s).mono fun _ _ known => known.2 unowed
      sleep := fun time => .of_returns fun s unowed =>
        (obliging.sleep time s).mono fun _ _ still => still unowed
      freeBytes := .of_returns fun s unowed =>
        (obliging.freeBytes s).mono fun _ _ still => still unowed
      allocate := fun pool size => .of_returns fun s unowed =>
        (obliging.allocate pool size s).mono fun _ _ still => still unowed }

end Ports.Obliging

/-! ## The checks -/

/-- A document is written whole into a block of a size, or it does not fit. -/
theorem Document.fill_cases (document : Document) (size : Nat) :
    (∃ text, document.written = some text ∧ text.length ≤ size ∧
        document.fill { capacity := size } = .ok text) ∨
      (∀ text, document.written = some text → size < text.length) ∧
        document.fill { capacity := size } = .error .serialize := by
  cases written : document.written with
  | none => exact .inr ⟨nofun, by simp only [fill, written]⟩
  | some text =>
    by_cases fits : text.length ≤ size
    · have whole := @Block.writeAll_of_room text { capacity := size } fits
      exact .inl ⟨text, rfl, fits, by simp only [fill, written, whole, List.nil_append]⟩
    · refine .inr ⟨?_, ?_⟩
      · rintro _ ⟨⟩
        exact Nat.not_le.mp fits
      · simp only [fill, written]
        split
        next full took => exact absurd (Block.room_of_writeAll took) fits
        next => rfl

/-- The error that the checks of a document find, in their order, when so much heap is free and
the pools grant a block or not. -/
def Document.refusal? (settings : Settings) (free : Nat) (primary secondary : Bool)
    (document : Document) : Option SendError :=
  match document.measured with
  | none => some .serialize
  | some text =>
    if settings.maxResponse.toNat < text.length then
      some (.tooLarge text.length settings.maxResponse.toNat)
    else if free < settings.emergencyFree.toNat then
      some (.lowMemory free)
    else if primary = false ∧ secondary = false then
      some (.outOfMemory (text.length + settings.responseMargin.toNat))
    else if document.written.any (·.length ≤ text.length + settings.responseMargin.toNat) then
      none
    else
      some .serialize

namespace Document

variable (settings : Settings) (free : Nat) (primary secondary : Bool) (document : Document)

theorem refusal?_eq_serialize_iff :
    document.refusal? settings free primary secondary = some .serialize ↔
      document.measured = none ∨ ∃ text, document.measured = some text ∧
        text.length ≤ settings.maxResponse.toNat ∧ settings.emergencyFree.toNat ≤ free ∧
        (primary = true ∨ secondary = true) ∧
        ∀ written, document.written = some written →
          text.length + settings.responseMargin.toNat < written.length := by
  cases measured : document.measured with
  | none => simp [refusal?, measured]
  | some text =>
    simp only [refusal?, measured, reduceCtorEq, Option.some.injEq, exists_eq_left', false_or]
    cases primary <;> cases secondary <;> cases document.written <;> simp <;> grind

theorem refusal?_eq_tooLarge_iff (length cap : Nat) :
    document.refusal? settings free primary secondary = some (.tooLarge length cap) ↔
      ∃ text, document.measured = some text ∧ settings.maxResponse.toNat < text.length ∧
        length = text.length ∧ cap = settings.maxResponse.toNat := by
  cases measured : document.measured with
  | none => simp [refusal?, measured]
  | some text => simp [refusal?, measured]; grind

theorem refusal?_eq_lowMemory_iff (reading : Nat) :
    document.refusal? settings free primary secondary = some (.lowMemory reading) ↔
      ∃ text, document.measured = some text ∧ text.length ≤ settings.maxResponse.toNat ∧
        free < settings.emergencyFree.toNat ∧ reading = free := by
  cases measured : document.measured with
  | none => simp [refusal?, measured]
  | some text => simp [refusal?, measured]; grind

theorem refusal?_eq_outOfMemory_iff (requested : Nat) :
    document.refusal? settings free primary secondary = some (.outOfMemory requested) ↔
      ∃ text, document.measured = some text ∧ text.length ≤ settings.maxResponse.toNat ∧
        settings.emergencyFree.toNat ≤ free ∧ primary = false ∧ secondary = false ∧
        requested = text.length + settings.responseMargin.toNat := by
  cases measured : document.measured with
  | none => simp [refusal?, measured]
  | some text => simp [refusal?, measured]; grind

end Document

/-! ## How a document is prepared -/

/-- An inline error that went out whole, in pieces of some size, and nothing else. -/
def Answered (message kind : String) (told : List (Bytes × Except LinkError Unit)) : Prop :=
  ∃ size, told = (Bytes.pieces size (Bytes.ofText (Reply.inlineError message kind)) ++
    [endMarker]).map (·, .ok ())

/-- The peer puts the pieces of a legible answer together and reads it. -/
theorem Answered.reads {message kind : String} {told : List (Bytes × Except LinkError Unit)}
    (answered : Answered message kind told) (legible : Reply.Legible message kind) :
    ∃ pieces, told = (pieces ++ [endMarker]).map (·, .ok ()) ∧ endMarker ∉ pieces ∧
      Json.read pieces.flatten = .ok (Reply.reading message kind) := by
  obtain ⟨size, rfl⟩ := answered
  refine ⟨_, rfl, ?_, ?_⟩
  · -- A marker begins with a byte that the document does not have.
    intro member
    apply legible.2
    rw [← Bytes.pieces_flatten size (Bytes.ofText (Reply.inlineError message kind))]
    exact List.mem_flatten.mpr ⟨endMarker, member, by decide⟩
  · rw [Bytes.pieces_flatten]
    exact legible.read

/-- How the checks of a document end, when the memory offers what it does: what comes of them,
what the peer is told and what the pools are asked. -/
inductive Preparation (settings : Settings) (document : Document) (free : Nat)
    (primary secondary : Bool) : Except SendError Bytes → List (Bytes × Except LinkError Unit) →
      List (Pool × Nat × Bool) → Prop where
  | unmeasured (missing : document.measured = none) :
    Preparation settings document free primary secondary (.error .serialize) [] []
  | tooLarge {text told} (measured : document.measured = some text)
    (long : settings.maxResponse.toNat < text.length)
    (answer : Answered "Response too large" "capacity" told) :
    Preparation settings document free primary secondary
      (.error (.tooLarge text.length settings.maxResponse.toNat)) told []
  | lowMemory {text told} (measured : document.measured = some text)
    (short : text.length ≤ settings.maxResponse.toNat)
    (low : free < settings.emergencyFree.toNat) (answer : Answered "Low memory" "memory" told) :
    Preparation settings document free primary secondary (.error (.lowMemory free)) told []
  | outOfMemory {text told} (measured : document.measured = some text)
    (short : text.length ≤ settings.maxResponse.toNat)
    (enough : settings.emergencyFree.toNat ≤ free) (first : primary = false)
    (second : secondary = false) (answer : Answered "Out of memory" "memory" told) :
    Preparation settings document free primary secondary
      (.error (.outOfMemory (text.length + settings.responseMargin.toNat))) told
      [(.primary, text.length + settings.responseMargin.toNat, false),
        (.secondary, text.length + settings.responseMargin.toNat, false)]
  | primary {text} (measured : document.measured = some text)
    (short : text.length ≤ settings.maxResponse.toNat)
    (enough : settings.emergencyFree.toNat ≤ free) (first : primary = true) :
    Preparation settings document free primary secondary
      (document.fill { capacity := text.length + settings.responseMargin.toNat }) []
      [(.primary, text.length + settings.responseMargin.toNat, true)]
  | secondary {text} (measured : document.measured = some text)
    (short : text.length ≤ settings.maxResponse.toNat)
    (enough : settings.emergencyFree.toNat ≤ free) (first : primary = false)
    (second : secondary = true) :
    Preparation settings document free primary secondary
      (document.fill { capacity := text.length + settings.responseMargin.toNat }) []
      [(.primary, text.length + settings.responseMargin.toNat, false),
        (.secondary, text.length + settings.responseMargin.toNat, true)]

namespace Ports.Obliging

variable {ports : Ports W H} (obliging : ports.Obliging)

include obliging

theorem notifyAll_writes (pieces : List Bytes) (s : Station (Recorded W Entry) H) :
    Writes (notifyAll ports.journaled pieces) s fun _ _ entries =>
      entries.filterMap told? = pieces.map (·, .ok ()) ∧ entries.filterMap asked? = [] := by
  induction pieces generalizing s with
  | nil => exact writes_pure ⟨rfl, rfl⟩
  | cons piece rest ih =>
    apply (entered_writes (obliging.notify piece _)).bind
    rintro _ t _ ⟨⟨rfl, -⟩, rfl⟩
    apply (ih t).mono
    rintro _ u entries ⟨told, unasked⟩
    refine ⟨?_, ?_⟩
    · simp only [List.singleton_append, List.filterMap_cons, told?, told, List.map_cons]
    · simp only [List.singleton_append, List.filterMap_cons, asked?, unasked]

theorem refuse_writes {γ : Type} (error : SendError) (message kind : String)
    (s : Station (Recorded W Entry) H) :
    Writes (refuse ports.journaled error message kind : Act _ _ (Except SendError γ)) s
      fun result _ entries => result = .error error ∧
        Answered message kind (entries.filterMap told?) ∧ entries.filterMap asked? = [] := by
  have told : Writes (sendInline ports.journaled message kind) s fun _ _ entries =>
      Answered message kind (entries.filterMap told?) ∧ entries.filterMap asked? = [] := by
    apply returns_currentChunk
    apply Returns.discard
    apply (obliging.notifyAll_writes _ s).mono
    rintro _ t entries ⟨told, unasked⟩
    exact ⟨⟨_, told⟩, unasked⟩
  apply told.bind
  rintro _ t entries ⟨answered, unasked⟩
  exact writes_pure ⟨rfl, by simpa using answered, by simpa using unasked⟩

omit obliging in
/-- The second pool is asked only when the first refuses. -/
theorem allocate_writes {size : Nat} {s : Station (Recorded W Entry) H} {first second : Station W H}
    {primary secondary : Bool}
    (firsts : exec (ports.allocate .primary size) ⟨s.endpoint, s.world.world⟩ =
      (.ok primary, first))
    (seconds : exec (ports.allocate .secondary size) first = (.ok secondary, second)) :
    Writes (CommandLink.allocate ports.journaled size) s fun block _ entries =>
      entries.filterMap told? = [] ∧
      (primary = true ∧ block = some { capacity := size } ∧
          entries.filterMap asked? = [(.primary, size, true)] ∨
        primary = false ∧ secondary = true ∧ block = some { capacity := size } ∧
          entries.filterMap asked? = [(.primary, size, false), (.secondary, size, true)] ∨
        primary = false ∧ secondary = false ∧ block = none ∧
          entries.filterMap asked? = [(.primary, size, false), (.secondary, size, false)]) := by
  have asking : Returns (ports.allocate .primary size) ⟨s.endpoint, s.world.world⟩ fun a t =>
      a = primary ∧ t = first := ⟨primary, first, firsts, rfl, rfl⟩
  apply (entered_writes asking).bind
  rintro granted t _ ⟨⟨rfl, left⟩, rfl⟩
  cases granted with
  | true => exact writes_pure ⟨rfl, .inl ⟨rfl, rfl, rfl⟩⟩
  | false =>
    have further : Returns (ports.allocate .secondary size) ⟨t.endpoint, t.world.world⟩
        fun a u => a = secondary ∧ u = second := by
      rw [left]
      exact ⟨secondary, second, seconds, rfl, rfl⟩
    apply (entered_writes further).bind
    rintro granted u _ ⟨⟨rfl, -⟩, rfl⟩
    cases granted with
    | true => exact returns_modifyEndpoint (writes_pure ⟨rfl, .inr (.inl ⟨rfl, rfl, rfl, rfl⟩)⟩)
    | false => exact writes_pure ⟨rfl, .inr (.inr ⟨rfl, rfl, rfl, rfl⟩)⟩

theorem prepare_writes {document : Document} {s : Station (Recorded W Entry) H} {free : Nat}
    {primary secondary : Bool}
    (offers : ∀ text, document.measured = some text →
      ports.Offers (text.length + s.endpoint.settings.responseMargin.toNat)
        ⟨s.endpoint, s.world.world⟩ free primary secondary) :
    Writes (prepare ports.journaled document) s fun result _ entries =>
      Preparation s.endpoint.settings document free primary secondary result
        (entries.filterMap told?) (entries.filterMap asked?) := by
  apply returns_endpoint
  cases measured : document.measured with
  | none =>
    simp only [Document.serializedLength, measured]
    exact writes_pure (.unmeasured measured)
  | some text =>
    obtain ⟨read, first, second, reads, firsts, seconds⟩ := offers text measured
    simp only [Document.serializedLength, measured]
    split
    next long =>
      apply (obliging.refuse_writes _ _ _ s).mono
      rintro _ t entries ⟨rfl, answered, unasked⟩
      rw [unasked]
      exact .tooLarge measured long answered
    next fits =>
      have short : text.length ≤ s.endpoint.settings.maxResponse.toNat := Nat.not_lt.mp fits
      -- The journal is apart from what the memory looks at.
      have reading : Returns ports.freeBytes ⟨s.endpoint, s.world.world⟩ fun a t =>
          a = free ∧ t = read := ⟨free, read, reads, rfl, rfl⟩
      apply (entered_writes reading).bind
      rintro _ t _ ⟨⟨rfl, left⟩, rfl⟩
      split
      next low =>
        apply (obliging.refuse_writes _ _ _ t).mono
        rintro _ u entries ⟨rfl, answered, unasked⟩
        simp only [List.singleton_append, List.filterMap_cons, told?, asked?, unasked]
        exact .lowMemory measured short low answered
      next high =>
        have enough := Nat.not_lt.mp high
        rw [← left] at firsts
        apply (allocate_writes firsts seconds).bind
        rintro block u asks ⟨silent, granted | granted | refused⟩
        · obtain ⟨rfl, rfl, asked⟩ := granted
          apply writes_pure
          simp only [List.append_nil, List.singleton_append, List.filterMap_cons, told?, asked?,
            silent, asked]
          exact .primary measured short enough rfl
        · obtain ⟨rfl, rfl, rfl, asked⟩ := granted
          apply writes_pure
          simp only [List.append_nil, List.singleton_append, List.filterMap_cons, told?, asked?,
            silent, asked]
          exact .secondary measured short enough rfl rfl
        · obtain ⟨rfl, rfl, rfl, asked⟩ := refused
          apply (obliging.refuse_writes _ _ _ u).mono
          rintro _ v entries ⟨rfl, answered, unasked⟩
          simp only [List.cons_append, List.filterMap_cons, List.filterMap_append, told?, asked?,
            silent, asked, unasked, List.append_nil, List.nil_append]
          exact .outOfMemory measured short enough rfl rfl answered

end Ports.Obliging

namespace Preparation

variable {settings : Settings} {document : Document} {free : Nat} {primary secondary : Bool}
  {prepared : Except SendError Bytes} {told : List (Bytes × Except LinkError Unit)}
  {asks : List (Pool × Nat × Bool)}

/-- The checks end with the error that they find first. -/
theorem error_iff
    (preparation : Preparation settings document free primary secondary prepared told asks)
    (error : SendError) :
    prepared = .error error ↔
      document.refusal? settings free primary secondary = some error := by
  -- A document that was granted a block may still not fit it.
  have filled {text : Bytes} (measured : document.measured = some text)
      (short : text.length ≤ settings.maxResponse.toNat)
      (enough : settings.emergencyFree.toNat ≤ free) (granted : primary = true ∨ secondary = true) :
      document.fill { capacity := text.length + settings.responseMargin.toNat } = .error error ↔
        document.refusal? settings free primary secondary = some error := by
    have some : ¬(primary = false ∧ secondary = false) := by grind
    simp only [Document.refusal?, measured, if_neg (Nat.not_lt.mpr short),
      if_neg (Nat.not_lt.mpr enough), if_neg some]
    rcases document.fill_cases (text.length + settings.responseMargin.toNat) with
      ⟨payload, written, fits, whole⟩ | ⟨outgrown, failed⟩
    · simp [written, fits, whole]
    · have misfit : ¬document.written.any
          (·.length ≤ text.length + settings.responseMargin.toNat) = true := by
        cases written : document.written with
        | none => simp
        | some payload => simpa using outgrown payload written
      simp [failed, misfit]
  cases preparation with
  | unmeasured missing => simp [Document.refusal?, missing]
  | tooLarge measured long => simp [Document.refusal?, measured, long]
  | lowMemory measured short low => simp [Document.refusal?, measured, Nat.not_lt.mpr short, low]
  | outOfMemory measured short enough first second =>
    simp [Document.refusal?, measured, Nat.not_lt.mpr short, Nat.not_lt.mpr enough, first, second]
  | primary measured short enough first => exact filled measured short enough (.inl first)
  | secondary measured short enough _ second => exact filled measured short enough (.inr second)

/-- An error that has an answer is answered, with its own kind. -/
theorem answered
    (preparation : Preparation settings document free primary secondary prepared told asks)
    {error : SendError} (failed : prepared = .error error) {message : String}
    (answer : error.answer? = some message) : Answered message error.peerKind told := by
  cases preparation with
  | unmeasured =>
    obtain rfl := Except.error.inj failed
    cases answer
  | tooLarge _ _ given =>
    obtain rfl := Except.error.inj failed
    exact Option.some.inj answer ▸ given
  | lowMemory _ _ _ given =>
    obtain rfl := Except.error.inj failed
    exact Option.some.inj answer ▸ given
  | outOfMemory _ _ _ _ _ given =>
    obtain rfl := Except.error.inj failed
    exact Option.some.inj answer ▸ given
  | primary =>
    rw [Document.fill_error failed] at answer
    cases answer
  | secondary =>
    rw [Document.fill_error failed] at answer
    cases answer

/-- Of a document that cannot be serialized the peer hears nothing. -/
theorem silent
    (preparation : Preparation settings document free primary secondary prepared told asks)
    (failed : prepared = .error .serialize) : told = [] := by
  cases preparation with
  | unmeasured => rfl
  | tooLarge => cases failed
  | lowMemory => cases failed
  | outOfMemory => cases failed
  | primary => rfl
  | secondary => rfl

/-- The pools are asked in their order, the second only behind the first, and only for a
document that is short enough while enough of the heap is free. -/
theorem asks_cases
    (preparation : Preparation settings document free primary secondary prepared told asks) :
    asks = [] ∨ ∃ size, asks = [(.primary, size, true)] ∨
      ∃ granted, asks = [(.primary, size, false), (.secondary, size, granted)] := by
  cases preparation with
  | unmeasured => exact .inl rfl
  | tooLarge => exact .inl rfl
  | lowMemory => exact .inl rfl
  | outOfMemory => exact .inr ⟨_, .inr ⟨false, rfl⟩⟩
  | primary => exact .inr ⟨_, .inl rfl⟩
  | secondary => exact .inr ⟨_, .inr ⟨true, rfl⟩⟩

/-- No pool is asked for a document that is too long, or while the heap is short. -/
theorem asks_nil
    (preparation : Preparation settings document free primary secondary prepared told asks)
    (early : (∃ length cap, prepared = .error (.tooLarge length cap)) ∨
      ∃ reading, prepared = .error (.lowMemory reading)) : asks = [] := by
  cases preparation with
  | unmeasured => rfl
  | tooLarge => rfl
  | lowMemory => rfl
  | outOfMemory =>
    rcases early with ⟨length, cap, same⟩ | ⟨reading, same⟩
    · cases same
    · cases same
  | primary =>
    rcases early with ⟨length, cap, failed⟩ | ⟨reading, failed⟩
    · cases Document.fill_error failed
    · cases Document.fill_error failed
  | secondary =>
    rcases early with ⟨length, cap, failed⟩ | ⟨reading, failed⟩
    · cases Document.fill_error failed
    · cases Document.fill_error failed

end Preparation

/-! ## How the whole document goes out -/

/-- Behind the checks only a request to cancel or the link can stand against a document. -/
def Concluded (prepared : Except SendError Bytes) (result : Except SendError Unit) : Prop :=
  match prepared with
  | .error error => result = .error error
  | .ok _ => ∀ error, result = .error error → error = .cancelled ∨ ∃ cause, error = .link cause

theorem Concluded.error_iff {prepared : Except SendError Bytes} {result : Except SendError Unit}
    (concluded : Concluded prepared result) (error : SendError) (uncancelled : error ≠ .cancelled)
    (taken : ∀ cause, error ≠ .link cause) : result = .error error ↔ prepared = .error error := by
  cases prepared with
  | error other =>
    rw [show result = .error other from concluded, Except.error.injEq, Except.error.injEq]
  | ok payload =>
    refine ⟨fun failed => ?_, nofun⟩
    rcases concluded error failed with cancelled | ⟨cause, refused⟩
    · exact absurd cancelled uncancelled
    · exact absurd refused (taken cause)

/-- An error with an answer is found before the first chunk. -/
theorem SendError.early {error : SendError} {message : String}
    (answer : error.answer? = some message) :
    error ≠ .cancelled ∧ ∀ cause, error ≠ .link cause := by
  constructor
  · rintro rfl
    cases answer
  · rintro cause rfl
    cases answer

namespace Ports.Obliging

variable {ports : Ports W H} (obliging : ports.Obliging)

include obliging

theorem transmit_writes {document : Document} (activity : Option Activity)
    {s : Station (Recorded W Entry) H} {free : Nat} {primary secondary : Bool}
    (offers : ∀ text, document.measured = some text →
      ports.Offers (text.length + s.endpoint.settings.responseMargin.toNat)
        ⟨s.endpoint, s.world.world⟩ free primary secondary) :
    Writes (transmit ports.journaled document activity) s fun result _ entries =>
      ∃ prepared told, Preparation s.endpoint.settings document free primary secondary prepared
          told (entries.filterMap asked?) ∧
        Concluded prepared result ∧
        ∀ error, prepared = .error error → entries.filterMap told? = told := by
  apply (obliging.prepare_writes offers).bind
  intro prepared t entries preparation
  cases prepared with
  | error error =>
    apply writes_pure
    rw [List.append_nil]
    exact ⟨.error error, _, preparation, rfl, fun _ _ => rfl⟩
  | ok payload =>
    apply (obliging.comeBack.sendPayload_writes payload activity t).mono
    rintro result u _ ⟨stream, size, read, ready, positive, whole, named, gone⟩
    obtain ⟨unasked, ended⟩ := gone.outcome
    refine ⟨.ok payload, entries.filterMap told?, ?_, ended, nofun⟩
    rw [List.filterMap_append, List.filterMap_cons, unasked, asked?, List.append_nil]
    exact preparation

theorem send_writes {document : Document} (activity : Option Activity)
    {s : Station (Recorded W Entry) H} (idle : s.endpoint.sending = false)
    (unowed : s.endpoint.busyOwed = false) {free : Nat} {primary secondary : Bool}
    (offers : ∀ text, document.measured = some text →
      ports.Offers (text.length + s.endpoint.settings.responseMargin.toNat)
        ⟨s.locked.endpoint, s.world.world⟩ free primary secondary) :
    Writes (send ports.journaled document activity) s fun result _ entries =>
      ∃ prepared told, Preparation s.endpoint.settings document free primary secondary prepared
          told (entries.filterMap asked?) ∧
        Concluded prepared result ∧
        ∀ error, prepared = .error error → entries.filterMap told? = told := by
  -- Nothing is owed when the lock is taken, so nothing is owed behind the document.
  have kept := obliging.keep_unowed.transmit_keeps unowed_minor document activity
  have transmitted : Writes (transmit ports.journaled document activity) s.locked _ :=
    obliging.transmit_writes activity offers
  have unowed : s.locked.Unowed := unowed
  apply (obliging.comeBack.send_writes idle (kept.writes unowed transmitted)).mono
  rintro result u _ ⟨t, entries, answer, rfl, ⟨known, still⟩, -, unasked⟩
  have owed : t.endpoint.busyOwed ≠ true := by
    rw [still]
    exact Bool.false_ne_true
  obtain ⟨rfl, -⟩ := unasked owed
  rw [List.append_nil]
  exact known

end Ports.Obliging

/-! ## The theorem -/

/-- A document that cannot be measured, or not be written into the block it was granted, fails
without a word. Otherwise the first of the three checks that stands against it decides the error,
and the peer is told: it puts together what comes before the one end marker, and reads an error
of the same kind. No pool is asked unless the document is short enough and enough of the heap is
free, and the primary one is always asked before the secondary one. -/
theorem refused_send_answered {ports : Ports W H} (obliging : ports.Obliging) (document : Document)
    (activity : Option Activity) {s : Station (Recorded W Entry) H}
    (idle : s.endpoint.sending = false) (unowed : s.endpoint.busyOwed = false) {free : Nat}
    {primary secondary : Bool}
    (offers : ∀ text, document.measured = some text →
      ports.Offers (text.length + s.endpoint.settings.responseMargin.toNat)
        ⟨s.locked.endpoint, s.world.world⟩ free primary secondary) :
    let settings := s.endpoint.settings
    Writes (send ports.journaled document activity) s fun result _ entries =>
      (result = .error .serialize ↔
        document.measured = none ∨ ∃ text, document.measured = some text ∧
          text.length ≤ settings.maxResponse.toNat ∧ settings.emergencyFree.toNat ≤ free ∧
          (primary = true ∨ secondary = true) ∧
          ∀ written, document.written = some written →
            text.length + settings.responseMargin.toNat < written.length) ∧
      (∀ length cap, result = .error (.tooLarge length cap) ↔
        ∃ text, document.measured = some text ∧ settings.maxResponse.toNat < text.length ∧
          length = text.length ∧ cap = settings.maxResponse.toNat) ∧
      (∀ reading, result = .error (.lowMemory reading) ↔
        ∃ text, document.measured = some text ∧ text.length ≤ settings.maxResponse.toNat ∧
          free < settings.emergencyFree.toNat ∧ reading = free) ∧
      (∀ requested, result = .error (.outOfMemory requested) ↔
        ∃ text, document.measured = some text ∧ text.length ≤ settings.maxResponse.toNat ∧
          settings.emergencyFree.toNat ≤ free ∧ primary = false ∧ secondary = false ∧
          requested = text.length + settings.responseMargin.toNat) ∧
      (result = .error .serialize → entries.filterMap told? = []) ∧
      (∀ error message, result = .error error → error.answer? = some message →
        ∃ pieces, entries.filterMap told? = (pieces ++ [endMarker]).map (·, .ok ()) ∧
          endMarker ∉ pieces ∧
          Json.read pieces.flatten = .ok (Reply.reading message error.peerKind)) ∧
      ((∃ length cap, result = .error (.tooLarge length cap)) ∨
          (∃ reading, result = .error (.lowMemory reading)) →
        entries.filterMap asked? = []) ∧
      (entries.filterMap asked? = [] ∨ ∃ size,
        entries.filterMap asked? = [(.primary, size, true)] ∨ ∃ granted,
          entries.filterMap asked? = [(.primary, size, false), (.secondary, size, granted)]) := by
  intro settings
  apply (obliging.send_writes activity idle unowed offers).mono
  rintro result t entries ⟨prepared, told, preparation, concluded, said⟩
  -- Every error that the checks can find comes out as it is.
  have found (error : SendError) (uncancelled : error ≠ .cancelled)
      (taken : ∀ cause, error ≠ .link cause) :
      result = .error error ↔ document.refusal? settings free primary secondary = some error :=
    (concluded.error_iff error uncancelled taken).trans (preparation.error_iff error)
  refine ⟨?_, ?_, ?_, ?_, ?_, ?_, ?_, preparation.asks_cases⟩
  · rw [found .serialize nofun nofun, Document.refusal?_eq_serialize_iff]
  · intro length cap
    rw [found (.tooLarge length cap) nofun nofun, Document.refusal?_eq_tooLarge_iff]
  · intro reading
    rw [found (.lowMemory reading) nofun nofun, Document.refusal?_eq_lowMemory_iff]
  · intro requested
    rw [found (.outOfMemory requested) nofun nofun, Document.refusal?_eq_outOfMemory_iff]
  · intro failed
    have same := (concluded.error_iff .serialize nofun nofun).mp failed
    rw [said _ same]
    exact preparation.silent same
  · intro error message failed answer
    obtain ⟨uncancelled, taken⟩ := SendError.early answer
    have same := (concluded.error_iff error uncancelled taken).mp failed
    rw [said _ same]
    exact (preparation.answered same answer).reads (SendError.answer_legible answer)
  · rintro (⟨length, cap, failed⟩ | ⟨reading, failed⟩)
    · have long := (concluded.error_iff (.tooLarge length cap) nofun nofun).mp failed
      exact preparation.asks_nil (.inl ⟨length, cap, long⟩)
    · have low := (concluded.error_iff (.lowMemory reading) nofun nofun).mp failed
      exact preparation.asks_nil (.inr ⟨reading, low⟩)

/-- Ports of a link that takes everything, with pools that are full. -/
def drainedPorts : Ports Nat Empty :=
  { Bench.clockPorts with
    notify := fun _ => return .ok ()
    freeBytes := return 262144 }

theorem drainedPorts_obliging : drainedPorts.Obliging where
  notify _ s := ⟨_, s, rfl, rfl, id⟩
  sleep _ _ := ⟨(), _, rfl, id⟩
  freeBytes s := ⟨_, s, rfl, id⟩
  allocate _ _ s := ⟨_, s, rfl, id⟩

/-- A short document is refused by both pools, and the peer reads so. -/
theorem refused_send_answered_by_full_pools :
    let s : Station (Recorded Nat Entry) Empty := ⟨.fresh {}, { world := 0 }⟩
    drainedPorts.Obliging ∧ s.endpoint.sending = false ∧ s.endpoint.busyOwed = false ∧
      drainedPorts.Offers (50 + s.endpoint.settings.responseMargin.toNat)
        ⟨s.locked.endpoint, s.world.world⟩ 262144 false false ∧
      Writes (send drainedPorts.journaled (.steady (List.replicate 50 97)) none) s
        fun result _ entries => result = .error (.outOfMemory 114) ∧
          ∃ pieces, entries.filterMap told? = (pieces ++ [endMarker]).map (·, .ok ()) ∧
            endMarker ∉ pieces ∧
            Json.read pieces.flatten = .ok (Reply.reading "Out of memory" "memory") := by
  intro s
  have offers : drainedPorts.Offers (50 + s.endpoint.settings.responseMargin.toNat)
      ⟨s.locked.endpoint, s.world.world⟩ 262144 false false := ⟨_, _, _, rfl, rfl, rfl⟩
  refine ⟨drainedPorts_obliging, rfl, rfl, offers, ?_⟩
  apply (refused_send_answered drainedPorts_obliging (.steady (List.replicate 50 97)) none rfl rfl
    (by rintro _ ⟨⟩; exact offers)).mono
  rintro result t entries ⟨-, -, -, full, -, answered, -⟩
  have failed : result = .error (.outOfMemory 114) :=
    (full 114).mpr ⟨List.replicate 50 97, rfl, by decide, by decide, rfl, rfl, by decide⟩
  exact ⟨failed, answered _ _ failed rfl⟩

end CommandLink
