import CommandLink.Proofs.JsonStrings
import CommandLink.Proofs.Refusal

/-!
# Inline errors

An error can be formatted without memory, from a pattern, or serialized like any other document.
The two spell it alike when its texts need no escaping, as long as there is room for it. The pattern
is filled piece by piece, so that an error which is too long is cut in front of the first piece that
goes beyond the room.

The errors that sending formats in this way are short and need no escaping. So the peer cannot tell
them from documents.
-/

namespace CommandLink

/-! ## Pieces that fit -/

namespace Inline

/-- Pieces are taken whole, up to the first that goes beyond the capacity. -/
theorem append_split {capacity : Nat} {written : String} (fits : written.utf8ByteSize ≤ capacity)
    (pieces : List String) :
    ∃ taken rest, pieces = taken ++ rest ∧
      append capacity written pieces = written ++ String.join taken ∧
      (written ++ String.join taken).utf8ByteSize ≤ capacity ∧
      ∀ piece ∈ rest.head?, capacity < (written ++ String.join taken ++ piece).utf8ByteSize := by
  induction pieces generalizing written with
  | nil => exact ⟨[], [], rfl, by simp [append], by simpa using fits, nofun⟩
  | cons piece pieces ih =>
    by_cases room : (written ++ piece).utf8ByteSize ≤ capacity
    · obtain ⟨taken, rest, rfl, same, within, beyond⟩ := ih room
      refine ⟨piece :: taken, rest, rfl, ?_⟩
      have joined : written ++ String.join (piece :: taken) =
          written ++ piece ++ String.join taken := by
        rw [String.join_cons, String.append_assoc]
      rw [joined, append, if_pos room]
      exact ⟨same, within, beyond⟩
    · refine ⟨[], piece :: pieces, rfl, ?_, ?_, ?_⟩
      · rw [append, if_neg room]
        simp
      · simpa using fits
      · rintro _ ⟨⟩
        simpa using room

/-- So what is written is the whole text when that fits, and a part of it otherwise. -/
theorem write_cases (capacity : Nat) (pieces : List String) :
    let text := Bytes.ofText (String.join pieces)
    let written := Bytes.ofText (write capacity pieces)
    (text.length ≤ capacity → written = text) ∧
      (capacity < text.length →
        written <+: text ∧ written ≠ text ∧ written.length ≤ capacity) := by
  intro text written
  obtain ⟨taken, rest, rfl, same, within, -⟩ :=
    append_split (show "".utf8ByteSize ≤ capacity from Nat.zero_le _) pieces
  rw [String.empty_append, ← Bytes.length_ofText] at within
  rw [String.empty_append] at same
  have part : written = Bytes.ofText (String.join taken) := congrArg Bytes.ofText same
  have whole : text = written ++ Bytes.ofText (String.join rest) := by
    rw [part, ← Bytes.ofText_append, ← String.join_append]
  constructor
  · intro fits
    rw [Bytes.length_ofText] at fits
    have all := append_fitting capacity "" (taken ++ rest) (by rwa [String.empty_append])
    rw [String.empty_append] at all
    exact congrArg Bytes.ofText all
  · intro long
    rw [← part] at within
    refine ⟨⟨_, whole.symm⟩, ?_, within⟩
    intro equal
    rw [equal] at within
    exact Nat.not_lt.mpr within long

end Inline

/-! ## One error, two forms -/

namespace Reply

/-- The pattern has the fields of the document in their order, with the texts as they are. -/
theorem render_error {message kind : String} (plain : message.toList.all Json.plain = true)
    (sort : kind.toList.all Json.plain = true) :
    (error message kind).render = String.join (inlinePieces message kind) := by
  have fixed : ∀ name ∈ ["status", "error", "message", "type", "config"],
      name.toList.all Json.plain = true := by decide
  have names : ∀ name ∈ ["status", "error", "message", "type", "config"],
      Json.quoted name = "\"" ++ name ++ "\"" :=
    fun name member => Json.quoted_plain (fixed name member)
  simp only [List.forall_mem_cons] at names
  change "\x7b" ++ Json.renderFields [("status", .text "error"), ("message", .text message),
    ("type", .text kind), ("config", .list [])] ++ "\x7d" = _
  simp only [Json.renderFields, Json.render, Json.renderItems, names, Json.quoted_plain plain,
    Json.quoted_plain sort, inlinePieces]
  -- What is left is how the constant parts are cut.
  simp only [String.join_cons, String.join_nil, ← String.toList_inj, String.toList_append]
  simp

/-- The error needs no escaping, and there is room for all of it. -/
def Inlinable (message kind : String) : Prop :=
  message.toList.all Json.plain = true ∧ kind.toList.all Json.plain = true ∧
    (error message kind).serialize.length ≤ inlineCapacity

instance (message kind : String) : Decidable (Inlinable message kind) :=
  inferInstanceAs (Decidable (_ ∧ _ ∧ _))

/-- The two forms of such an error are the same. -/
theorem Inlinable.same {message kind : String} (inlinable : Inlinable message kind) :
    Bytes.ofText (inlineError message kind) = (error message kind).serialize := by
  obtain ⟨plain, sort, short⟩ := inlinable
  rw [Json.serialize, render_error plain sort] at short ⊢
  exact (Inline.write_cases inlineCapacity (inlinePieces message kind)).1 short

/-- Otherwise the inline error is cut. -/
theorem inlineError_cut {message kind : String} (plain : message.toList.all Json.plain = true)
    (sort : kind.toList.all Json.plain = true)
    (long : inlineCapacity < (error message kind).serialize.length) :
    Bytes.ofText (inlineError message kind) <+: (error message kind).serialize ∧
      Bytes.ofText (inlineError message kind) ≠ (error message kind).serialize ∧
      (Bytes.ofText (inlineError message kind)).length ≤ inlineCapacity := by
  rw [Json.serialize, render_error plain sort] at long ⊢
  exact (Inline.write_cases inlineCapacity (inlinePieces message kind)).2 long

end Reply

/-! ## The errors that sending gives -/

/-- A document is told in chunks of at most `limit` bytes. -/
def Document.Told (limit : Nat) (document : Document) (activity : Option Activity)
    (result : Except SendError Unit) (us : List Utterance) : Prop :=
  ∃ payload size, document.written = some payload ∧ 0 < size ∧ size ≤ limit ∧
    Telling activity (Bytes.pieces size payload) result us

/-- Chunks that are recited with an end marker are told, and nothing is reported between them. -/
theorem Recited.telling {chunks : List Bytes} {us : List Utterance}
    (recited : Recited (chunks.map .content ++ [.finished]) us) :
    ∃ result, Telling none chunks result us := by
  induction chunks generalizing us with
  | nil =>
    cases recited with
    | refused _ _ error => exact ⟨_, .unfinished error⟩
    | taken _ further =>
      cases further with
      | done => exact ⟨_, .finished⟩
  | cons chunk rest ih =>
    cases recited with
    | refused _ _ error => exact ⟨_, .refused chunk _ error⟩
    | taken _ further =>
      obtain ⟨result, telling⟩ := ih further
      exact ⟨result, .taken chunk (List.forall_mem_nil _) telling⟩

/-- A document that is told fails without an answer. -/
theorem Telling.unanswered {activity : Option Activity} {chunks : List Bytes} {error : SendError}
    {us : List Utterance} (telling : Telling activity chunks (.error error) us) :
    error.answer? = none := by
  generalize failed : (.error error : Except SendError Unit) = result at telling
  induction telling with
  | finished => cases failed
  | unfinished => cases failed; rfl
  | cancelled => cases failed; rfl
  | uncancelled => cases failed; rfl
  | refused => cases failed; rfl
  | taken _ _ _ ih => exact ih failed

/-- An inline error with room for all of it is told as the document would be. -/
theorem Inline.told {limit : Nat} {message kind : String} {us : List Utterance}
    (given : Inline limit message kind us) (inlinable : Reply.Inlinable message kind) :
    ∃ result, (Document.ofJson (Reply.error message kind)).Told limit none result us := by
  obtain ⟨size, positive, small, recited⟩ := given
  rw [inlinable.same] at recited
  obtain ⟨result, telling⟩ := recited.telling
  exact ⟨result, _, size, rfl, positive, small, telling⟩

/-- Whatever answer the peer gets to an error, there is room for it. -/
theorem SendError.answer_inlinable {error : SendError} {message : String}
    (answer : error.answer? = some message) : Reply.Inlinable message error.peerKind := by
  have capacity : Reply.Inlinable "Response too large" "capacity" := by decide +kernel
  have low : Reply.Inlinable "Low memory" "memory" := by decide +kernel
  have full : Reply.Inlinable "Out of memory" "memory" := by decide +kernel
  cases error with
  | tooLarge length cap => exact Option.some.inj answer ▸ capacity
  | lowMemory free => exact Option.some.inj answer ▸ low
  | outOfMemory requested => exact Option.some.inj answer ▸ full
  | lockTimeout => cases answer
  | cancelled => cases answer
  | serialize => cases answer
  | link error => cases answer

theorem Reply.busy_inlinable : Inlinable "Transmission busy" "busy" := by decide +kernel

/-! ## The theorem -/

/-- What the link hears of a document that is sent: nothing of it, when the error has no answer; or
the document; or the error that is its answer, as it would hear it if that was sent. -/
inductive Hearing (document : Document) (activity : Option Activity) :
    Except SendError Unit → List Utterance → Prop where
  | silent {error} (unanswered : error.answer? = none) :
    Hearing document activity (.error error) []
  | document {result us} (told : document.Told maxChunk activity result us) :
    Hearing document activity result us
  | error {error message us} (answer : error.answer? = some message)
    (told : ∃ result,
      (Document.ofJson (Reply.error message error.peerKind)).Told maxChunk none result us) :
    Hearing document activity (.error error) us

/-- When there is an answer, it is what the link hears. -/
theorem Hearing.answered {document : Document} {activity : Option Activity} {error : SendError}
    {message : String} {us : List Utterance}
    (hearing : Hearing document activity (.error error) us)
    (answer : error.answer? = some message) : ∃ result,
      (Document.ofJson (Reply.error message error.peerKind)).Told maxChunk none result us := by
  cases hearing with
  | silent unanswered =>
    rw [unanswered] at answer
    cases answer
  | document told =>
    obtain ⟨_, _, _, _, _, telling⟩ := told
    rw [telling.unanswered] at answer
    cases answer
  | error other told =>
    obtain rfl := Option.some.inj (other.symm.trans answer)
    exact told

theorem Fate.hearing {document : Document} {activity : Option Activity}
    {result : Except SendError Unit} {us : List Utterance} {chunks : List Bytes}
    (fate : Fate maxChunk document activity result us chunks) :
    Hearing document activity result us := by
  cases fate with
  | unserialized => exact .silent rfl
  | answered answer given => exact .error answer (given.told (SendError.answer_inlinable answer))
  | told written positive small telling =>
    exact .document ⟨_, _, written, positive, small, telling⟩

open Act

variable {W H : Type}

theorem Ports.Within.transmit_heard {ports : Ports W H} (back : ports.ComeBack)
    (document : Document) (activity : Option Activity) (s : Station (Recorded W Call) H) :
    Tells (fun _ _ => True) (transmit ports.logged document activity) s fun result us =>
      Hearing document activity result us := by
  apply Returns.mono (back.logged.transmit_fated document activity
    (ports.logged.narrow_maxChunk s))
  rintro result t ⟨us, chunks, trail, fate⟩
  exact ⟨us, bookless_true.spoken_of_trail back trail, fate.hearing⟩

/-- An error whose texts need no escaping is the same document inline and serialized, if there is
room for all of it. If there is not, a part of the document is left, and never more than there is
room for. Every error that sending gives is of the first sort: whatever the link, the memory and
others do, all that the link hears of it are chunks of the serialized error and an end marker. -/
theorem inline_error_as_serialized :
    (∀ message kind : String, message.toList.all Json.plain = true →
      kind.toList.all Json.plain = true →
      let text := (Reply.error message kind).serialize
      let inline := Bytes.ofText (Reply.inlineError message kind)
      (text.length ≤ Reply.inlineCapacity → inline = text) ∧
        (Reply.inlineCapacity < text.length →
          inline <+: text ∧ inline ≠ text ∧ inline.length ≤ Reply.inlineCapacity)) ∧
    ∀ (W H : Type) (ports : Ports W H), ports.ComeBack →
      ∀ (document : Document) (activity : Option Activity) (s : Station (Recorded W Call) H),
      Returns (send ports.logged document activity) s fun result t => ∃ us busy,
        t.world.diary.filterMap Call.told? =
            s.world.diary.filterMap Call.told? ++ (us ++ busy).map Utterance.told ∧
          Hearing document activity result us ∧
          (∀ error message, result = .error error → error.answer? = some message → ∃ result,
            (Document.ofJson (Reply.error message error.peerKind)).Told maxChunk none result us) ∧
          (busy = [] ∨ ∃ result,
            (Document.ofJson (Reply.error "Transmission busy" "busy")).Told maxChunk none result
              busy) := by
  refine ⟨fun message kind plain sort => ⟨fun short => ?_, fun long => ?_⟩, ?_⟩
  · exact Reply.Inlinable.same ⟨plain, sort, short⟩
  · exact Reply.inlineError_cut plain sort long
  · intro W H ports back document activity s
    apply Returns.mono (bookless_true.send_tells_around back (fitting_maxChunk ports _ s.bare)
      document activity (fun u _ => back.transmit_heard document activity u) trivial)
    rintro result t ⟨said, spoken, ⟨rfl, rfl⟩ | ⟨us, busy, hearing, answer, rfl⟩⟩
    · refine ⟨[], [], spoken.told, .silent rfl, ?_, .inl rfl⟩
      rintro _ _ ⟨⟩ ⟨⟩
    · refine ⟨us, busy, spoken.told, hearing, ?_,
        answer.imp_right fun given => given.told Reply.busy_inlinable⟩
      rintro error message rfl answer
      exact hearing.answered answer

/-- One that is too long is cut, and one that is not is the same; this one is what the link hears
when both pools are full. -/
theorem inline_error_as_serialized_of_full_pools :
    let long := String.ofList (List.replicate 200 'a')
    let s : Station (Recorded Nat Call) Empty := ⟨.fresh {}, { world := 0 }⟩
    let document := Document.steady (List.replicate 50 97)
    Bytes.ofText (Reply.inlineError "Out of memory" "memory") =
        (Reply.error "Out of memory" "memory").serialize ∧
      Bytes.ofText (Reply.inlineError long "memory") <+: (Reply.error long "memory").serialize ∧
      Bytes.ofText (Reply.inlineError long "memory") ≠ (Reply.error long "memory").serialize ∧
      drainedPorts.ComeBack ∧
      Returns (send drainedPorts.logged document none) s fun result t =>
        result = .error (.outOfMemory 114) ∧ ∃ us busy,
          t.world.diary.filterMap Call.told? = (us ++ busy).map Utterance.told ∧ ∃ result,
            (Document.ofJson (Reply.error "Out of memory" "memory")).Told maxChunk none result
              us := by
  intro long s document
  obtain ⟨forms, heard⟩ := inline_error_as_serialized
  have same := (forms "Out of memory" "memory" (by decide) (by decide)).1 (by decide +kernel)
  have letters : long.toList.all Json.plain = true := by
    simp only [long, String.toList_ofList]
    decide +kernel
  have beyond : Reply.inlineCapacity < (Reply.error long "memory").serialize.length := by
    have bytes : (Bytes.ofText long).length = 200 := by
      simp only [long, Bytes.ofText, String.toList_ofList]
      decide +kernel
    rw [Bytes.length_ofText] at bytes
    rw [Json.serialize, Reply.render_error letters (by decide), Bytes.length_ofText]
    simp only [Reply.inlinePieces, String.join_cons, String.utf8ByteSize_append, bytes,
      Reply.inlineCapacity]
    omega
  obtain ⟨part, other, -⟩ := (forms long "memory" letters (by decide)).2 beyond
  have back := drainedPorts_obliging.comeBack
  refine ⟨same, part, other, back, ?_⟩
  have refused : (exec (send drainedPorts.logged document none) s).1 =
      .ok (.error (.outOfMemory 114)) := by decide +kernel
  obtain ⟨result, t, run, us, busy, told, -, answered, -⟩ := heard _ _ _ back document none s
  rw [run] at refused
  have failed := Except.ok.inj refused
  have full := answered (.outOfMemory 114) "Out of memory" failed rfl
  exact ⟨result, t, run, failed, us, busy, told, full⟩

end CommandLink
