import CommandLink.Proofs.Markers
import CommandLink.Proofs.Reentrance

/-!
# The cap on responses

Whether a document is short enough is decided when it is measured. What goes out are the bytes
of the second pass, for which there is a margin in the block. So as much as the margin may go
out above the cap, and does when the document grows in between, but not more. A document that
does not grow keeps to the cap.
-/

namespace CommandLink

open Act

variable {W H : Type}

/-! ## What is said of a document -/

def Signal.content? : Signal → Option Bytes
  | .content bytes => some bytes
  | .finished => none
  | .cancelled => none
  | .progress _ _ _ => none

/-- All content among what is said, whether the link takes it or not. -/
def contents (us : List Utterance) : Bytes :=
  (us.filterMap fun utterance => utterance.signal.content?).flatten

@[simp] theorem contents_nil : contents [] = [] := rfl

@[simp] theorem contents_content (bytes : Bytes) (answer : Except LinkError Unit)
    (us : List Utterance) : contents (⟨.content bytes, answer⟩ :: us) = bytes ++ contents us := rfl

theorem contents_append (us vs : List Utterance) :
    contents (us ++ vs) = contents us ++ contents vs := by
  simp [contents]

theorem contents_of_progress {activity : Option Activity} {asides : List Utterance}
    (progress : ∀ aside ∈ asides, ∃ reported done total,
      activity = some reported ∧ aside.signal = .progress reported done total) :
    contents asides = [] := by
  have silent : asides.filterMap (fun aside => aside.signal.content?) = [] := by
    apply List.filterMap_eq_nil_iff.mpr
    intro aside member
    obtain ⟨reported, done, total, -, signal⟩ := progress aside member
    rw [signal]
    rfl
  rw [contents, silent]
  rfl

/-- What is told is the document from its beginning, as far as it gets. -/
theorem Telling.contents_prefix {activity : Option Activity} {chunks : List Bytes}
    {result : Except SendError Unit} {us : List Utterance}
    (telling : Telling activity chunks result us) : contents us <+: chunks.flatten := by
  induction telling with
  | finished => exact List.nil_prefix
  | unfinished => exact List.nil_prefix
  | cancelled => exact List.nil_prefix
  | uncancelled => exact List.nil_prefix
  | refused chunk rest error =>
    rw [contents_content, contents_nil, List.append_nil, List.flatten_cons]
    exact List.prefix_append _ _
  | taken chunk progress further ih =>
    -- The report on the progress stands between this chunk and the next, and is no content.
    rw [List.cons_append, contents_content, contents_append, contents_of_progress progress,
      List.nil_append, List.flatten_cons]
    exact (List.prefix_append_right_inj chunk).mpr ih

/-! ## The cap -/

/-- What a send says of its document: nothing, or an inline error in its place, or the document
itself, which was measured within the cap and written within the margin above that. -/
inductive Capped (settings : Settings) (document : Document) (activity : Option Activity) :
    Except SendError Unit → List Utterance → Prop where
  | unsaid (error) : Capped settings document activity (.error error) []
  | inline (error message kind) {us} (given : Inline maxChunk message kind us) :
    Capped settings document activity (.error error) us
  | told {text payload size result us} (admitted : document.Admitted settings text payload)
    (telling : Telling activity (Bytes.pieces size payload) result us)
    (beginning : contents us <+: payload)
    (margin : (contents us).length ≤
      settings.maxResponse.toNat + settings.responseMargin.toNat)
    (cap : payload.length ≤ text.length →
      (contents us).length ≤ settings.maxResponse.toNat) :
    Capped settings document activity result us

theorem capped_of_telling {settings : Settings} {document : Document}
    {activity : Option Activity} {text payload : Bytes} {size : Nat}
    {result : Except SendError Unit} {us : List Utterance}
    (admitted : document.Admitted settings text payload)
    (telling : Telling activity (Bytes.pieces size payload) result us) :
    Capped settings document activity result us := by
  have beginning := telling.contents_prefix
  rw [Bytes.pieces_flatten] at beginning
  have short := beginning.length_le
  have capped := admitted.capped
  have fits := admitted.fits
  exact .told admitted telling beginning (by omega) (by omega)

section Sending

variable {ports : Ports W H} (back : ports.ComeBack) {settings : Settings}
  (steady : ports.Keep fun s => s.endpoint.settings = settings) (document : Document)
  (activity : Option Activity) {s : Station (Recorded W Entry) H}
  (same : s.endpoint.settings = settings)

include back steady same

theorem Ports.Within.transmit_capped :
    Writes (transmit ports.journaled document activity) s fun result _ entries =>
      ∃ us, entries.filterMap Entry.told? = us.map Utterance.told ∧
        Capped settings document activity result us := by
  apply (back.transmit_rounds steady document activity same).mono
  rintro result t entries (⟨error, us, rfl, given, told⟩ | ⟨payload, sent, rfl, text, admitted⟩)
  · rcases given with rfl | ⟨message, kind, inline⟩
    · exact ⟨[], told, .unsaid error⟩
    · exact ⟨us, told, .inline error message kind inline⟩
  · obtain ⟨us, telling, told⟩ := sent.gone.telling
    rw [sent.named] at telling
    refine ⟨us, ?_, capped_of_telling admitted telling⟩
    rw [List.append_assoc, List.filterMap_append, sent.silent_opening]
    exact told

/-- Whatever the two passes of a document yield, no more of it goes out than the cap and the
margin together, and no more than the cap unless it grew from one pass to the next. -/
theorem content_within_cap_and_margin :
    Writes (send ports.journaled document activity) s fun result _ entries =>
      ∃ us busy, entries.filterMap Entry.told? = (us ++ busy).map Utterance.told ∧
        Capped settings document activity result us ∧
        (busy = [] ∨ Inline maxChunk "Transmission busy" "busy" busy) := by
  have transmitted := back.transmit_capped steady document activity (s := s.locked) same
  exact back.send_told (.unsaid _) transmitted

end Sending

/-- A document that grows from one byte to four may just be sent with a cap of three bytes and
a margin of three. -/
theorem content_within_cap_and_margin_of_four_bytes :
    let settings : Settings := { maxResponse := 3, responseMargin := 3 }
    let s : Station (Recorded Nat Entry) Empty := ⟨.fresh settings, { world := 0 }⟩
    let document : Document := ⟨some [49], some [49, 50, 51, 52]⟩
    scantyPorts.ComeBack ∧ s.endpoint.settings = settings ∧
      Writes (send scantyPorts.journaled document none) s fun result _ entries =>
        result = .ok () ∧ ∃ us busy,
          entries.filterMap Entry.told? = (us ++ busy).map Utterance.told ∧
            Capped settings document none result us ∧
            (busy = [] ∨ Inline maxChunk "Transmission busy" "busy" busy) := by
  intro settings s document
  have ended : (exec (send scantyPorts.journaled document none) s).1 = .ok (.ok ()) := by
    decide +kernel
  have known := content_within_cap_and_margin scantyPorts_comeBack
    (scantyPorts_keep fun endpoint => endpoint.settings = settings) document none (s := s) rfl
  obtain ⟨result, t, run, entries, diary, holds⟩ := known
  rw [run] at ended
  exact ⟨scantyPorts_comeBack, rfl, result, t, run, entries, diary, Except.ok.inj ended, holds⟩

/-- With a cap of four bytes, a document that is measured as `1` and written as a text of twelve
bytes goes out with all of them. -/
theorem content_of_twelve_bytes_above_cap_of_four :
    let settings : Settings := { maxResponse := 4 }
    let s : Station (Recorded Nat Entry) Empty := ⟨.fresh settings, { world := 0 }⟩
    let payload := (Json.text "aaaaaaaaaa").serialize
    let document : Document := ⟨some (Json.ofNat 1).serialize, some payload⟩
    settings.Valid ∧ settings.maxResponse.toNat < payload.length ∧
      (exec (sendTelemetry openPorts.journaled document) s).1 = .ok (.ok ()) ∧
      (exec (sendTelemetry openPorts.journaled document) s).2.world.diary.filterMap Entry.told? =
        [(payload, .ok ()), (endMarker, .ok ())] := by
  decide +kernel

end CommandLink
