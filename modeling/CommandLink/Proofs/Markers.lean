import CommandLink.Bench.Inbound
import CommandLink.Proofs.ExactStream
import CommandLink.Proofs.Reentrance

/-!
# Markers and chunks

On the link a marker is a marker as a whole notification, and a chunk that merely contains one
is not. So a chunk may hold the bytes of a marker at any place, but it must not be one.

A chunk before the last one is as long as was planned, and the last one ends as the document
does. No value is written with a closing bracket at its end, as both markers have it. This
leaves the chunks that are exactly as long as a marker. A link carries at least 20 bytes, which
is more, but when memory is low the chunks shrink to a size that is set, and nothing keeps this
size from being the length of a marker: a document that holds the marker at the right place is
then heard as two.
-/

namespace CommandLink

/-! ## How documents end -/

/-- Only a character of one byte ends in a byte below 128, and that byte is the character. -/
theorem Bytes.eq_of_getLast?_utf8EncodeChar {c : Char}
    (bracket : (String.utf8EncodeChar c).getLast? = some 62) : c = '>' := by
  have value := congrArg (Option.map UInt8.toNat) bracket
  have size : c.toNat = c.val.toNat := rfl
  -- In a form of several bytes the last one is 128 at least.
  have same : c.val.toNat = 62 := by
    unfold String.utf8EncodeChar at value
    dsimp only at value
    split at value
    next =>
      simp at value
      omega
    next =>
      split at value
      next =>
        simp at value
        omega
      next =>
        split at value
        all_goals
          simp at value
          omega
  exact Char.ext (UInt32.toNat_inj.mp same)

theorem Bytes.getLast?_ofText_ne {text : String} (other : text.toList.getLast? ≠ some '>') :
    (ofText text).getLast? ≠ some 62 := by
  rcases List.eq_nil_or_concat text.toList with none | ⟨init, c, split⟩
  · simp [ofText, none]
  · intro last
    rw [split, List.concat_eq_append] at other
    rw [ofText, split, List.concat_eq_append, List.flatMap_append, List.flatMap_singleton,
      List.getLast?_append] at last
    cases ends : (String.utf8EncodeChar c).getLast? with
    | none => exact absurd (List.getLast?_eq_none_iff.mp ends) String.utf8EncodeChar_ne_nil
    | some byte =>
      rw [ends, Option.some_or] at last
      rw [last] at ends
      apply other
      rw [eq_of_getLast?_utf8EncodeChar ends, List.getLast?_concat]

theorem Number.not_mem_toDigits (n : Nat) : '>' ∉ Nat.toDigits 10 n := by
  intro member
  exact absurd (Nat.isDigit_of_mem_toDigits (by decide) (by decide) member) (by decide)

theorem Number.not_mem_positional (x : Decimal.Scientific) : '>' ∉ (positional x).toList := by
  -- Each branch writes the digits, or a part of them, and a few fixed characters around them.
  have digits := not_mem_toDigits
  have taken (n : Nat) : '>' ∉ (Nat.toDigits 10 x.digits).take n := fun member =>
    digits _ (List.mem_of_mem_take member)
  have left (n : Nat) : '>' ∉ (Nat.toDigits 10 x.digits).drop n := fun member =>
    digits _ (List.mem_of_mem_drop member)
  unfold positional
  simp only [Nat.toList_repr]
  split
  · split
    · simp [digits]
    · split
      · simp [taken, left]
      · simp [digits]
  · split <;> split <;> simp [taken, left, digits, -List.drop_one]

theorem Number.not_mem_render (number : Number) : '>' ∉ number.render.toList := by
  cases number with
  | integer value =>
    cases value with
    | ofNat n =>
      have digits := not_mem_toDigits n
      simpa [render, toString, Int.repr] using digits
    | negSucc n =>
      have digits := not_mem_toDigits (n + 1)
      simpa [render, toString, Int.repr] using digits
  | real value =>
    have digits := not_mem_positional
    unfold render realText
    dsimp only
    split <;> split <;> simp [digits]

theorem Json.getLast?_render_ne (value : Json) : value.render.toList.getLast? ≠ some '>' := by
  cases value with
  | null => decide
  | boolean b => cases b <;> decide
  | number n =>
    intro last
    rw [render] at last
    exact n.not_mem_render (List.mem_of_getLast? last)
  | text s =>
    rw [render, quoted, String.toList_append, List.getLast?_append]
    simp
  | list items =>
    rw [render, String.toList_append, List.getLast?_append]
    simp
  | object fields =>
    rw [render, String.toList_append, List.getLast?_append]
    simp

/-- No value's text ends as a marker does. -/
theorem Json.getLast?_serialize_ne (value : Json) : value.serialize.getLast? ≠ some 62 :=
  Bytes.getLast?_ofText_ne value.getLast?_render_ne

/-- A text is not cut into a marker, unless the pieces are as long as the marker or the text ends
as the marker ends. -/
theorem Bytes.not_mem_pieces {size : Nat} (positive : 0 < size) {bytes marker : Bytes}
    (length : size ≠ marker.length) (ends : bytes.getLast? ≠ marker.getLast?) :
    marker ∉ pieces size bytes := by
  obtain ⟨whole, full, last⟩ := cut_pieces positive bytes
  intro member
  rcases List.eq_nil_or_concat (pieces size bytes) with none | ⟨init, final, split⟩
  · rw [none] at member
    cases member
  · rw [split, List.concat_eq_append] at whole full last member
    rcases List.mem_append.mp member with early | only
    · exact length (full marker (by simpa using early)).symm
    · -- The last piece is not empty, so it ends as the text does.
      obtain rfl := List.mem_singleton.mp only
      have filled := (last marker (by simp)).1
      apply ends
      rw [← whole, List.flatten_append, List.flatten_singleton, List.getLast?_append]
      cases same : marker.getLast? with
      | none => exact absurd (List.getLast?_eq_none_iff.mp same) filled
      | some byte => rfl

/-! ## Chunks that are no markers -/

/-- What is written of the document, if anything, does not end as the markers end. -/
def Document.Unmarked (document : Document) : Prop :=
  ∀ text, document.written = some text → text.getLast? ≠ some 62

theorem Document.unmarked_ofJson (value : Json) : (Document.ofJson value).Unmarked := by
  rintro _ ⟨⟩
  exact value.getLast?_serialize_ne

/-- What ends a document. -/
def closingMarkers : List Bytes := [endMarker, cancelledMarker]

theorem closingMarkers_bounds :
    ∀ marker ∈ closingMarkers, marker.length < 20 ∧ marker.getLast? = some 62 := by
  decide

/-- Chunks are shorter than what any link carries only if memory is low, and then they are as
long as is set. -/
theorem Settings.low_of_planned {settings : Settings} {total free unit : Nat} (wide : 20 ≤ unit)
    (short : (settings.plan total free unit).chunkSize < 20) :
    free < settings.lowMemoryFree.toNat ∧
      (settings.plan total free unit).chunkSize = settings.lowMemoryChunk.toNat := by
  simp only [plan, maxChunk, decide_eq_true_eq] at short ⊢
  split at short
  next low =>
    rw [if_pos low]
    omega
  next => omega

/-- What a send says of its document: nothing, or an inline error instead, or its chunks. A
marker among the chunks is as long as chunks are set to be when memory is low, and it was. -/
inductive Conveys (settings : Settings) (readings : List Nat) (document : Document)
    (activity : Option Activity) : Except SendError Unit → List Utterance → Prop where
  | unsaid (error) : Conveys settings readings document activity (.error error) []
  | inline (error message kind) {us} (given : Inline maxChunk message kind us) :
    Conveys settings readings document activity (.error error) us
  | told {payload size result us} (written : document.written = some payload)
    (apart : ∀ marker ∈ closingMarkers, marker ∈ Bytes.pieces size payload →
      settings.lowMemoryChunk.toNat = marker.length ∧
        ∃ free ∈ readings, free < settings.lowMemoryFree.toNat)
    (telling : Telling activity (Bytes.pieces size payload) result us) :
    Conveys settings readings document activity result us

/-- More may be read of the memory. -/
theorem Conveys.mono {settings : Settings} {readings more : List Nat} {document : Document}
    {activity : Option Activity} {result : Except SendError Unit} {us : List Utterance}
    (conveys : Conveys settings readings document activity result us) (further : readings ⊆ more) :
    Conveys settings more document activity result us := by
  cases conveys with
  | unsaid error => exact .unsaid error
  | inline error message kind given => exact .inline error message kind given
  | told written apart telling =>
    refine .told written ?_ telling
    intro marker closing member
    obtain ⟨long, free, read, low⟩ := apart marker closing member
    exact ⟨long, free, further read, low⟩

/-- The free memory, where it was read. -/
def Entry.read? : Entry → Option Nat
  | .call (.readFree free) _ _ => some free
  | .call (.notified _ _) _ _ => none
  | .call (.slept _) _ _ => none
  | .call (.asked _ _ _) _ _ => none
  | .nested _ => none

open Act Entry

variable {W H : Type}

/-- Of a text that is cut as planned, a piece is a marker only when memory is low and pieces
are as long as the marker then. -/
theorem Settings.Valid.marker_length_of_mem {settings : Settings} (valid : settings.Valid)
    {text : Bytes} (ends : text.getLast? ≠ some 62) {total free unit : Nat} (wide : 20 ≤ unit)
    {marker : Bytes} (closing : marker ∈ closingMarkers)
    (member : marker ∈ Bytes.pieces (settings.plan total free unit).chunkSize text) :
    settings.lowMemoryChunk.toNat = marker.length ∧ free < settings.lowMemoryFree.toNat := by
  -- Both markers are shorter than what any link carries, and end alike.
  have known := closingMarkers_bounds marker closing
  have positive := (valid.plan_chunkSize_bounds total free unit).1
  have long : (settings.plan total free unit).chunkSize = marker.length := by
    apply Decidable.byContradiction
    intro other
    rw [← known.2] at ends
    exact Bytes.not_mem_pieces positive other ends member
  rw [← long] at known
  obtain ⟨low, same⟩ := Settings.low_of_planned wide known.1
  exact ⟨same.symm.trans long, low⟩

section Conveying

variable {ports : Ports W H} (back : ports.ComeBack) {settings : Settings} (valid : settings.Valid)
  (steady : ports.Keep fun s => s.endpoint.settings = settings) {document : Document}
  (unmarked : document.Unmarked) (activity : Option Activity) {s : Station (Recorded W Entry) H}
  (same : s.endpoint.settings = settings)

include back valid steady unmarked same

theorem Ports.Within.transmit_conveys :
    Writes (transmit ports.journaled document activity) s fun result _ entries =>
      ∃ us, entries.filterMap told? = us.map Utterance.told ∧
        Conveys settings (entries.filterMap read?) document activity result us := by
  apply (back.transmit_rounds steady document activity same).mono
  rintro result t entries (⟨error, us, rfl, given, told⟩ | ⟨payload, sent, rfl, -⟩)
  · rcases given with rfl | ⟨message, kind, inline⟩
    · exact ⟨[], told, .unsaid error⟩
    · exact ⟨us, told, .inline error message kind inline⟩
  · obtain ⟨us, telling, told⟩ := sent.gone.telling
    rw [sent.named, sent.planned] at telling
    refine ⟨us, ?_, .told sent.written ?_ telling⟩
    · rw [List.append_assoc, List.filterMap_append, sent.silent_opening]
      exact told
    · -- The plan is made from what the memory read, so this reading is among the entries.
      have reading : sent.free ∈
          (sent.opening ++ sent.rounds.flatten ++ [sent.closing]).filterMap read? := by
        simp [Sent.opening, read?]
      intro marker closing member
      obtain ⟨long, low⟩ := valid.marker_length_of_mem (unmarked payload sent.written) sent.wide
        closing member
      exact ⟨long, sent.free, reading, low⟩

theorem Ports.Within.send_conveys :
    Writes (send ports.journaled document activity) s fun result _ entries =>
      ∃ us busy, entries.filterMap told? = (us ++ busy).map Utterance.told ∧
        Conveys settings (entries.filterMap read?) document activity result us ∧
        (busy = [] ∨ Inline maxChunk "Transmission busy" "busy" busy) ∧
        (s.Unowed → ports.Keep Station.Unowed → busy = []) := by
  cases sending : s.endpoint.sending with
  | true =>
    exact ⟨_, _, exec_send_of_held _ _ _ sending, [], by simp, [], [], rfl, .unsaid _, .inl rfl,
      fun _ _ => rfl⟩
  | false =>
    have transmitted : Writes (transmit ports.journaled document activity) s.locked
        fun result t told => (∃ us, told.filterMap told? = us.map Utterance.told ∧
          Conveys settings (told.filterMap read?) document activity result us) ∧
          exec (transmit ports.journaled document activity) s.locked = (.ok result, t) := by
      obtain ⟨result, t, run, told, diary, known⟩ :=
        back.transmit_conveys valid steady unmarked activity (s := s.locked) same
      exact ⟨result, t, run, told, diary, known, run⟩
    apply (back.send_writes sending transmitted).mono
    rintro result u _ ⟨t, told, answer, rfl, ⟨⟨us, said, conveys⟩, run⟩, given, unasked⟩
    have readings : told.filterMap read? ⊆ (told ++ answer).filterMap read? := by
      rw [List.filterMap_append]
      exact List.subset_append_left _ _
    by_cases owed : t.endpoint.busyOwed = true
    · obtain ⟨busy, inline, answered⟩ := (given owed).told
      refine ⟨us, busy, ?_, conveys.mono readings, .inr inline, ?_⟩
      · rw [List.filterMap_append, said, answered, List.map_append]
      · -- Where nobody is owed anything, this holds until the document is out.
        intro unowed keep
        have kept := (Ports.Keep.journaled (I := fun endpoint => endpoint.busyOwed = false) keep)
          |>.transmit_keeps unowed_minor document activity s.locked unowed
        rw [run] at kept
        rw [show t.endpoint.busyOwed = false from kept] at owed
        cases owed
    · obtain ⟨rfl, -⟩ := unasked owed
      exact ⟨us, [], by simpa using said, conveys.mono readings, .inl rfl, fun _ _ => rfl⟩

end Conveying

/-! ## What the peer makes of it -/

/-- What the link took of what it was told. -/
def taken (told : List (Bytes × Except LinkError Unit)) : List Bytes :=
  told.filterMap fun
    | (bytes, .ok ()) => some bytes
    | (_, .error _) => none

theorem taken_map_ok (all : List Bytes) : taken (all.map (·, .ok ())) = all := by
  rw [taken, List.filterMap_map]
  exact List.filterMap_some

/-- A document without reports that was sent is all that the link took. -/
theorem Telling.told_of_ok {chunks : List Bytes} {us : List Utterance}
    (telling : Telling none chunks (.ok ()) us) :
    us.map Utterance.told = (chunks ++ [endMarker]).map (·, .ok ()) := by
  generalize ended : (.ok () : Except SendError Unit) = result at telling
  induction telling with
  | finished => rfl
  | unfinished => cases ended
  | cancelled => cases ended
  | uncancelled => cases ended
  | refused => cases ended
  | @taken chunk rest result asides us progress further ih =>
    -- Nothing is reported of what is no activity.
    have silent : asides = [] := by
      apply List.eq_nil_iff_forall_not_mem.mpr
      intro aside member
      obtain ⟨_, _, _, named, -⟩ := progress aside member
      cases named
    rw [silent, List.map_append, ih ended]
    rfl

/-- The peer puts what the link takes together, and cuts it at each end marker. -/
def heardFrom (held : Bytes) : List Bytes → List Bytes
  | [] => []
  | one :: rest =>
    if one = endMarker then held :: heardFrom [] rest else heardFrom (held ++ one) rest

/-- Chunks that are no end markers are put together, up to the end marker. -/
theorem heardFrom_chunks {chunks : List Bytes} (apart : endMarker ∉ chunks) (held : Bytes)
    (rest : List Bytes) :
    heardFrom held (chunks ++ [endMarker] ++ rest) =
      (held ++ chunks.flatten) :: heardFrom [] rest := by
  induction chunks generalizing held with
  | nil => simp [heardFrom]
  | cons chunk further ih =>
    rw [List.mem_cons, not_or] at apart
    rw [List.cons_append, List.cons_append, heardFrom, if_neg (Ne.symm apart.1), ih apart.2,
      List.flatten_cons, List.append_assoc]

/-- Telemetries that were sent, each with what the link took of it, while other things go on in
between. Nobody is owed a "busy" answer when one is begun. -/
inductive Telemetries (ports : Ports W H) (settings : Settings) :
    Station (Recorded W Entry) H → List (Document × List Bytes) → Station (Recorded W Entry) H →
      Prop where
  | done (s) : Telemetries ports settings s [] s
  | other (s t) {sent u} (further : Telemetries ports settings t sent u) :
    Telemetries ports settings s sent u
  | sent {s t u document entries sent} (same : s.endpoint.settings = settings) (unowed : s.Unowed)
    (run : exec (sendTelemetry ports.journaled document) s = (.ok (.ok ()), t))
    (diary : t.world.diary = s.world.diary ++ entries)
    (further : Telemetries ports settings t sent u) :
    Telemetries ports settings s ((document, taken (entries.filterMap told?)) :: sent) u

section Hearing

variable {ports : Ports W H} (back : ports.ComeBack) {settings : Settings} (valid : settings.Valid)
  (steady : ports.Keep fun s => s.endpoint.settings = settings)
  (unlike : settings.lowMemoryChunk.toNat ≠ endMarker.length) (keep : ports.Keep Station.Unowed)

include back valid steady unlike keep

/-- A telemetry that was sent is cut out again, whatever comes behind it. -/
theorem Ports.Within.telemetry_heard {document : Document} (unmarked : document.Unmarked)
    {s t : Station (Recorded W Entry) H} (same : s.endpoint.settings = settings)
    (unowed : s.Unowed)
    (run : exec (sendTelemetry ports.journaled document) s = (.ok (.ok ()), t))
    {entries : List Entry} (diary : t.world.diary = s.world.diary ++ entries) (rest : List Bytes) :
    ∃ text, document.written = some text ∧
      heardFrom [] (taken (entries.filterMap told?) ++ rest) = text :: heardFrom [] rest := by
  obtain ⟨us, busy, told, conveys, -, answered⟩ :=
    (back.send_conveys valid steady unmarked none same).of_exec run diary
  rw [answered unowed keep, List.append_nil] at told
  cases conveys with
  | @told text size _ _ written apart telling =>
    have ended : endMarker ∉ Bytes.pieces size text := fun member =>
      unlike (apart endMarker (by decide) member).1
    refine ⟨text, written, ?_⟩
    rw [told, telling.told_of_ok, taken_map_ok, heardFrom_chunks ended, List.nil_append,
      Bytes.pieces_flatten]

theorem Telemetries.heard {s t : Station (Recorded W Entry) H}
    {sent : List (Document × List Bytes)} (run : Telemetries ports settings s sent t)
    (unmarked : ∀ one ∈ sent, one.1.Unmarked) :
    (heardFrom [] (sent.flatMap (·.2))).map some = sent.map (·.1.written) := by
  induction run with
  | done => rfl
  | other s t further ih => exact ih unmarked
  | @sent s t u document entries sent same unowed run diary further ih =>
    rw [List.forall_mem_cons] at unmarked
    obtain ⟨text, written, heard⟩ := back.telemetry_heard valid steady unlike keep unmarked.1 same
      unowed run diary (sent.flatMap (·.2))
    rw [List.flatMap_cons, heard, List.map_cons, List.map_cons, written, ih unmarked.2]

end Hearing

/-! ## The theorem -/

/-- Whatever the settings, the document and the link, a chunk is no marker unless memory is low
and chunks are then set to be as long as that marker. Where they are not set to the length of
the end marker, the peer cuts exactly the documents that were written out of the telemetries
that were sent, in their order. The text of a value never stands in the way of this. -/
theorem chunks_apart_from_markers {ports : Ports W H} (back : ports.ComeBack)
    {settings : Settings} (valid : settings.Valid)
    (steady : ports.Keep fun s => s.endpoint.settings = settings) :
    (∀ value : Json, (Document.ofJson value).Unmarked) ∧
    (∀ (document : Document) (activity : Option Activity) (s : Station (Recorded W Entry) H),
      document.Unmarked → s.endpoint.settings = settings →
        Writes (send ports.journaled document activity) s fun result _ entries =>
          ∃ us busy, entries.filterMap told? = (us ++ busy).map Utterance.told ∧
            Conveys settings (entries.filterMap read?) document activity result us ∧
            (busy = [] ∨ Inline maxChunk "Transmission busy" "busy" busy) ∧
            (s.Unowed → ports.Keep Station.Unowed → busy = [])) ∧
    (settings.lowMemoryChunk.toNat ≠ endMarker.length → ports.Keep Station.Unowed →
      ∀ (s t : Station (Recorded W Entry) H) (sent : List (Document × List Bytes)),
        Telemetries ports settings s sent t → (∀ one ∈ sent, one.1.Unmarked) →
          (heardFrom [] (sent.flatMap (·.2))).map some = sent.map (·.1.written)) := by
  refine ⟨Document.unmarked_ofJson, ?_, ?_⟩
  · intro document activity s unmarked same
    exact back.send_conveys valid steady unmarked activity same
  · intro unlike keep s t sent run unmarked
    exact run.heard back valid steady unlike keep unmarked

/-- Ports of a link that takes everything, on a device with little memory left. -/
def scantyPorts : Ports Nat Empty :=
  { Bench.clockPorts with
    notify := fun _ => return .ok ()
    freeBytes := return 20000
    allocate := fun _ _ => return true }

theorem scantyPorts_comeBack : scantyPorts.ComeBack where
  notify _ s := ⟨_, s, rfl, trivial⟩
  sleep _ _ := ⟨(), _, rfl, trivial⟩
  freeBytes s := ⟨_, s, rfl, trivial⟩
  allocate _ _ s := ⟨_, s, rfl, trivial⟩

theorem scantyPorts_keep (I : Endpoint Empty → Prop) : scantyPorts.Keep fun s => I s.endpoint where
  notify _ _ there := there
  sleep _ _ there := there
  freeBytes _ there := there
  allocate _ _ _ there := there

/-- In pieces of four bytes, a text that contains the marker is heard as it is. -/
theorem chunks_apart_from_markers_of_four_bytes :
    let settings : Settings := { lowMemoryChunk := 4 }
    let s : Station (Recorded Nat Entry) Empty := ⟨.fresh settings, { world := 0 }⟩
    let document := Document.ofJson (.text "abcd<END>efgh")
    settings.Valid ∧ settings.lowMemoryChunk.toNat ≠ endMarker.length ∧ document.Unmarked ∧
      ∃ t sent, Telemetries scantyPorts settings s sent t ∧ sent.map (·.1) = [document] ∧
        (heardFrom [] (sent.flatMap (·.2))).map some = [document.written] := by
  intro settings s document
  have valid : settings.Valid := by decide
  have unlike : settings.lowMemoryChunk.toNat ≠ endMarker.length := by decide
  have ended : (exec (sendTelemetry scantyPorts.journaled document) s).1 = .ok (.ok ()) := by
    decide +kernel
  obtain ⟨unmarked, sends, hears⟩ := chunks_apart_from_markers scantyPorts_comeBack valid
    (scantyPorts_keep fun endpoint => endpoint.settings = settings)
  obtain ⟨result, t, run, entries, diary, -⟩ := sends document none s (unmarked _) rfl
  have same : result = .ok () := by
    change exec (sendTelemetry scantyPorts.journaled document) s = _ at run
    rw [run] at ended
    exact Except.ok.inj ended
  -- What is heard is known of every run that sent the document, so this one is not looked at.
  rw [same] at run
  have heard := hears unlike (scantyPorts_keep fun endpoint => endpoint.busyOwed = false) s t _
    (.sent rfl rfl run diary (.done t)) (List.forall_mem_singleton.mpr (unmarked _))
  exact ⟨valid, unlike, unmarked _, t, _, .sent rfl rfl run diary (.done t), rfl, heard⟩

/-- In pieces of five bytes, the same text is heard as two documents, neither of which was
written. -/
theorem marker_among_chunks_of_five_bytes :
    let settings : Settings := { lowMemoryChunk := 5 }
    let s : Station (Recorded Nat Entry) Empty := ⟨.fresh settings, { world := 0 }⟩
    let document := Document.ofJson (.text "abcd<END>efgh")
    settings.Valid ∧ document.written = some (Bytes.ofText "\"abcd<END>efgh\"") ∧
      Writes (sendTelemetry scantyPorts.journaled document) s fun result _ entries =>
        result = .ok () ∧
          taken (entries.filterMap told?) =
            [Bytes.ofText "\"abcd", endMarker, Bytes.ofText "efgh\"", endMarker] ∧
          heardFrom [] (taken (entries.filterMap told?)) =
            [Bytes.ofText "\"abcd", Bytes.ofText "efgh\""] := by
  intro settings s document
  have valid : settings.Valid := by decide
  have written : document.written = some (Bytes.ofText "\"abcd<END>efgh\"") := by decide +kernel
  have ended : (exec (sendTelemetry scantyPorts.journaled document) s).1 = .ok (.ok ()) := by
    decide +kernel
  have told : taken ((exec (sendTelemetry scantyPorts.journaled document)
      s).2.world.diary.filterMap told?) =
        [Bytes.ofText "\"abcd", endMarker, Bytes.ofText "efgh\"", endMarker] := by
    decide +kernel
  have heard : heardFrom [] [Bytes.ofText "\"abcd", endMarker, Bytes.ofText "efgh\"", endMarker] =
      [Bytes.ofText "\"abcd", Bytes.ofText "efgh\""] := by
    decide
  refine ⟨valid, written, ?_⟩
  cases run : exec (sendTelemetry scantyPorts.journaled document) s with
  | mk result t =>
    rw [run] at ended told
    obtain rfl := ended
    exact ⟨.ok (), t, run, t.world.diary, rfl, rfl, told, told ▸ heard⟩

end CommandLink
