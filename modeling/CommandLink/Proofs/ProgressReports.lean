import CommandLink.Bench.Inbound
import CommandLink.Proofs.Reentrance
import Mathlib.Algebra.GroupWithZero.Nat

/-!
# When progress is reported

The loop over the chunks keeps a threshold, the percentage that the next report waits for. It
starts behind the first step, and a report moves it behind the step that was reached, whether the
link takes the report or not. So it is always the end of the step that the percentage is in, and
whether a report is due depends only on the percentages before and behind a chunk
(`Reported.due`).

A document is complete with its last chunk. That chunk is reported like any other one: when it
enters a step. It need not when 100 is no multiple of the step, as what is left behind the last
full step may hold the ends of several chunks.
-/

namespace CommandLink

/-! ## Percentages and thresholds -/

theorem percent_mono {done further : Nat} (grown : done ≤ further) (total : Nat) :
    percent done total ≤ percent further total := by
  have capped : min done total ≤ min further total := by omega
  unfold percent
  split
  next => exact Nat.le_refl _
  next => exact Nat.div_le_div_right (Nat.mul_le_mul_right 100 capped)

theorem percent_zero {total : Nat} (positive : 0 < total) : percent 0 total = 0 := by
  rw [percent, if_neg (Nat.ne_of_gt positive), Nat.zero_min, Nat.zero_mul, Nat.zero_div]

theorem percent_self (total : Nat) : percent total total = 100 := by
  unfold percent
  split
  next => rfl
  next positive =>
    rw [Nat.min_self, Nat.mul_div_cancel_left _ (Nat.pos_of_ne_zero positive)]

theorem percent_lt {done total : Nat} (short : done < total) : percent done total < 100 := by
  have positive : 0 < total := Nat.zero_lt_of_lt short
  rw [percent, if_neg (Nat.ne_of_gt positive), Nat.min_eq_left (Nat.le_of_lt short)]
  exact Nat.div_lt_of_lt_mul (Nat.mul_lt_mul_of_pos_right short (by decide))

section Thresholds

variable {step : Nat} (positive : 0 < step)

include positive

/-- The end of the step that a percentage is in is behind another one exactly when that one is
in a later step. -/
theorem threshold_le_iff (reached next : Nat) :
    (reached / step + 1) * step ≤ next ↔ reached / step < next / step := by
  rw [← Nat.le_div_iff_mul_le positive, Nat.succ_le_iff]

/-- As long as the step is a byte, so are all thresholds, and none of them is cut off. -/
theorem nextThreshold_eq (byte : step < 256) {reached : Nat} (part : reached ≤ 100) :
    nextThreshold step reached = (reached / step + 1) * step ∧
      nextThreshold step reached < 256 := by
  have begun : reached / step * step ≤ reached := Nat.div_mul_le_self _ _
  have few : reached / step ≤ reached := Nat.div_le_self _ _
  have small : (reached / step + 1) * step ≤ 255 := by
    rw [Nat.succ_mul]
    by_cases full : step ≤ 100
    · omega
    · -- A step of more than 100 is never left.
      rw [Nat.div_eq_of_lt (by omega)]
      omega
  have uncut : reached / step + 1 ≤ 255 := by omega
  rw [nextThreshold, Nat.min_eq_left uncut, Nat.min_eq_left small]
  exact ⟨rfl, Nat.lt_succ_of_le small⟩

end Thresholds

/-! ## Steps that chunks enter -/

section Steps

variable (step : Nat) (chunks : List Bytes)

/-- The whole percents of a document that are out with so many of its chunks. -/
def percentBehind (count : Nat) : Nat :=
  percent (chunks.take count).flatten.length chunks.flatten.length

/-- The chunk at a place takes the percentage to a later step. -/
def EntersStep (place : Nat) : Prop :=
  percentBehind chunks place / step < percentBehind chunks (place + 1) / step

instance (place : Nat) : Decidable (EntersStep step chunks place) :=
  inferInstanceAs (Decidable (_ < _))

theorem percentBehind_mono {i j : Nat} (le : i ≤ j) :
    percentBehind chunks i ≤ percentBehind chunks j := by
  obtain ⟨more, same⟩ : chunks.take i <+: chunks.take j := List.take_prefix_take_left le
  apply percent_mono
  rw [← same, List.flatten_append, List.length_append]
  exact Nat.le_add_right _ _

theorem percentBehind_zero (some : chunks.flatten ≠ []) : percentBehind chunks 0 = 0 :=
  percent_zero (List.length_pos_iff.mpr some)

/-- Chunks that enter a step enter different ones, at different percentages. -/
theorem EntersStep.apart {i j : Nat} (before : i < j) (enters : EntersStep step chunks j) :
    percentBehind chunks (i + 1) / step < percentBehind chunks (j + 1) / step ∧
      percentBehind chunks (i + 1) < percentBehind chunks (j + 1) := by
  have grown := Nat.div_le_div_right (c := step) (percentBehind_mono chunks before)
  have later := Nat.lt_of_le_of_lt grown enters
  exact ⟨later, Nat.lt_of_div_lt_div later⟩

/-- Every step but the first that some chunk ends in is entered by one. -/
theorem exists_enters (begun : percentBehind chunks 0 = 0) (place : Nat)
    (reached : 0 < percentBehind chunks (place + 1) / step) :
    ∃ i ≤ place, EntersStep step chunks i ∧
      percentBehind chunks (i + 1) / step = percentBehind chunks (place + 1) / step := by
  induction place with
  | zero =>
    have enters : EntersStep step chunks 0 := by
      rw [EntersStep, begun, Nat.zero_div]
      exact reached
    exact ⟨0, Nat.le_refl 0, enters, rfl⟩
  | succ place ih =>
    by_cases enters : EntersStep step chunks (place + 1)
    · exact ⟨place + 1, Nat.le_refl _, enters, rfl⟩
    · -- The chunk ends where it begins, in a step that was entered before.
      have grown := Nat.div_le_div_right (c := step)
        (percentBehind_mono chunks (Nat.le_succ (place + 1)))
      have same := Nat.le_antisymm grown (Nat.not_lt.mp enters)
      rw [← same] at reached ⊢
      obtain ⟨i, le, first, there⟩ := ih reached
      exact ⟨i, Nat.le_succ_of_le le, first, there⟩

end Steps

/-! ## Rounds without thresholds -/

def Entry.exchange? : Entry → Option Exchange
  | .call exchange _ _ => some exchange
  | .nested _ => none

/-- The report that a chunk is due behind so many bytes, however it is answered. -/
def dueReport (activity : Activity) (step total before sent : Nat)
    (answer : Except LinkError Unit) : List Exchange :=
  if percent before total / step < percent sent total / step then
    [.notified (Bytes.ofText (Progress.document activity sent total)) answer]
  else
    []

/-- The calls of the round of a chunk: it goes out, it is reported if it enters a step, and there
is a pause. -/
def Paced (activity : Activity) (step delay : Nat) (chunks : List Bytes) (place : Nat)
    (round : List Entry) : Prop :=
  ∃ chunk answer, chunks[place]? = some chunk ∧
    round.map Entry.exchange? =
      (.notified chunk (.ok ()) ::
        ((if EntersStep step chunks place then
          [.notified (Bytes.ofText (Progress.document activity
            (chunks.take (place + 1)).flatten.length chunks.flatten.length)) answer] else []) ++
        [.slept delay])).map some

section Pacing

variable {stream : Stream} {activity : Activity} (active : stream.activity = some activity)
  (long : stream.plan.reportProgress = true) (positive : 0 < stream.progressStep)
  (byte : stream.progressStep < 256)

include active long positive byte

/-- A threshold at the end of the step of the bytes before lets a chunk be reported exactly when
it enters a step, and is then at the end of the step of the bytes behind. -/
theorem Reported.due {before sent next : Nat} {requested last : Bool} {entries : List Entry}
    (report : Reported stream sent
      ((percent before stream.total / stream.progressStep + 1) * stream.progressStep) next requested
      entries last)
    (grown : before ≤ sent) :
    next = (percent sent stream.total / stream.progressStep + 1) * stream.progressStep ∧
      ∃ answer, entries.map Entry.exchange? =
        (dueReport activity stream.progressStep stream.total before sent answer).map some := by
  cases report with
  | silent _ early =>
    have below : ¬percent before stream.total / stream.progressStep <
        percent sent stream.total / stream.progressStep := by
      rw [← threshold_le_iff positive]
      rcases early with inactive | short | early
      · rw [active] at inactive
        cases inactive
      · rw [long] at short
        cases short
      · exact Nat.not_le.mpr early
    -- The percentage never falls, so it is in the same step as before.
    have same := Nat.le_antisymm (Nat.div_le_div_right (percent_mono grown stream.total))
      (Nat.not_lt.mp below)
    refine ⟨by rw [same], .ok (), ?_⟩
    rw [dueReport, if_neg below]
    rfl
  | told other answer _ _ named _ due =>
    rw [active] at named
    obtain rfl := Option.some.inj named
    -- The threshold moves on from the percentage that was reached, and so past steps in between.
    refine ⟨(nextThreshold_eq positive byte (percent_le _ _)).1, answer, ?_⟩
    rw [dueReport, if_pos ((threshold_le_iff positive _ _).mp due)]
    rfl

/-- Every round reports its chunk if that enters a step. -/
theorem Rounds.paced {chunks rest : List Bytes} {sent threshold : Nat} {requested last : Bool}
    {result : Except SendError Unit} {rounds : List (List Entry)} {closing : Entry}
    (whole : stream.total = chunks.flatten.length)
    (gone : Rounds stream rest sent threshold requested result rounds closing last) (place : Nat)
    (left : chunks.drop place = rest) (out : (chunks.take place).flatten.length = sent)
    (waits : threshold =
      (percent sent stream.total / stream.progressStep + 1) * stream.progressStep) :
    ∀ i round, rounds[i]? = some round →
      Paced activity stream.progressStep stream.plan.delay chunks (place + i) round := by
  -- The threshold is known before a chunk from the bytes before it, and so it is behind it.
  induction gone generalizing place with
  | finished => nofun
  | unfinished => nofun
  | cancelled => nofun
  | uncancelled => nofun
  | refused => nofun
  | @taken chunk sent taken told after rest threshold next asides result rounds closing last report
      further ih =>
    have here : chunks[place]? = some chunk := by
      rw [← List.head?_drop, left, List.head?_cons]
    have behind : chunks.drop (place + 1) = rest := by
      rw [← List.tail_drop, left, List.tail_cons]
    have grown : (chunks.take (place + 1)).flatten.length = sent + chunk.length := by
      rw [List.take_add_one, here, List.flatten_append, List.length_append, out]
      simp
    subst waits
    obtain ⟨onward, answer, reported⟩ :=
      report.due active long positive byte (Nat.le_add_right _ _)
    rintro (_ | i) round there
    · obtain rfl := Option.some.inj there
      rw [← grown, ← out, whole] at reported
      refine ⟨chunk, answer, here, ?_⟩
      rw [List.map_append, List.map_cons, reported]
      simp [Entry.exchange?, dueReport, EntersStep, percentBehind]
    · have paced := ih (place + 1) behind grown onward i round there
      rwa [Nat.add_right_comm, Nat.add_assoc] at paced

end Pacing

/-- How the chunks of a document went, in one round for each that the link took. At most one more
call is behind them: a marker, or the next chunk, which the link refused. -/
structure Reporting (activity : Activity) (step delay : Nat) (chunks : List Bytes)
    (result : Except SendError Unit) (rounds : List (List Entry)) (closing : List Entry) :
    Prop where
  paced : ∀ place round, rounds[place]? = some round →
    Paced activity step delay chunks place round
  whole : result = .ok () →
    rounds.length = chunks.length ∧ closing.map Entry.told? = [some (endMarker, .ok ())]
  closing : closing = [] ∨ ∃ bytes answer, closing.map Entry.told? = [some (bytes, answer)] ∧
    (bytes = endMarker ∨ bytes = cancelledMarker ∨ chunks[rounds.length]? = some bytes)

theorem Rounds.closed {stream : Stream} {chunks : List Bytes} {sent threshold : Nat}
    {requested last : Bool} {result : Except SendError Unit} {rounds : List (List Entry)}
    {closing : Entry}
    (gone : Rounds stream chunks sent threshold requested result rounds closing last) :
    (result = .ok () →
      rounds.length = chunks.length ∧ closing.told? = some (endMarker, .ok ())) ∧
    ∃ bytes answer, closing.told? = some (bytes, answer) ∧
      (bytes = endMarker ∨ bytes = cancelledMarker ∨ chunks[rounds.length]? = some bytes) := by
  induction gone with
  | finished => exact ⟨fun _ => ⟨rfl, rfl⟩, _, _, rfl, .inl rfl⟩
  | unfinished => exact ⟨nofun, _, _, rfl, .inl rfl⟩
  | cancelled => exact ⟨nofun, _, _, rfl, .inr (.inl rfl)⟩
  | uncancelled => exact ⟨nofun, _, _, rfl, .inr (.inl rfl)⟩
  | refused => exact ⟨nofun, _, _, rfl, .inr (.inr rfl)⟩
  | taken chunk sent taken told after report further ih =>
    obtain ⟨whole, bytes, answer, said, known⟩ := ih
    refine ⟨fun ended => ?_, bytes, answer, said, by simpa using known⟩
    obtain ⟨all, marked⟩ := whole ended
    exact ⟨congrArg Nat.succ all, marked⟩

/-- The rounds of a payload, from its first chunk on. -/
theorem Rounds.reporting {stream : Stream} {activity : Activity}
    (active : stream.activity = some activity) (long : stream.plan.reportProgress = true)
    (positive : 0 < stream.progressStep) (byte : stream.progressStep < 256) {payload : Bytes}
    (whole : stream.total = payload.length) {size : Nat} {requested last : Bool}
    {result : Except SendError Unit} {rounds : List (List Entry)} {closing : Entry}
    (gone : Rounds stream (Bytes.pieces size payload) 0 stream.progressStep requested result rounds
      closing last) :
    Reporting activity stream.progressStep stream.plan.delay (Bytes.pieces size payload) result
      rounds [closing] := by
  obtain ⟨ended, bytes, answer, said, known⟩ := gone.closed
  refine ⟨?_, fun done => ?_, .inr ⟨bytes, answer, by rw [List.map_singleton, said], known⟩⟩
  · cases payload with
    | nil =>
      -- There is no chunk, and so there is no round.
      rw [Bytes.pieces_nil] at gone
      cases gone <;> nofun
    | cons first others =>
      have some : 0 < stream.total := whole ▸ Nat.succ_pos _
      have begun : stream.progressStep =
          (percent 0 stream.total / stream.progressStep + 1) * stream.progressStep := by
        rw [percent_zero some, Nat.zero_div, Nat.zero_add, Nat.one_mul]
      intro place round there
      have paced := gone.paced active long positive byte
        (by rw [Bytes.pieces_flatten, whole]) 0 rfl rfl begun place round there
      rwa [Nat.zero_add] at paced
  · obtain ⟨all, marked⟩ := ended done
    exact ⟨all, by rw [List.map_singleton, marked]⟩

/-! ## Chunks of any size -/

/-- Either all pieces are short, or the first one is not. -/
theorem Bytes.pieces_short_or_long (limit : Nat) (positive : 0 < limit) (size : Nat)
    (bytes : Bytes) :
    (∀ chunk ∈ Bytes.pieces size bytes, chunk.length ≤ limit) ∨
      ∃ chunk rest, Bytes.pieces size bytes = chunk :: rest ∧ limit < chunk.length := by
  -- A piece is as long as its size says, or as the text, whichever is less.
  by_cases small : size ≤ limit
  · left
    intro chunk member
    rw [← Bytes.pieces_max_one] at member
    have short := Bytes.length_le_of_mem_pieces (by omega) bytes chunk member
    omega
  · by_cases few : bytes.length ≤ limit
    · left
      intro chunk member
      have inside := (List.sublist_flatten_of_mem member).length_le
      rw [Bytes.pieces_flatten] at inside
      exact Nat.le_trans inside few
    · right
      cases bytes with
      | nil => exact absurd (Nat.zero_le _) few
      | cons first others =>
        rw [Bytes.pieces]
        refine ⟨_, _, rfl, ?_⟩
        rw [List.length_cons] at few ⊢
        rw [List.length_take]
        omega

variable {W H : Type} {ports : Ports W H} (back : ports.ComeBack)

open Act

include back

/-- A chunk that is too long does not go out, and nothing is said of it. -/
theorem Ports.Within.sendChunks_writes_of_long (stream : Stream) {chunk : Bytes}
    (long : maxChunk < chunk.length) (rest : List Bytes) (sent threshold : Nat)
    (s : Station (Recorded W Entry) H) :
    Writes (sendChunks ports.journaled stream (chunk :: rest) sent threshold) s
      fun result _ entries => result ≠ .ok () ∧
        (entries = [] ∨ ∃ answer,
          entries.map Entry.told? = [some (cancelledMarker, answer)]) := by
  apply returns_step
  cases requested : s.endpoint.cancelRequested with
  | true =>
    apply (back.deliver_writes cancelledMarker _).bind
    rintro result t _ ⟨answer, rfl, ⟨-, rfl⟩ | ⟨error, -, rfl⟩⟩
    · exact writes_pure ⟨nofun, .inr ⟨answer, rfl⟩⟩
    · exact writes_pure ⟨nofun, .inr ⟨answer, rfl⟩⟩
  | false =>
    have refused : sendChunk ports.journaled chunk =
        (return .error (.tooLarge chunk.length maxChunk)) := if_pos long
    dsimp only
    rw [refused]
    exact writes_pure ⟨nofun, .inl rfl⟩

/-- Whatever size chunks have and whatever the link answers, progress is reported behind a chunk
that went out exactly when the chunk enters a step. So no two reports are made in a step or with
the same percentage, and every step but the first that a chunk ends in is reported. -/
theorem progress_reported_where_step_entered (payload : Bytes) {plan : Plan}
    (long : plan.reportProgress = true) (activity : Activity) {step : Nat} (positive : 0 < step)
    (byte : step < 256) :
    let chunks := Bytes.pieces plan.chunkSize payload
    let reached := percentBehind chunks
    (∀ s : Station (Recorded W Entry) H,
      Writes (sendChunks ports.journaled ⟨plan, payload.length, step, some activity⟩ chunks 0 step)
        s fun result _ entries => ∃ rounds closing, entries = rounds.flatten ++ closing ∧
          Reporting activity step plan.delay chunks result rounds closing) ∧
    (payload ≠ [] → reached 0 = 0) ∧
    (∀ i j, i < j → EntersStep step chunks i → EntersStep step chunks j →
      reached (i + 1) / step < reached (j + 1) / step ∧ reached (i + 1) < reached (j + 1)) ∧
    (∀ place < chunks.length, 0 < reached (place + 1) / step →
      ∃ i ≤ place, EntersStep step chunks i ∧ reached (i + 1) / step = reached (place + 1) / step) ∧
    ∀ percent ≤ 100, nextThreshold step percent = (percent / step + 1) * step ∧
      nextThreshold step percent < 256 := by
  intro chunks reached
  have joined : chunks.flatten = payload := Bytes.pieces_flatten _ _
  refine ⟨fun s => ?_, ?_, ?_, ?_, ?_⟩
  · -- No plan has chunks that are too long, but the loop over the chunks does not know.
    rcases Bytes.pieces_short_or_long maxChunk (by decide) plan.chunkSize payload with
      small | ⟨chunk, rest, first, tooLong⟩
    · apply (back.sendChunks_writes ⟨plan, payload.length, step, some activity⟩ chunks small 0 step
        s).mono
      rintro result t _ ⟨rounds, closing, rfl, gone⟩
      exact ⟨rounds, [closing], rfl, gone.reporting rfl long positive byte rfl⟩
    · have cut : chunks = chunk :: rest := first
      rw [cut]
      apply (back.sendChunks_writes_of_long _ tooLong rest 0 step s).mono
      rintro result t entries ⟨failed, said⟩
      refine ⟨[], entries, rfl, nofun, fun done => absurd done failed, ?_⟩
      rcases said with rfl | ⟨answer, told⟩
      · exact .inl rfl
      · exact .inr ⟨_, answer, told, .inr (.inl rfl)⟩
  · intro some
    exact percentBehind_zero chunks (joined ▸ some)
  · intro i j before _ enters
    exact enters.apart step chunks before
  · intro place inside started
    apply exists_enters step chunks _ place started
    apply percentBehind_zero
    intro none
    rw [joined] at none
    subst none
    simp [chunks, Bytes.pieces_nil] at inside
  · intro percent part
    exact nextThreshold_eq positive byte part

omit back

/-- Ports of a link that takes notifications of up to so many bytes, on a device with memory. -/
def boundedPorts (limit : Nat) : Ports Nat Empty :=
  { Bench.clockPorts with
    notify := fun bytes =>
      return if bytes.length ≤ limit then .ok () else .error .payloadTooLarge
    freeBytes := return 262144
    allocate := fun _ _ => return true }

theorem boundedPorts_comeBack (limit : Nat) : (boundedPorts limit).ComeBack where
  notify _ s := ⟨_, s, rfl, trivial⟩
  sleep _ _ := ⟨(), _, rfl, trivial⟩
  freeBytes s := ⟨_, s, rfl, trivial⟩
  allocate _ _ s := ⟨_, s, rfl, trivial⟩

theorem boundedPorts_keep (limit : Nat) (I : Endpoint Empty → Prop) :
    (boundedPorts limit).Keep fun s => I s.endpoint where
  notify _ _ there := there
  sleep _ _ there := there
  freeBytes _ there := there
  allocate _ _ _ there := there

/-- In steps of 30 percent, five chunks of a byte have the second, the third and the last one
reported, also over a link that takes no report. -/
theorem progress_reported_where_step_entered_unheard :
    let plan : Plan := ⟨1, 10, true, false⟩
    let payload : Bytes := [49, 50, 51, 52, 53]
    let report sent := Bytes.ofText (Progress.document .configDownload sent 5)
    let s : Station (Recorded Nat Entry) Empty := ⟨.fresh {}, { world := 0 }⟩
    let act := sendChunks (boundedPorts 20).journaled
      ⟨plan, payload.length, 30, some .configDownload⟩ (Bytes.pieces plan.chunkSize payload) 0 30
    plan.reportProgress = true ∧ 0 < 30 ∧ 30 < 256 ∧
      Writes act s fun result _ entries => result = .ok () ∧
        entries.filterMap Entry.told? =
          [([49], .ok ()), ([50], .ok ()), (report 2, .error .payloadTooLarge), ([51], .ok ()),
            (report 3, .error .payloadTooLarge), ([52], .ok ()), ([53], .ok ()),
            (report 5, .error .payloadTooLarge), (endMarker, .ok ())] ∧
        ∃ rounds closing, entries = rounds.flatten ++ closing ∧
          Reporting .configDownload 30 10 (Bytes.pieces 1 payload) (.ok ()) rounds closing := by
  intro plan payload report s act
  have long : plan.reportProgress = true := rfl
  have positive : 0 < 30 := by decide
  have byte : 30 < 256 := by decide
  obtain ⟨ended, told⟩ : (exec act s).1 = .ok (.ok ()) ∧
      (exec act s).2.world.diary.filterMap Entry.told? =
        [([49], .ok ()), ([50], .ok ()), (report 2, .error .payloadTooLarge), ([51], .ok ()),
          (report 3, .error .payloadTooLarge), ([52], .ok ()), ([53], .ok ()),
          (report 5, .error .payloadTooLarge), (endMarker, .ok ())] := by
    decide +kernel
  obtain ⟨goes, -⟩ := progress_reported_where_step_entered (boundedPorts_comeBack 20) payload long
    .configDownload positive byte
  obtain ⟨result, t, run, entries, diary, known⟩ := goes s
  have same : exec act s = (.ok result, t) := run
  rw [same] at ended told
  obtain rfl := Except.ok.inj ended
  rw [show t.world.diary = entries from diary] at told
  exact ⟨long, positive, byte, _, t, run, entries, diary, rfl, told, known⟩

/-! ## The last report -/

/-- Digits are one byte each. -/
theorem utf8ByteSize_repr_le {n digits : Nat} (positive : 0 < digits) (few : n < 10 ^ digits) :
    n.repr.utf8ByteSize ≤ digits := by
  have narrow (cs : List Char) (digits : ∀ c ∈ cs, c.isDigit = true) :
      (String.ofList cs).utf8ByteSize = cs.length := by
    induction cs with
    | nil => rfl
    | cons c cs ih =>
      rw [List.forall_mem_cons] at digits
      have value := digits.1
      simp only [Char.isDigit, Bool.and_eq_true, decide_eq_true_eq] at value
      have one : c.utf8Size = 1 :=
        Char.utf8Size_eq_one_iff.mpr (UInt32.le_trans value.2 (by decide))
      rw [String.ofList_cons, String.utf8ByteSize_append, String.utf8ByteSize_singleton, one,
        ih digits.2, List.length_cons, Nat.add_comm]
  rw [Nat.repr_eq_ofList_toDigits, narrow]
  · exact (Nat.length_toDigits_le_iff (by decide) positive).mpr few
  · exact fun c member => Nat.isDigit_of_mem_toDigits (by decide) (by decide) member

/-- There is room for counts of up to twenty digits. -/
theorem Progress.size_pieces_le (activity : Activity) {done total : Nat} (little : done < 10 ^ 20)
    (few : total < 10 ^ 20) :
    (String.join (pieces activity done total)).utf8ByteSize ≤ capacity := by
  have percents : (percent done total).repr.utf8ByteSize ≤ 3 :=
    utf8ByteSize_repr_le (by decide) (Nat.lt_of_le_of_lt (percent_le done total) (by decide))
  have counts : done.repr.utf8ByteSize ≤ 20 ∧ total.repr.utf8ByteSize ≤ 20 :=
    ⟨utf8ByteSize_repr_le (by decide) little, utf8ByteSize_repr_le (by decide) few⟩
  have names : activity.kind.utf8ByteSize + activity.counter.utf8ByteSize ≤ 36 := by
    cases activity <;> decide
  have frame : "\x7b\"type\":\"".utf8ByteSize + "\",\"progress\":".utf8ByteSize +
      ",\"".utf8ByteSize + "\":".utf8ByteSize + ",\"total_bytes\":".utf8ByteSize +
      "\x7d".utf8ByteSize = 42 := by
    decide
  simp only [pieces, Nat.toString_eq_repr, String.join_cons, String.join_nil,
    String.append_empty, String.utf8ByteSize_append, capacity]
  omega

/-- A report of such counts is not cut off. -/
theorem Progress.document_eq (activity : Activity) {done total : Nat} (little : done < 10 ^ 20)
    (few : total < 10 ^ 20) :
    Progress.document activity done total = String.join (Progress.pieces activity done total) := by
  have fits := size_pieces_le activity little few
  rw [document, Inline.write, Inline.append_fitting _ _ _ (by rwa [String.empty_append]),
    String.empty_append]

/-- The report of a response of so many bytes that is out as a whole. -/
def wholeReport (length : Nat) : String :=
  "\x7b\"type\":\"config_download_progress\",\"progress\":100,\"bytes_sent\":" ++
    toString length ++ ",\"total_bytes\":" ++ toString length ++ "\x7d"

theorem document_eq_wholeReport {length : Nat} (few : length < 10 ^ 20) :
    Progress.document .configDownload length length = wholeReport length := by
  have opening : "\x7b\"type\":\"" ++ "config_download_progress" ++ "\",\"progress\":" ++ "100" ++
      ",\"" ++ "bytes_sent" ++ "\":" =
        "\x7b\"type\":\"config_download_progress\",\"progress\":100,\"bytes_sent\":" := by
    decide +kernel
  have joined : String.join (Progress.pieces .configDownload length length) =
      "\x7b\"type\":\"" ++ "config_download_progress" ++ "\",\"progress\":" ++ "100" ++ ",\"" ++
        "bytes_sent" ++ "\":" ++ toString length ++ ",\"total_bytes\":" ++ toString length ++
        "\x7d" := by
    have hundred : toString (100 : Nat) = "100" := by decide +kernel
    rw [Progress.pieces, percent_self, hundred]
    simp only [String.join_cons, String.join_nil, String.append_empty, String.append_assoc,
      Activity.kind, Activity.counter]
  rw [Progress.document_eq _ few few, joined, opening]
  rfl

/-- The last piece of a text is not empty, so the text is not complete without it. -/
theorem percentBehind_last_lt {size : Nat} (positive : 0 < size) {payload last : Bytes}
    (ends : (Bytes.pieces size payload).getLast? = some last) :
    percentBehind (Bytes.pieces size payload) ((Bytes.pieces size payload).length - 1) < 100 := by
  have some := ((Bytes.cut_pieces positive payload).last last ends).1
  obtain ⟨front, parts⟩ := List.getLast?_eq_some_iff.mp ends
  apply percent_lt
  rw [← List.dropLast_eq_take, parts, List.dropLast_concat, List.flatten_append,
    List.length_append, List.flatten_singleton]
  exact Nat.lt_add_of_pos_right (List.length_pos_iff.mpr some)

/-- What the last round of a response consists of, when it was sent as a whole: the last chunk,
the report of the whole if that chunk enters a step, and a pause. -/
theorem Reporting.last_round {step delay : Nat} {chunks : List Bytes} {rounds : List (List Entry)}
    {closing : List Entry}
    (went : Reporting .configDownload step delay chunks (.ok ()) rounds closing)
    (full : chunks ≠ []) (few : chunks.flatten.length < 10 ^ 20) :
    ∃ chunk answer, chunks.getLast? = some chunk ∧
      rounds.getLast?.map (List.map Entry.exchange?) = some
        ((.notified chunk (.ok ()) ::
          ((if percentBehind chunks (chunks.length - 1) / step < 100 / step then
            [.notified (Bytes.ofText (wholeReport chunks.flatten.length)) answer] else []) ++
          [.slept delay])).map some) := by
  have positive : 0 < chunks.length := List.length_pos_iff.mpr full
  -- With the last chunk all bytes are out.
  have all : chunks.take (chunks.length - 1 + 1) = chunks := by
    rw [Nat.sub_add_cancel positive, List.take_length]
  have complete : percentBehind chunks (chunks.length - 1 + 1) = 100 := by
    rw [percentBehind, all, percent_self]
  have count := (went.whole rfl).1
  have inside : chunks.length - 1 < rounds.length := by omega
  have found := List.getElem?_eq_getElem inside
  obtain ⟨chunk, answer, there, calls⟩ := went.paced _ _ found
  simp only [EntersStep, complete, all, document_eq_wholeReport few] at calls
  refine ⟨chunk, answer, ?_, ?_⟩
  · rw [List.getLast?_eq_getElem?]
    exact there
  · rw [List.getLast?_eq_getElem?, count, found, Option.map_some, calls]

theorem Settings.Valid.progressStep_bounds {settings : Settings} (valid : settings.Valid) :
    0 < settings.progressStep.toNat ∧ settings.progressStep.toNat ≤ 100 := by
  have rule := settings.valid_iff.mp valid .progressStepOutside
  simp only [breaks, Bool.or_eq_false_iff, decide_eq_false_iff_not] at rule
  omega

section Sending

variable {settings : Settings} {document : Document} {result : Except SendError Unit}
  {payload : Bytes}

/-- The cap on documents and the margin behind them are words, so what is sent is no longer than
two of them can say. -/
theorem Sent.few {activity : Option Activity}
    (sent : Sent settings document activity result payload) :
    payload.length < 10 ^ 20 := by
  have short := sent.short
  have cap := settings.maxResponse.toNat_lt
  have margin := settings.responseMargin.toNat_lt
  omega

theorem Sent.reporting {activity : Activity}
    (sent : Sent settings document (some activity) result payload)
    (valid : settings.Valid) (long : settings.mediumPayload.toNat < payload.length) :
    Reporting activity settings.progressStep.toNat (settings.chunkDelay payload.length)
      (Bytes.pieces sent.stream.plan.chunkSize payload) result sent.rounds [sent.closing] := by
  have bounds := valid.progressStep_bounds
  have step : sent.stream.progressStep = settings.progressStep.toNat :=
    sent.stepped.trans (Nat.max_eq_left bounds.1)
  have reports : sent.stream.plan.reportProgress = true := by
    rw [sent.planned]
    exact decide_eq_true long
  have delay : sent.stream.plan.delay = settings.chunkDelay payload.length := by
    rw [sent.planned]
    rfl
  have went := sent.gone.reporting sent.named reports (by omega) (by omega) sent.whole
  rwa [step, delay] at went

end Sending

/-- A response that was sent is completed with a report of the whole exactly when its last chunk
enters a step, as it does wherever 100 is a multiple of the step. -/
theorem whole_response_reported_iff_step_entered {ports : Ports W H} (back : ports.ComeBack)
    {settings : Settings} (valid : settings.Valid)
    (steady : ports.Keep fun s => s.endpoint.settings = settings) (document : Document)
    {s : Station (Recorded W Entry) H} (same : s.endpoint.settings = settings) :
    Writes (sendResponse ports.journaled document) s fun result _ entries => result = .ok () →
      ∃ payload, document.written = some payload ∧
        (settings.mediumPayload.toNat < payload.length →
          ∃ (size : Nat) (calls : List Entry) (rounds : List (List Entry))
            (closing busy : List Entry) (chunk : Bytes) (answer : Except LinkError Unit),
            let chunks := Bytes.pieces size payload
            let step := settings.progressStep.toNat
            let delay := settings.chunkDelay payload.length
            let before := percentBehind chunks (chunks.length - 1)
            0 < size ∧ entries = calls ++ rounds.flatten ++ closing ++ busy ∧
              calls.filterMap Entry.told? = [] ∧
              Reporting .configDownload step delay chunks (.ok ()) rounds closing ∧
              (busy = [] ∨
                ∃ first last, Entry.Gives "Transmission busy" "busy" first busy last) ∧
              chunks.getLast? = some chunk ∧
              rounds.getLast?.map (List.map Entry.exchange?) = some
                ((.notified chunk (.ok ()) ::
                  ((if before / step < 100 / step then
                    [.notified (Bytes.ofText (wholeReport payload.length)) answer] else []) ++
                  [.slept delay])).map some) ∧
              (step ∣ 100 → before / step < 100 / step)) := by
  cases sending : s.endpoint.sending with
  | true => exact ⟨_, _, exec_send_of_held _ _ _ sending, [], by simp, nofun⟩
  | false =>
    apply (back.send_writes sending
      (back.transmit_rounds steady document (some .configDownload) (s := s.locked) same)).mono
    rintro result u _ ⟨t, told, busy, rfl, known, given, unasked⟩ done
    rcases known with ⟨error, _, rfl, -⟩ | ⟨payload, sent, rfl, -⟩
    · cases done
    · subst done
      refine ⟨payload, sent.written, fun long => ?_⟩
      have went := sent.reporting valid long
      have size : 0 < sent.stream.plan.chunkSize := by
        rw [sent.planned]
        exact (valid.plan_chunkSize_bounds _ _ _).1
      -- A response above a tier has bytes, and so it has chunks.
      have joined := Bytes.pieces_flatten sent.stream.plan.chunkSize payload
      have full : Bytes.pieces sent.stream.plan.chunkSize payload ≠ [] := by
        intro none
        rw [none, List.flatten_nil] at joined
        rw [← joined] at long
        exact Nat.not_lt_zero _ long
      obtain ⟨chunk, answer, ends, last⟩ := went.last_round full (by rw [joined]; exact sent.few)
      have short := percentBehind_last_lt size ends
      rw [joined] at last
      refine ⟨_, sent.opening, sent.rounds, [sent.closing], busy, chunk, answer, size, rfl,
        sent.silent_opening, went, ?_, ends, last,
        fun whole => Nat.div_lt_div_of_lt_of_dvd whole short⟩
      by_cases owed : t.endpoint.busyOwed = true
      · exact .inr ⟨_, _, given owed⟩
      · exact .inl (unasked owed).1

/-- In steps of 50 percent, a response of three chunks ends with a report of the whole. -/
theorem whole_response_reported_of_halves :
    let settings : Settings := { mediumPayload := 10, progressStep := 50 }
    let s : Station (Recorded Nat Entry) Empty := ⟨.fresh settings, { world := 0 }⟩
    let payload : Bytes := List.replicate 60 97
    settings.Valid ∧ s.endpoint.settings = settings ∧
      (Document.steady payload).written = some payload ∧
      settings.mediumPayload.toNat < payload.length ∧ settings.progressStep.toNat ∣ 100 ∧
      Writes (sendResponse (boundedPorts 512).journaled (Document.steady payload)) s
        fun result _ entries => result = .ok () ∧
          ∃ calls rounds closing busy chunk answer,
            entries = calls ++ List.flatten rounds ++ closing ++ busy ∧
            rounds.getLast?.map (List.map Entry.exchange?) =
              some [some (.notified chunk (.ok ())),
                some (.notified (Bytes.ofText (wholeReport 60)) answer), some (.slept 20)] := by
  intro settings s payload
  have valid : settings.Valid := by decide
  have whole : settings.progressStep.toNat ∣ 100 := by decide
  have long : settings.mediumPayload.toNat < payload.length := by decide
  have ended : (exec (sendResponse (boundedPorts 512).journaled (Document.steady payload)) s).1 =
      .ok (.ok ()) := by
    decide +kernel
  obtain ⟨result, t, run, entries, diary, known⟩ :=
    whole_response_reported_iff_step_entered (boundedPorts_comeBack 512) valid
      (boundedPorts_keep 512 fun endpoint => endpoint.settings = settings)
      (Document.steady payload) (s := s) rfl
  rw [run] at ended
  obtain rfl := Except.ok.inj ended
  obtain ⟨other, written, completed⟩ := known rfl
  obtain rfl : payload = other := Option.some.inj written
  obtain ⟨size, calls, rounds, closing, busy, chunk, answer, -, parts, -, -, -, -, last, entered⟩ :=
    completed long
  rw [if_pos (entered whole)] at last
  exact ⟨valid, rfl, rfl, long, whole, .ok (), t, run, entries, diary, rfl, calls, rounds, closing,
    busy, chunk, answer, parts, last⟩

/-- In steps of 60 percent, what is left behind the first step is too short for another one: the
second of three chunks is reported, and the last one, with which the response is complete, is
not. -/
theorem whole_response_unreported_of_sixty_percent :
    let settings : Settings := { mediumPayload := 10, progressStep := 60 }
    let s : Station (Recorded Nat Entry) Empty := ⟨.fresh settings, { world := 0 }⟩
    let payload : Bytes := List.replicate 60 97
    let chunk : Bytes := List.replicate 20 97
    let report := Bytes.ofText (Progress.document .configDownload 40 60)
    settings.Valid ∧ settings.mediumPayload.toNat < payload.length ∧
      Writes (sendResponse (boundedPorts 512).journaled (Document.steady payload)) s
        fun result _ entries => result = .ok () ∧
          entries.filterMap Entry.told? =
            [(chunk, .ok ()), (chunk, .ok ()), (report, .ok ()), (chunk, .ok ()),
              (endMarker, .ok ())] ∧
          ∀ answer, (Bytes.ofText (wholeReport 60), answer) ∉ entries.filterMap Entry.told? := by
  intro settings s payload chunk report
  let act := sendResponse (boundedPorts 512).journaled (Document.steady payload)
  obtain ⟨ended, told, other⟩ : (exec act s).1 = .ok (.ok ()) ∧
      (exec act s).2.world.diary.filterMap Entry.told? =
        [(chunk, .ok ()), (chunk, .ok ()), (report, .ok ()), (chunk, .ok ()),
          (endMarker, .ok ())] ∧
      Bytes.ofText (wholeReport 60) ∉ [chunk, chunk, report, chunk, endMarker] := by
    decide +kernel
  refine ⟨by decide, by decide, ?_⟩
  cases run : exec act s with
  | mk result t =>
    rw [run] at ended told
    obtain rfl := ended
    refine ⟨.ok (), t, run, t.world.diary, rfl, rfl, told, fun answer member => ?_⟩
    rw [told] at member
    exact other (List.mem_map_of_mem (f := Prod.fst) member)

end CommandLink
