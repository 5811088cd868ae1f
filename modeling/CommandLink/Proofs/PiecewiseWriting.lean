import CommandLink.Bench.Memory
import CommandLink.Proofs.Capacity
import CommandLink.Proofs.FaultReports
import CommandLink.Proofs.ResponseCap
import Mathlib.Data.List.Infix

/-!
# Writing in pieces

A serializer hands over its text in pieces, of whatever sizes and some of them empty. However a
text is cut, the block that the pieces are written into holds the same in the end, namely as much
of the text as there is room for, and the writing fails at the piece that goes beyond.

So a block that is as large as the text was when it was measured has room for it, without any
margin, and a document that is the same in both passes is never refused for lack of room.
-/

namespace CommandLink

open Bench

namespace Block

/-- The block with as much of a text behind what it holds as it has room for. -/
def plus (block : Block) (text : Bytes) : Block :=
  { block with written := block.written ++ text.take block.room }

/-- Write pieces one after the other, up to the first that is not taken whole. -/
def writePieces : List Bytes → Block → Bool × Block
  | [], block => (true, block)
  | piece :: rest, block =>
    match block.writeAll piece with
    | (true, after) => writePieces rest after
    | (false, full) => (false, full)

theorem plus_nil (block : Block) : block.plus [] = block := by
  simp [plus]

theorem room_plus (block : Block) (text : Bytes) :
    (block.plus text).room = block.room - text.length := by
  simp only [room, length, plus, List.length_append, List.length_take]
  omega

theorem plus_plus (block : Block) (text more : Bytes) :
    (block.plus text).plus more = block.plus (text ++ more) := by
  have left := room_plus block text
  unfold plus at left ⊢
  rw [Block.mk.injEq, left, List.append_assoc, List.take_append]
  exact ⟨rfl, rfl⟩

theorem plus_of_full {block : Block} (full : block.room = 0) (text : Bytes) :
    block.plus text = block := by
  rw [plus, full, List.take_zero, List.append_nil]

/-! ## One piece -/

theorem write?_of_full {block : Block} {bytes : Bytes} (full : block.room = 0)
    (some : bytes ≠ []) : block.write? bytes = none := by
  simp only [write?, full, Nat.min_zero]
  exact if_pos ⟨trivial, some⟩

/-- A write that is too long for the block takes what fits. -/
theorem write?_of_short {block : Block} {bytes : Bytes} (short : block.room < bytes.length)
    (room : block.room ≠ 0) : block.write? bytes = some (block.room, block.plus bytes) := by
  have taken : min bytes.length block.room = block.room := by omega
  simp only [write?, taken, plus]
  exact if_neg fun none => room none.1

/-- It fails where the block is full, and is not taken back. -/
theorem writeAll_of_short {block : Block} {bytes : Bytes} (short : block.room < bytes.length) :
    block.writeAll bytes = (false, block.plus bytes) := by
  have some : bytes ≠ [] := by
    rintro rfl
    exact Nat.not_lt_zero _ short
  by_cases full : block.room = 0
  · rw [writeAll]
    split
    next => rw [plus_of_full full]
    next accepted =>
      rw [write?_of_full full some] at accepted
      cases accepted
  · have partly := write?_of_short short full
    rw [writeAll]
    split
    next refused =>
      rw [partly] at refused
      cases refused
    next accepted =>
      rw [partly] at accepted
      obtain ⟨rfl, rfl⟩ := Prod.mk.inj (Option.some.inj accepted)
      rw [if_neg (by omega)]
      -- The write that took a part has filled the block, and the next one finds no room.
      have now : (block.plus bytes).room = 0 := by
        rw [room_plus]
        omega
      have left : bytes.drop block.room ≠ [] := by
        rw [Ne, List.drop_eq_nil_iff]
        omega
      rw [writeAll]
      split
      next => rfl
      next more =>
        rw [write?_of_full now left] at more
        cases more

/-- Whatever is written, the block takes what it has room for, and fails unless that is all. -/
theorem writeAll_eq (bytes : Bytes) (block : Block) :
    block.writeAll bytes = (decide (bytes.length ≤ block.room), block.plus bytes) := by
  by_cases fits : bytes.length ≤ block.room
  · rw [writeAll_of_room fits, decide_eq_true fits, plus, List.take_of_length_le fits]
  · rw [writeAll_of_short (by omega), decide_eq_false fits]

/-! ## All pieces -/

/-- It makes no difference how a text is cut. -/
theorem writePieces_eq (pieces : List Bytes) (block : Block) :
    block.writePieces pieces = block.writeAll pieces.flatten := by
  induction pieces generalizing block with
  | nil => simp [writePieces, writeAll_eq, plus_nil]
  | cons piece rest ih =>
    simp only [writePieces, writeAll_eq, List.flatten_cons, List.length_append]
    by_cases fits : piece.length ≤ block.room
    · rw [decide_eq_true fits]
      simp only [ih, writeAll_eq, room_plus, plus_plus]
      congr 2
      rw [eq_iff_iff]
      omega
    · rw [decide_eq_false fits, decide_eq_false (by omega)]
      -- Nothing of the pieces behind would have been taken anyway.
      have full : (block.plus piece).room = 0 := by
        rw [room_plus]
        omega
      rw [← plus_plus, plus_of_full full]

/-- What each write finds and leaves when all pieces are tried, also behind one that failed: it
succeeds when the text up to its end fits, or when it is a write of nothing. -/
theorem runBlock_writeAll (pieces : List Bytes) (block : Block) (place : Nat) :
    (runBlock (pieces.map .writeAll) block)[place]? = pieces[place]?.map fun piece =>
      let text := (pieces.take (place + 1)).flatten
      (if piece = [] ∨ text.length ≤ block.room then .done else .full, block.plus text) := by
  induction pieces generalizing block place with
  | nil => rfl
  | cons first rest ih =>
    have step : BlockStep.run (.writeAll first) block =
        (if first.length ≤ block.room then .done else .full, block.plus first) := by
      rw [BlockStep.run, writeAll_eq]
      by_cases fits : first.length ≤ block.room <;> simp [fits]
    rw [List.map_cons, runBlock, step]
    cases place with
    | zero =>
      have same : (first = [] ∨ first.length ≤ block.room) ↔ first.length ≤ block.room := by
        refine or_iff_right_of_imp ?_
        rintro rfl
        exact Nat.zero_le _
      simp [same]
    | succ place =>
      rw [List.getElem?_cons_succ, List.getElem?_cons_succ, ih]
      refine Option.map_congr fun piece found => ?_
      have last : (rest.take (place + 1)).flatten = (rest.take place).flatten ++ piece := by
        rw [List.take_add_one, found, List.flatten_append]
        simp
      have reach :
          (piece = [] ∨ (rest.take (place + 1)).flatten.length ≤ block.room - first.length) ↔
          (piece = [] ∨ first.length + (rest.take (place + 1)).flatten.length ≤ block.room) := by
        refine or_congr_right' fun some => ?_
        -- A piece of at least one byte needs room, so nothing before it went beyond.
        have positive := List.length_pos_iff.mpr some
        rw [last, List.length_append]
        omega
      simp only [List.take_succ_cons, List.flatten_cons, plus_plus, room_plus, List.length_append,
        reach]

/-- A write succeeds when the text up to its end fits. -/
theorem done_of_fits {pieces : List Bytes} {block : Block} {place : Nat}
    {entry : BlockResult × Block}
    (found : (runBlock (pieces.map .writeAll) block)[place]? = some entry)
    (fits : (pieces.take (place + 1)).flatten.length ≤ block.room) : entry.1 = .done := by
  rw [runBlock_writeAll, Option.map_eq_some_iff] at found
  obtain ⟨piece, -, rfl⟩ := found
  exact if_pos (.inr fits)

/-- The write that goes beyond fails, and leaves the block full. -/
theorem full_of_beyond {before behind : List Bytes} {piece : Bytes} {capacity : Nat}
    (within : before.flatten.length ≤ capacity)
    (beyond : capacity < before.flatten.length + piece.length) :
    ∃ full : Block, (runBlock ((before ++ piece :: behind).map .writeAll)
      { capacity })[before.length]? = some (.full, full) ∧ full.length = capacity := by
  have found : (before ++ piece :: behind)[before.length]? = some piece := by simp
  have here : (before ++ piece :: behind).take (before.length + 1) = before ++ [piece] := by
    rw [List.take_append, List.take_of_length_le (Nat.le_succ _), Nat.add_sub_cancel_left]
    rfl
  have text : (before ++ [piece]).flatten.length = before.flatten.length + piece.length := by simp
  have some : piece ≠ [] := by
    rintro rfl
    simp only [List.length_nil] at beyond
    omega
  have fails : ¬(piece = [] ∨ (before ++ [piece]).flatten.length ≤ capacity) := by
    rw [text]
    exact not_or.mpr ⟨some, Nat.not_le.mpr beyond⟩
  refine ⟨⟨capacity, (before ++ [piece]).flatten.take capacity⟩, ?_, ?_⟩
  · rw [runBlock_writeAll, found, here]
    simp only [Option.map_some]
    exact congrArg Option.some (Prod.ext (if_neg fails) rfl)
  · rw [Block.length, List.length_take, text]
    omega

/-- A text that is longer than some limit goes beyond it in one of its pieces. -/
theorem exists_crossing {limit : Nat} {pieces : List Bytes} (long : limit < pieces.flatten.length) :
    ∃ before piece behind, pieces = before ++ piece :: behind ∧ before.flatten.length ≤ limit ∧
      limit < before.flatten.length + piece.length := by
  induction pieces generalizing limit with
  | nil => exact absurd long (Nat.not_lt_zero _)
  | cons first rest ih =>
    by_cases here : limit < first.length
    · exact ⟨[], first, rest, rfl, Nat.zero_le _, by simpa using here⟩
    · rw [List.flatten_cons, List.length_append] at long
      obtain ⟨before, piece, behind, rfl, within, beyond⟩ := @ih (limit - first.length) (by omega)
      refine ⟨first :: before, piece, behind, rfl, ?_, ?_⟩
      · rw [List.flatten_cons, List.length_append]
        omega
      · rw [List.flatten_cons, List.length_append]
        omega

end Block

/-! ## Documents -/

open Act

variable {W H : Type}

/-- A document whose two passes yield these pieces. -/
def Document.ofPasses (first second : List Bytes) : Document :=
  ⟨some first.flatten, some second.flatten⟩

/-- Written in pieces or at once, a document fills a block in the same way. -/
theorem Document.fill_ofPasses (first second : List Bytes) (block : Block) :
    (Document.ofPasses first second).fill block =
      match block.writePieces second with
      | (true, full) => .ok full.written
      | (false, _) => .error .serialize := by
  rw [Block.writePieces_eq]
  rfl

theorem Document.ofPasses_of_same {first second : List Bytes}
    (same : first.flatten = second.flatten) :
    Document.ofPasses first second = .steady second.flatten := by
  rw [Document.ofPasses, same, Document.steady]

/-- Whatever a procedure does, and whether it comes back or not, it may have done anything. -/
theorem Act.upholds_any {α : Type} (act : Act W H α) :
    Upholds (fun _ => True) act fun _ => True :=
  fun _ _ => ⟨trivial, fun _ _ => trivial⟩

section Transmit

variable (ports : Ports W H)

/-- A block that is granted is as large as was asked for, and empty. -/
theorem allocate_upholds (size : Nat) :
    Upholds (fun _ => True) (allocate ports size) fun block =>
      ∀ granted ∈ block, granted = { capacity := size } := by
  refine (upholds_any _).bind fun primary _ => ?_
  cases primary with
  | true => exact upholds_pure (by rintro _ ⟨⟩; rfl)
  | false =>
    refine (upholds_any _).bind fun secondary _ => ?_
    cases secondary with
    | true => exact (upholds_any _).bind fun _ _ => upholds_pure (by rintro _ ⟨⟩; rfl)
    | false => exact upholds_pure nofun

theorem refuse_upholds {error : SendError} (other : error ≠ .serialize) (text : Bytes)
    (message kind : String) :
    Upholds (fun _ => True) (refuse ports error message kind : Act W H (Except SendError Bytes))
      fun prepared => prepared = .ok text ∨ ∃ other, prepared = .error other ∧ other ≠ .serialize :=
  (upholds_any _).bind fun _ _ => upholds_pure (.inr ⟨error, rfl, other⟩)

/-- A document that is the same in both passes has room in any block it is given. -/
theorem prepare_upholds (text : Bytes) :
    Upholds (fun _ => True) (prepare ports (.steady text)) fun prepared =>
      prepared = .ok text ∨ ∃ error, prepared = .error error ∧ error ≠ .serialize := by
  refine upholds_endpoint fun s _ => ?_
  have measured : (Document.steady text).serializedLength = .ok text.length := rfl
  rw [measured]
  dsimp only
  split
  next =>
    refine refuse_upholds ports ?_ text _ _
    exact nofun
  next =>
    refine (upholds_any _).bind fun free _ => ?_
    split
    next =>
      refine refuse_upholds ports ?_ text _ _
      exact nofun
    next =>
      refine (allocate_upholds ports _).bind fun block granted => ?_
      cases block with
      | none =>
        refine refuse_upholds ports ?_ text _ _
        exact nofun
      | some block =>
        -- The margin may be zero: the block is never smaller than the text.
        rw [granted block rfl]
        exact upholds_pure (.inl (Document.fill_of_room (Nat.le_add_right _ _)))

theorem deliver_upholds (bytes : Bytes) :
    Upholds (fun _ => True) (deliver ports bytes) (· ≠ .error .serialize) := by
  refine (upholds_any _).bind fun answer _ => ?_
  cases answer with
  | ok => exact upholds_pure nofun
  | error error => exact upholds_pure nofun

theorem sendChunk_upholds (chunk : Bytes) :
    Upholds (fun _ => True) (sendChunk ports chunk) (· ≠ .error .serialize) := by
  unfold sendChunk
  split
  next => exact upholds_pure nofun
  next =>
    refine (deliver_upholds ports chunk).bind fun answer other => ?_
    cases answer with
    | ok => exact (upholds_any _).bind fun _ _ => upholds_pure nofun
    | error error => exact upholds_pure other

/-- Behind the checks nothing is serialized any more. -/
theorem sendChunks_upholds (stream : Stream) (chunks : List Bytes) (sent threshold : Nat) :
    Upholds (fun _ => True) (sendChunks ports stream chunks sent threshold)
      (· ≠ .error .serialize) := by
  induction chunks generalizing sent threshold with
  | nil => exact deliver_upholds ports endMarker
  | cons chunk rest ih =>
    refine (upholds_any _).bind fun cancelled _ => ?_
    cases cancelled with
    | true =>
      refine (deliver_upholds ports cancelledMarker).bind fun answer other => ?_
      cases answer with
      | ok => exact upholds_pure nofun
      | error error => exact upholds_pure other
    | false =>
      refine (sendChunk_upholds ports chunk).bind fun answer other => ?_
      cases answer with
      | error error => exact upholds_pure other
      | ok =>
        refine (upholds_any _).bind fun threshold _ => ?_
        exact (upholds_any _).bind fun _ _ => ih _ threshold

theorem transmit_upholds (text : Bytes) (activity : Option Activity) :
    Upholds (fun _ => True) (transmit ports (.steady text) activity) (· ≠ .error .serialize) := by
  refine (prepare_upholds ports text).bind fun prepared known => ?_
  rcases known with rfl | ⟨error, rfl, other⟩
  · refine (upholds_any _).bind fun unit _ => ?_
    refine (upholds_any _).bind fun free _ => ?_
    refine upholds_endpoint fun s _ => ?_
    dsimp only
    split
    next => exact (upholds_any _).bind fun _ _ => sendChunks_upholds ports _ _ _ _
    next => exact sendChunks_upholds ports _ _ _ _
  · exact upholds_pure fun same => other (Except.error.inj same)

end Transmit

/-- What is told to the end is the whole document. -/
theorem Telling.contents_of_ok {activity : Option Activity} {chunks : List Bytes}
    {us : List Utterance} (telling : Telling activity chunks (.ok ()) us) :
    contents us = chunks.flatten := by
  generalize ended : (.ok () : Except SendError Unit) = result at telling
  induction telling with
  | finished => rfl
  | unfinished => cases ended
  | cancelled => cases ended
  | uncancelled => cases ended
  | refused => cases ended
  | taken chunk progress further ih =>
    rw [List.cons_append, contents_content, contents_append, contents_of_progress progress,
      List.nil_append, ih ended, List.flatten_cons]

theorem Course.contents_of_ok {limit : Nat} {text : Bytes} {activity : Option Activity}
    {us : List Utterance} (course : Course limit (.steady text) activity (.ok ()) us) :
    contents us = text := by
  cases course with
  | told written positive small telling =>
    obtain rfl := Option.some.inj written
    rw [telling.contents_of_ok, Bytes.pieces_flatten]

/-! ## The theorem -/

/-- However a text is cut into pieces, a block that they are written into holds as much of its
beginning in the end as it has room for. Each write succeeds when the whole text fits; otherwise
those in front of the piece that goes beyond succeed, and that piece fails and leaves the block
full. So a document that yields the same text in both passes, cut in whatever way, is not refused
as unserializable, however small the margin, and what is streamed of it is the text that was
measured. -/
theorem measured_text_fits (pieces : List Bytes) (capacity : Nat) :
    let text := pieces.flatten
    let entries : List (BlockResult × Block) := runBlock (pieces.map .writeAll) { capacity }
    (∀ (place : Nat) (piece : Bytes), pieces[place]? = some piece →
      ∃ result, entries[place]? =
        some (result, ⟨capacity, (pieces.take (place + 1)).flatten.take capacity⟩)) ∧
    (text.length ≤ capacity → ∀ entry ∈ entries, entry.1 = .done) ∧
    (capacity < text.length → ∃ before piece behind, pieces = before ++ piece :: behind ∧
      before.flatten.length ≤ capacity ∧ capacity < before.flatten.length + piece.length ∧
      (∀ entry ∈ entries.take before.length, entry.1 = .done) ∧
      ∃ full : Block, entries[before.length]? = some (.full, full) ∧ full.length = capacity) ∧
    Block.writePieces pieces { capacity } =
      (decide (text.length ≤ capacity),
        ⟨capacity, text.take (min capacity text.length)⟩) ∧
    ∀ (ports : Ports W H) (measuring : List Bytes) (activity : Option Activity),
      measuring.flatten = text →
      (∀ block : Block, (Document.ofPasses measuring pieces).fill block =
        match block.writePieces pieces with
        | (true, full) => .ok full.written
        | (false, _) => .error .serialize) ∧
      (∀ s, (exec (transmit ports (.ofPasses measuring pieces) activity) s).1 ≠
        .ok (.error .serialize)) ∧
      (∀ s payload t, exec (prepare ports (.ofPasses measuring pieces)) s =
        (.ok (.ok payload), t) → payload = text) ∧
      (ports.ComeBack → ∀ s : Station (Recorded W Call) H,
        Returns (transmit ports.logged (.ofPasses measuring pieces) activity) s fun result t =>
          ∃ us, t.world.diary.filterMap Call.told? =
              s.world.diary.filterMap Call.told? ++ us.map Utterance.told ∧
            (result = .ok () → contents us = text)) := by
  intro text entries
  refine ⟨?_, ?_, ?_, ?_, ?_⟩
  · intro place piece found
    exact ⟨_, by rw [Block.runBlock_writeAll, found]; rfl⟩
  · intro fits one member
    obtain ⟨place, found⟩ := List.mem_iff_getElem?.mp member
    have short := (List.take_prefix (place + 1) pieces).flatten.length_le
    exact Block.done_of_fits found (Nat.le_trans short fits)
  · intro long
    obtain ⟨before, piece, behind, cut, within, beyond⟩ := Block.exists_crossing long
    refine ⟨before, piece, behind, cut, within, beyond, ?_, ?_⟩
    · intro one member
      obtain ⟨place, found⟩ := List.mem_iff_getElem?.mp member
      rw [List.getElem?_take, Option.ite_none_right_eq_some] at found
      obtain ⟨early, found⟩ := found
      -- What is tried up to here is a part of what stands in front of the piece.
      have part : pieces.take (place + 1) <+: before := by
        rw [cut, List.take_append_of_le_length early]
        exact List.take_prefix _ _
      exact Block.done_of_fits found (Nat.le_trans part.flatten.length_le within)
    · subst cut
      exact Block.full_of_beyond within beyond
  · have shorter : text.take (min capacity text.length) = text.take capacity := by
      rw [List.take_eq_take_iff]
      omega
    rw [Block.writePieces_eq, Block.writeAll_eq, shorter]
    rfl
  · intro ports measuring activity same
    refine ⟨Document.fill_ofPasses measuring pieces, ?_⟩
    rw [Document.ofPasses_of_same same]
    refine ⟨fun s => ?_, fun s payload t run => ?_, fun back s => ?_⟩
    · have known := (transmit_upholds ports text activity s trivial).2
      exact fun failed => known _ failed rfl
    · have known := (prepare_upholds ports text s trivial).2 (.ok payload) (by rw [run])
      rcases known with same | ⟨error, failed, -⟩
      · exact Except.ok.inj same
      · cases failed
    · have told := bookless_true.transmit_tells back (fitting_maxChunk ports _ s.bare)
        (Document.steady text) activity (s := s) trivial
      apply Returns.mono told
      rintro result t ⟨us, spoken, course⟩
      refine ⟨us, spoken.told, ?_⟩
      rintro rfl
      exact course.contents_of_ok

/-- Five bytes in three pieces do not fit into four, and the last piece fails. Without a margin
they go out all the same, in whatever pieces they were measured. -/
theorem measured_text_fits_without_margin :
    let pieces : List Bytes := [[49, 50], [], [51, 52, 53]]
    let measuring : List Bytes := [[49], [50, 51, 52, 53]]
    let entries : List (BlockResult × Block) := runBlock (pieces.map .writeAll) { capacity := 4 }
    let s : Station (Recorded Nat Call) Empty :=
      ⟨.fresh { responseMargin := 0 }, { world := 0 }⟩
    4 < pieces.flatten.length ∧
      (∃ before piece behind, pieces = before ++ piece :: behind ∧
        ∃ full : Block, entries[before.length]? = some (.full, full) ∧ full.length = 4) ∧
      measuring.flatten = pieces.flatten ∧ openPorts.ComeBack ∧
      Returns (transmit openPorts.logged (.ofPasses measuring pieces) none) s fun result t =>
        result = .ok () ∧ ∃ us, t.world.diary.filterMap Call.told? = us.map Utterance.told ∧
          contents us = [49, 50, 51, 52, 53] := by
  intro pieces measuring entries s
  have long : 4 < pieces.flatten.length := by decide
  have same : measuring.flatten = pieces.flatten := rfl
  obtain ⟨-, -, crossing, -, documents⟩ := measured_text_fits (W := Nat) (H := Empty) pieces 4
  obtain ⟨before, piece, behind, cut, -, -, -, full⟩ := crossing long
  obtain ⟨-, -, -, told⟩ := documents openPorts measuring none same
  have ended : (exec (transmit openPorts.logged (.ofPasses measuring pieces) none) s).1 =
      .ok (.ok ()) := by decide +kernel
  refine ⟨long, ⟨before, piece, behind, cut, full⟩, same, openPorts_comeBack, ?_⟩
  obtain ⟨result, t, run, us, said, whole⟩ := told openPorts_comeBack s
  rw [run] at ended
  have finished := Except.ok.inj ended
  exact ⟨result, t, run, finished, us, said, whole finished⟩

end CommandLink
