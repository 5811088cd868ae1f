import CommandLink.Bench.Inbound
import CommandLink.Proofs.Calls

/-!
# What goes out when a document is sent

A document goes out in pieces and an end marker, and progress documents may stand in
between. What the notifications of a stretch carry (`Carries`) and what else is known when
the stretch went well (`Carried`) add up over the chunks, so that the loop over the chunks
is described by an induction on them.
-/

namespace CommandLink

/-! ## Pieces -/

/-- Consecutive pieces of exactly `size` bytes, of which only the last may be shorter. -/
structure Bytes.Cut (size : Nat) (bytes : Bytes) (pieces : List Bytes) : Prop where
  whole : pieces.flatten = bytes
  full : ∀ piece ∈ pieces.dropLast, piece.length = size
  last : ∀ piece ∈ pieces.getLast?, piece ≠ [] ∧ piece.length ≤ size

theorem Bytes.cut_pieces {size : Nat} (positive : 0 < size) (bytes : Bytes) :
    Bytes.Cut size bytes (Bytes.pieces size bytes) := by
  fun_induction Bytes.pieces size bytes with
  | case1 => exact ⟨rfl, by simp, by simp⟩
  | case2 first rest ih =>
    obtain ⟨whole, full, last⟩ := ih
    have length : (first :: rest.take (size - 1)).length ≤ size := by simp; omega
    refine ⟨by simp [whole, List.take_append_drop], ?_, ?_⟩
    · cases more : Bytes.pieces size (rest.drop (size - 1)) with
      | nil => simp
      | cons second others =>
        -- More pieces follow only what filled this one.
        have left : rest.drop (size - 1) ≠ [] := by
          intro none
          simp [none, Bytes.pieces_nil] at more
        have filled : size - 1 < rest.length := List.length_lt_of_drop_ne_nil left
        rw [more] at full
        intro piece member
        rw [List.dropLast_cons_of_ne_nil (List.cons_ne_nil _ _)] at member
        rcases List.mem_cons.mp member with rfl | behind
        · simp
          omega
        · exact full piece behind
    · cases more : Bytes.pieces size (rest.drop (size - 1)) with
      | nil =>
        intro piece member
        simp at member
        rw [← member]
        exact ⟨List.cons_ne_nil _ _, length⟩
      | cons second others =>
        rw [more] at last
        rw [List.getLast?_cons_cons]
        exact last

theorem Bytes.length_le_of_mem_pieces {size : Nat} (positive : 0 < size) (bytes : Bytes) :
    ∀ piece ∈ Bytes.pieces size bytes, piece.length ≤ size := by
  fun_induction Bytes.pieces size bytes with
  | case1 => simp
  | case2 first rest ih =>
    intro piece member
    rcases List.mem_cons.mp member with rfl | behind
    · simp
      omega
    · exact ih piece behind

/-- A block takes what it has room for. -/
theorem Block.writeAll_of_room {bytes : Bytes} {block : Block} (room : bytes.length ≤ block.room) :
    block.writeAll bytes = (true, { block with written := block.written ++ bytes }) := by
  have taken : block.write? bytes =
      some (bytes.length, { block with written := block.written ++ bytes }) := by
    have progress : ¬(bytes.length = 0 ∧ bytes ≠ []) := by
      rintro ⟨empty, some⟩
      exact some (List.length_eq_zero_iff.mp empty)
    simp only [write?, Nat.min_eq_left room, if_neg progress, List.take_length]
  rw [writeAll]
  split
  next refused => simp [taken] at refused
  next accepted =>
    rw [taken] at accepted
    obtain ⟨rfl, rfl⟩ := Prod.mk.inj (Option.some.inj accepted)
    exact if_pos (Nat.le_refl _)

theorem Document.fill_of_room {text : Bytes} {size : Nat} (room : text.length ≤ size) :
    (Document.steady text).fill { capacity := size } = .ok text := by
  have whole := @Block.writeAll_of_room text { capacity := size } room
  simp only [fill, steady, whole, List.nil_append]

/-! ## Notices -/

/-- A notification while a document goes out. -/
inductive Notice where
  | content (bytes : Bytes)
  | progress (activity : Activity) (done total : Nat)

namespace Notice

def bytes : Notice → Bytes
  | .content bytes => bytes
  | .progress activity done total => Bytes.ofText (Progress.document activity done total)

def content? : Notice → Option Bytes
  | .content bytes => some bytes
  | .progress _ _ _ => none

/-- Progress is reported of this activity only. -/
def Of (activity : Option Activity) : Notice → Prop
  | .content _ => True
  | .progress reported _ _ => activity = some reported

end Notice

/-- Without the progress documents among them, the notifications are these contents. -/
def Carries (activity : Option Activity) (calls : List Call) (contents : List Bytes) : Prop :=
  ∃ notices : List Notice, notices.map Notice.bytes = calls.filterMap Call.notified? ∧
    notices.filterMap Notice.content? = contents ∧ ∀ notice ∈ notices, notice.Of activity

theorem Carries.append {activity : Option Activity} {calls later : List Call}
    {contents others : List Bytes} (first : Carries activity calls contents)
    (second : Carries activity later others) :
    Carries activity (calls ++ later) (contents ++ others) := by
  obtain ⟨notices, bytes, content, reported⟩ := first
  obtain ⟨more, moreBytes, moreContent, moreReported⟩ := second
  refine ⟨notices ++ more, ?_, ?_, ?_⟩
  · simp [bytes, moreBytes]
  · simp [content, moreContent]
  · intro notice member
    exact (List.mem_append.mp member).elim (reported notice) (moreReported notice)

variable {W H : Type}

/-- A stretch that went well: nobody disturbs, the clock moved by the pauses, the memory was
not looked at, and these contents went out. -/
structure Carried (ports : Ports W H) (activity : Option Activity) (contents : List Bytes)
    (pause : Nat) (before : W) (t : Station (Recorded W Call) H) (calls : List Call) : Prop where
  calm : t.endpoint.disturbed = false
  clock : ports.now t.world.world = ports.now before + pause
  readings : calls.filterMap Call.reading? = []
  carries : Carries activity calls contents

theorem Carried.trans {ports : Ports W H} {activity : Option Activity}
    {contents others : List Bytes} {pause further : Nat} {before : W}
    {t u : Station (Recorded W Call) H} {calls later : List Call}
    (first : Carried ports activity contents pause before t calls)
    (second : Carried ports activity others further t.world.world u later) :
    Carried ports activity (contents ++ others) (pause + further) before u (calls ++ later) where
  calm := second.calm
  clock := by rw [second.clock, first.clock, Nat.add_assoc]
  readings := by simp [first.readings, second.readings]
  carries := first.carries.append second.carries

/-! ## The steps of sending -/

open Act

namespace Ports.Orderly

variable {ports : Ports W H} (orderly : ports.Orderly) (emergency : Nat)

include orderly

/-- Whatever a notice is about, it goes out when its call goes well. -/
theorem deliver_smooth (activity : Option Activity) (notice : Notice)
    (reported : notice.Of activity) (s : Station (Recorded W Call) H) :
    Smooth emergency (deliver ports.logged notice.bytes) s fun result t calls =>
      result = .ok () ∧ Carried ports activity notice.content?.toList 0 s.world.world t calls := by
  refine (orderly.logged_notify notice.bytes s).bind fun answer t known => ?_
  obtain ⟨there, clock⟩ := known
  have carries : Carries activity [.notified notice.bytes answer t.endpoint.disturbed]
      notice.content?.toList :=
    ⟨[notice], by simp [Call.notified?], by cases notice <;> simp [Notice.content?],
      by simpa using reported⟩
  cases answer with
  | ok =>
    refine returns_pure ⟨_, there, fun favours => ⟨rfl, ?_, clock, rfl, carries⟩⟩
    exact (favours _ List.mem_cons_self).2
  | error error =>
    -- A refused notification is itself a call that does not go well.
    refine returns_pure ⟨_, there, fun favours => ?_⟩
    have refused := (favours _ List.mem_cons_self).1
    simp at refused

theorem sendChunk_smooth (activity : Option Activity) {chunk : Bytes}
    (small : chunk.length ≤ maxChunk) (s : Station (Recorded W Call) H) :
    Smooth emergency (sendChunk ports.logged chunk) s fun result t calls =>
      result = .ok () ∧ Carried ports activity [chunk] 0 s.world.world t calls := by
  unfold sendChunk
  rw [if_neg (Nat.not_lt.mpr small)]
  have told := orderly.deliver_smooth emergency activity (.content chunk) trivial s
  refine Returns.bind told fun answer t known => ?_
  obtain ⟨calls, there, well⟩ := known
  cases answer with
  | ok =>
    refine returns_modifyEndpoint (returns_pure ⟨calls, there.still rfl, fun favours => ?_⟩)
    obtain ⟨-, calm, clock, readings, carries⟩ := well favours
    exact ⟨rfl, calm, clock, readings, carries⟩
  | error error =>
    refine returns_pure ⟨calls, there, fun favours => ?_⟩
    simpa using (well favours).1

theorem progressAt_smooth (stream : Stream) (sent threshold : Nat)
    {s : Station (Recorded W Call) H} (calm : s.endpoint.disturbed = false) :
    Smooth emergency (progressAt ports.logged stream sent threshold) s fun _ t calls =>
      Carried ports stream.activity [] 0 s.world.world t calls := by
  have silent : Carried ports stream.activity [] 0 s.world.world s [] :=
    ⟨calm, rfl, rfl, [], rfl, rfl, by simp⟩
  unfold progressAt
  split
  next activity reported _ =>
    dsimp only
    split
    next =>
      have told := (orderly.deliver_smooth emergency stream.activity
        (.progress activity sent stream.total) reported s).mono fun _ _ _ known => known.2
      refine Returns.bind told.discard fun _ t known => ?_
      exact returns_pure known
    next => exact returns_pure ⟨[], .refl s, fun _ => silent⟩
  next => exact returns_pure ⟨[], .refl s, fun _ => silent⟩

theorem sleep_smooth (activity : Option Activity) (time : Nat) (s : Station (Recorded W Call) H) :
    Smooth emergency (ports.logged.sleep time) s fun _ t calls =>
      Carried ports activity [] time s.world.world t calls := by
  refine (orderly.logged_sleep time s).mono fun _ t known => ?_
  obtain ⟨there, clock⟩ := known
  refine ⟨_, there, fun favours => ⟨favours _ List.mem_cons_self, clock, rfl, ?_⟩⟩
  exact ⟨[], rfl, rfl, by simp⟩

/-- The loop over the chunks sends them one after the other, with a pause behind each. -/
theorem sendChunks_smooth (stream : Stream) (chunks : List Bytes)
    (small : ∀ chunk ∈ chunks, chunk.length ≤ maxChunk) (sent threshold : Nat)
    {s : Station (Recorded W Call) H} (calm : s.endpoint.disturbed = false) :
    Smooth emergency (sendChunks ports.logged stream chunks sent threshold) s fun result t calls =>
      result = .ok () ∧ Carried ports stream.activity (chunks ++ [endMarker])
        (chunks.length * stream.plan.delay) s.world.world t calls := by
  induction chunks generalizing sent threshold s with
  | nil =>
    have closed := orderly.deliver_smooth emergency stream.activity (.content endMarker) trivial s
    exact closed.mono fun result t calls known => by simpa [Notice.content?] using known
  | cons chunk rest ih =>
    have bookless := onward_bookless (W := W) (H := H)
    -- A request to cancel would show as a disturbance behind the call before.
    have uncancelled : s.endpoint.cancelRequested = false := by
      simp only [Endpoint.disturbed, Bool.or_eq_false_iff] at calm
      exact calm.1
    refine returns_step ?_
    rw [if_neg (by simp [uncancelled])]
    refine Smooth.behind rfl ?_
    refine (orderly.sendChunk_smooth emergency stream.activity (small chunk List.mem_cons_self)
      _).bind (fun answer => ?_) fun answer t calls known => ?_
    · cases answer with
      | error error => exact bookless.pure _
      | ok => exact bookless.rest orderly.within_onward stream rest _ threshold fun _ _ =>
          bookless.sendChunks orderly.within_onward stream rest _ _
    obtain ⟨rfl, first⟩ := known
    refine (orderly.progressAt_smooth emergency stream _ threshold first.calm).bind
      (fun next => ?_) fun next u more told => ?_
    · exact bookless.bind (orderly.within_onward.sleep _) fun _ =>
        bookless.sendChunks orderly.within_onward stream rest _ _
    refine (orderly.sleep_smooth emergency stream.activity stream.plan.delay u).bind
      (fun _ => bookless.sendChunks orderly.within_onward stream rest _ _) fun _ v nap slept => ?_
    have others := ih (fun other member => small other (List.mem_cons_of_mem _ member))
      (sent + chunk.length) next slept.calm
    refine others.mono fun result w last finished => ⟨finished.1, ?_⟩
    -- Chunk, progress, pause and the rest of the loop, one behind the other.
    have whole := first.trans (told.trans (slept.trans finished.2))
    simpa [Nat.add_mul, Nat.add_comm] using whole

end Ports.Orderly

/-! ## Preparing -/

/-- A pool does not refuse a block of this size. -/
def Grants (size : Nat) (calls : List Call) : Prop := ∃ pool, Call.asked pool size false ∉ calls

theorem Grants.of_append {size : Nat} {calls later : List Call}
    (grants : Grants size (calls ++ later)) : Grants size calls := by
  obtain ⟨pool, never⟩ := grants
  exact ⟨pool, fun refused => never (List.mem_append_left later refused)⟩

namespace Ports.Orderly

variable {ports : Ports W H} (orderly : ports.Orderly)

include orderly

/-- A block is had unless neither pool gives one. -/
theorem allocate_prepared (size : Nat) (s : Station (Recorded W Call) H) :
    Returns (CommandLink.allocate ports.logged size) s fun block t => ∃ calls,
      Prepared ports s t calls ∧
        (block = some { capacity := size } ∨ block = none ∧ ¬Grants size calls) := by
  refine (orderly.logged_allocate .primary size s).bind fun primary t known => ?_
  obtain ⟨first, -⟩ := known
  cases primary with
  | true => exact returns_pure ⟨_, first, Or.inl rfl⟩
  | false =>
    refine (orderly.logged_allocate .secondary size t).bind fun secondary u known => ?_
    obtain ⟨second, -⟩ := known
    have both := first.trans second
    cases secondary with
    | true =>
      exact returns_modifyEndpoint (returns_pure ⟨_, both.still rfl rfl rfl, Or.inl rfl⟩)
    | false =>
      refine returns_pure ⟨_, both, Or.inr ⟨rfl, ?_⟩⟩
      rintro ⟨pool, never⟩
      cases pool with
      | primary => exact never (by simp)
      | secondary => exact never (by simp)

/-- What is refused is answered inline, and is an error. -/
theorem refuse_onward {γ : Type} (error : SendError) (message kind : String)
    (s : Station (Recorded W Call) H) :
    Returns (refuse ports.logged error message kind : Act (Recorded W Call) H (Except SendError γ)) s
      fun result t => Onward s t ∧ result = .error error := by
  have told := onward_bookless.sendInline orderly.within_onward.notify message kind s
  exact Returns.bind told fun _ t there => returns_pure ⟨there, rfl⟩

/-- A document that is short enough is written whole into a block, unless memory is short. -/
theorem prepare_prepared {text : Bytes} {s : Station (Recorded W Call) H}
    (fits : text.length ≤ s.endpoint.settings.maxResponse.toNat) :
    Returns (prepare ports.logged (.steady text)) s fun result t => ∃ calls, Stretch s t calls ∧
      ((result = .ok text ∧ Prepared ports s t calls) ∨
        (∃ error, result = .error error) ∧
          ¬(Favours s.endpoint.settings.emergencyFree.toNat calls ∧
            Grants (text.length + s.endpoint.settings.responseMargin.toNat) calls)) := by
  refine returns_endpoint ?_
  simp only [Document.steady, Document.serializedLength]
  rw [if_neg (Nat.not_lt.mpr fits)]
  refine (orderly.logged_freeBytes s).bind fun free t known => ?_
  obtain ⟨read, -⟩ := known
  split
  next low =>
    -- The reading itself is the call that does not go well.
    refine (orderly.refuse_onward _ _ _ t).mono fun result u refused => ?_
    obtain ⟨⟨later, further⟩, failed⟩ := refused
    refine ⟨_, read.stretch.trans further, Or.inr ⟨⟨_, failed⟩, fun went => ?_⟩⟩
    have reading : Call.Favours _ (.readFree free) := went.1 _ List.mem_cons_self
    exact absurd low (Nat.not_lt.mpr reading)
  next =>
    refine (orderly.allocate_prepared _ t).bind fun block u asked => ?_
    obtain ⟨calls, there, had | ⟨none, refused⟩⟩ := asked
    · subst had
      refine returns_pure ⟨_, (read.trans there).stretch, Or.inl ⟨?_, read.trans there⟩⟩
      exact Document.fill_of_room (Nat.le_add_right _ _)
    · subst none
      refine (orderly.refuse_onward _ _ _ u).mono fun result v answered => ?_
      obtain ⟨⟨later, further⟩, failed⟩ := answered
      refine ⟨_, (read.trans there).stretch.trans further, Or.inr ⟨⟨_, failed⟩, fun went => ?_⟩⟩
      obtain ⟨pool, never⟩ := went.2.of_append
      exact refused ⟨pool, fun member => never (List.mem_cons_of_mem _ member)⟩

end Ports.Orderly

/-! ## The plan -/

/-- A notification carries three bytes less than the unit, which is never below the default,
and at most 512; chunks are smaller when memory is short. -/
theorem Settings.plan_chunkSize (settings : Settings) (total free : Nat) (mtu : UInt16)
    (state : LinkState) :
    (settings.plan total free (state.chunkSize mtu)).chunkSize =
      let whole := min (max (state.unit mtu).toNat 23 - 3) 512
      if free < settings.lowMemoryFree.toNat then min whole settings.lowMemoryChunk.toNat
      else whole := by
  have whole : min (max (state.chunkSize mtu) 1) maxChunk =
      min (max (state.unit mtu).toNat 23 - 3) 512 := by
    simp only [LinkState.chunkSize, notifyLength, maxChunk, defaultMtu, unitOverhead]
    omega
  simp only [plan, whole, decide_eq_true_eq]

theorem Settings.Valid.plan_chunkSize_bounds {settings : Settings} (valid : settings.Valid)
    (total free unit : Nat) :
    0 < (settings.plan total free unit).chunkSize ∧
      (settings.plan total free unit).chunkSize ≤ maxChunk := by
  have chunk := settings.valid_iff.mp valid .lowMemoryChunkOutside
  simp only [breaks, Bool.or_eq_false_iff, decide_eq_false_iff_not] at chunk
  simp only [plan, maxChunk] at chunk ⊢
  split <;> omega

/-! ## Sending -/

/-- A text went out whole, in chunks of the size and with the pauses that were planned for
the last reading of the free memory. -/
def Streamed (ports : Ports W H) (activity : Option Activity) (text : Bytes) (plan : Nat → Plan)
    (before after : W) (calls : List Call) : Prop :=
  ∃ free, (calls.filterMap Call.reading?).getLast? = some free ∧
    Carries activity calls (Bytes.pieces (plan free).chunkSize text ++ [endMarker]) ∧
    ports.now after = ports.now before +
      (Bytes.pieces (plan free).chunkSize text).length * (plan free).delay

/-- What is prepared before does not show. -/
theorem Prepared.streamed {ports : Ports W H} {s t : Station (Recorded W Call) H}
    {calls later : List Call} {activity : Option Activity} {text : Bytes} {plan : Nat → Plan}
    {after : W} (prepared : Prepared ports s t calls)
    (streamed : Streamed ports activity text plan t.world.world after later) :
    Streamed ports activity text plan s.world.world after (calls ++ later) := by
  obtain ⟨free, reading, carries, clock⟩ := streamed
  have silent : Carries activity calls [] := ⟨[], prepared.silent.symm, rfl, by simp⟩
  refine ⟨free, ?_, silent.append carries, ?_⟩
  · simp [List.getLast?_append, reading]
  · rw [clock, prepared.clock]

namespace Ports.Orderly

variable {ports : Ports W H} (orderly : ports.Orderly) (emergency : Nat)

include orderly

/-- Once the memory was read, the chunks go out as planned for the reading. -/
theorem sendChunks_streamed {text : Bytes} (plan : Nat → Plan) {free : Nat} (stream : Stream)
    (plans : stream.plan = plan free) (positive : 0 < (plan free).chunkSize)
    (small : (plan free).chunkSize ≤ maxChunk) (threshold : Nat)
    {s t : Station (Recorded W Call) H} (read : Prepared ports s t [.readFree free])
    (calm : t.endpoint.disturbed = false) :
    Returns (sendChunks ports.logged stream (Bytes.pieces (plan free).chunkSize text) 0 threshold) t
      fun result u => ∃ calls, Stretch s u calls ∧ (Favours emergency calls →
        result = .ok () ∧ u.endpoint.disturbed = false ∧
          Streamed ports stream.activity text plan s.world.world u.world.world calls) := by
  have bounded : ∀ chunk ∈ Bytes.pieces (plan free).chunkSize text, chunk.length ≤ maxChunk := by
    intro chunk member
    exact Nat.le_trans (Bytes.length_le_of_mem_pieces positive text chunk member) small
  have run := orderly.sendChunks_smooth emergency stream _ bounded 0 threshold calm
  refine Returns.mono run fun result u known => ?_
  obtain ⟨calls, further, well⟩ := known
  refine ⟨_, read.stretch.trans further, fun favours => ?_⟩
  obtain ⟨done, carried⟩ := well (favours_append.mp favours).2
  have silent : Carries stream.activity [.readFree free] [] := ⟨[], rfl, rfl, by simp⟩
  refine ⟨done, carried.calm, free, ?_, silent.append carried.carries, ?_⟩
  · simp [Call.reading?, carried.readings]
  · rw [carried.clock, read.clock, plans]

theorem sendPayload_smooth (activity : Option Activity) (text : Bytes)
    {s : Station (Recorded W Call) H} (valid : s.endpoint.settings.Valid)
    (calm : s.endpoint.disturbed = false) :
    Smooth emergency (sendPayload ports.logged text activity) s fun result t calls =>
      result = .ok () ∧ t.endpoint.disturbed = false ∧
        Streamed ports activity text
          (fun free => s.endpoint.settings.plan text.length free
            (s.endpoint.chunkSize (ports.mtu s.world.world)))
          s.world.world t.world.world calls := by
  have looked : Returns (currentChunk ports.logged) s fun size t =>
      size = s.endpoint.chunkSize (ports.mtu s.world.world) ∧ t = s := ⟨_, s, rfl, rfl, rfl⟩
  refine looked.bind fun size here known => ?_
  obtain ⟨rfl, rfl⟩ := known
  refine (orderly.logged_freeBytes here).bind fun free t known => ?_
  obtain ⟨read, same⟩ := known
  have still : t.endpoint.disturbed = false := by rw [same]; exact calm
  obtain ⟨plan, planned⟩ : ∃ plan : Nat → Plan, plan = fun free =>
      here.endpoint.settings.plan text.length free
        (here.endpoint.chunkSize (ports.mtu here.world.world)) := ⟨_, rfl⟩
  obtain ⟨positive, small⟩ : 0 < (plan free).chunkSize ∧ (plan free).chunkSize ≤ maxChunk := by
    rw [planned]
    exact valid.plan_chunkSize_bounds text.length free _
  rw [← planned]
  refine returns_endpoint ?_
  rw [same]
  dsimp only
  rw [← congrFun planned free]
  split
  next =>
    -- It is counted that memory pressure made the chunks shrink.
    refine returns_modifyEndpoint ?_
    refine orderly.sendChunks_streamed emergency plan _ rfl positive small _
      (?_ : Prepared ports here _ [.readFree free]) still
    exact read.still rfl rfl rfl
  next => exact orderly.sendChunks_streamed emergency plan _ rfl positive small _ read still

/-- A document that is short enough goes out as planned, if a pool gives the block. -/
theorem transmit_streamed (activity : Option Activity) (text : Bytes)
    {s : Station (Recorded W Call) H} (valid : s.endpoint.settings.Valid)
    (fits : text.length ≤ s.endpoint.settings.maxResponse.toNat)
    (calm : s.endpoint.disturbed = false) :
    Returns (transmit ports.logged (.steady text) activity) s fun result t => ∃ calls,
      Stretch s t calls ∧ (Favours s.endpoint.settings.emergencyFree.toNat calls →
        Grants (text.length + s.endpoint.settings.responseMargin.toNat) calls →
        result = .ok () ∧ t.endpoint.disturbed = false ∧
          Streamed ports activity text
            (fun free => s.endpoint.settings.plan text.length free
              (s.endpoint.chunkSize (ports.mtu s.world.world)))
            s.world.world t.world.world calls) := by
  refine (orderly.prepare_prepared fits).bind fun prepared t known => ?_
  obtain ⟨calls, there, ⟨rfl, ready⟩ | ⟨⟨error, rfl⟩, failed⟩⟩ := known
  · have settings := there.settings
    have same : t.endpoint.chunkSize (ports.mtu t.world.world) =
        s.endpoint.chunkSize (ports.mtu s.world.world) := by
      rw [ready.unit, Endpoint.chunkSize, Endpoint.chunkSize, ready.state]
    have run := orderly.sendPayload_smooth s.endpoint.settings.emergencyFree.toNat activity text
      (s := t) (by rw [settings]; exact valid) (ready.disturbed.trans calm)
    rw [settings, same] at run
    refine Returns.mono run fun result u known => ?_
    obtain ⟨later, further, well⟩ := known
    refine ⟨calls ++ later, there.trans further, fun favours _ => ?_⟩
    obtain ⟨done, still, streamed⟩ := well (favours_append.mp favours).2
    exact ⟨done, still, ready.streamed streamed⟩
  · -- A document that was refused is not sent, and its calls say why.
    exact returns_pure ⟨calls, there, fun favours grants => absurd ⟨favours, grants⟩ failed⟩

/-- Behind a transmission that was not disturbed nobody is owed an answer, so that what went
out is what the document made of it. -/
theorem sendHeld_streamed (activity : Option Activity) (text : Bytes)
    {s : Station (Recorded W Call) H} (valid : s.endpoint.settings.Valid)
    (fits : text.length ≤ s.endpoint.settings.maxResponse.toNat)
    (idle : s.endpoint.sending = false) (unowed : s.endpoint.busyOwed = false) :
    Returns (sendHeld ports.logged (.steady text) activity) s fun result t => ∃ calls,
      Stretch s t calls ∧ (Favours s.endpoint.settings.emergencyFree.toNat calls →
        Grants (text.length + s.endpoint.settings.responseMargin.toNat) calls →
        result = .ok () ∧ Streamed ports activity text
          (fun free => s.endpoint.settings.plan text.length free
            (s.endpoint.chunkSize (ports.mtu s.world.world)))
          s.world.world t.world.world calls) := by
  refine returns_endpoint ?_
  rw [if_neg (by simp [idle])]
  refine returns_modifyEndpoint (Returns.ensuring ?_)
  have held := orderly.transmit_streamed activity text
    (s := { s with endpoint := { s.endpoint with sending := true, cancelRequested := false } })
    valid fits (by simp [Endpoint.disturbed, unowed])
  refine Returns.bind held fun result t known => ?_
  obtain ⟨calls, further, well⟩ := known
  have there : Stretch s t calls := ⟨further.settings, further.diary⟩
  refine returns_modifyEndpoint ?_
  have tallied : Stretch s { t with endpoint := t.endpoint.count (Counters.tally result) } calls :=
    there.still rfl
  have counted : (t.endpoint.count (Counters.tally result)).busyOwed = t.endpoint.busyOwed := rfl
  cases owed : t.endpoint.busyOwed with
  | false =>
    have answered : Returns (answerBusy ports.logged)
        { t with endpoint := t.endpoint.count (Counters.tally result) }
        fun _ u => Stretch s u calls ∧ u.world = t.world := by
      refine returns_step ?_
      rw [if_neg (by simp [counted, owed])]
      exact returns_pure ⟨tallied.still rfl, rfl⟩
    refine answered.bind fun _ u known => ?_
    obtain ⟨done, same⟩ := known
    refine returns_pure ⟨calls, done.still rfl, fun favours grants => ?_⟩
    obtain ⟨result, -, streamed⟩ := well favours grants
    exact ⟨result, by rw [same]; exact streamed⟩
  | true =>
    -- Somebody else wanted to send meanwhile, so that some call was disturbed.
    have answered := onward_bookless.answerBusy orderly.within_onward.notify
      { t with endpoint := t.endpoint.count (Counters.tally result) }
    refine Returns.bind answered fun _ u known => ?_
    obtain ⟨later, answer⟩ := known
    refine returns_pure ⟨calls ++ later, (tallied.trans answer).still rfl,
      fun favours grants => ?_⟩
    obtain ⟨-, calm, -⟩ := well (favours_append.mp favours).1 grants.of_append
    simp [Endpoint.disturbed, owed] at calm

end Ports.Orderly

/-- A send that is not disturbed, while the memory suffices and the link takes everything:
without the progress documents among them, its notifications are the text in consecutive
pieces and one end marker, and the clock moves by one pause for each piece. The pieces have
the size that the link allows, or the smaller one for when memory is short, depending on
the reading that is taken last. -/
theorem send_streams_text (ports : Ports W H) (orderly : ports.Orderly)
    (s : Station (Recorded W Call) H) (valid : s.endpoint.settings.Valid) (text : Bytes)
    (fits : text.length ≤ s.endpoint.settings.maxResponse.toNat) (activity : Option Activity)
    (idle : s.endpoint.sending = false) (unowed : s.endpoint.busyOwed = false) :
    let settings := s.endpoint.settings
    let unit := s.endpoint.state.unit (ports.mtu s.world.world)
    let whole := min (max unit.toNat 23 - 3) 512
    Returns (send ports.logged (.steady text) activity) s fun result t => ∃ calls,
      t.world.diary = s.world.diary ++ calls ∧
      ((∀ call ∈ calls, call.Favours settings.emergencyFree.toNat) →
        (∃ pool, Call.asked pool (text.length + settings.responseMargin.toNat) false ∉ calls) →
        result = .ok () ∧ ∃ free pieces,
          (calls.filterMap Call.reading?).getLast? = some free ∧
          Carries activity calls (pieces ++ [endMarker]) ∧
          Bytes.Cut
            (if free < settings.lowMemoryFree.toNat then min whole settings.lowMemoryChunk.toNat
              else whole)
            text pieces ∧
          ports.now t.world.world =
            ports.now s.world.world + pieces.length * settings.chunkDelay text.length) := by
  intro settings unit whole
  refine returns_modifyEndpoint (Returns.ensuring ?_)
  have held := orderly.sendHeld_streamed activity text
    (s := { s with endpoint := { s.endpoint with inFlight := s.endpoint.inFlight + 1 } })
    valid fits idle unowed
  refine Returns.mono held fun result t known => ?_
  obtain ⟨calls, there, well⟩ := known
  refine ⟨calls, there.diary, fun favours grants => ?_⟩
  obtain ⟨done, free, reading, carries, clock⟩ := well favours grants
  have size := settings.plan_chunkSize text.length free (ports.mtu s.world.world) s.endpoint.state
  have positive := (valid.plan_chunkSize_bounds text.length free
    (s.endpoint.chunkSize (ports.mtu s.world.world))).1
  refine ⟨done, free, _, reading, carries, ?_, clock⟩
  rw [← size]
  exact Bytes.cut_pieces positive text

/-- Ports of a link that takes everything, on a device with little memory left, of which only
the secondary pool gives some. -/
def tightPorts : Ports Nat Empty :=
  { Bench.clockPorts with
    notify := fun _ => return .ok ()
    mtu := fun _ => 100
    freeBytes := return 10000
    allocate := fun pool _ => return pool = .secondary }

theorem tightPorts_orderly : tightPorts.Orderly where
  notify _ _ := returns_pure ⟨rfl, rfl⟩
  sleep _ _ := ⟨(), _, rfl, rfl, rfl⟩
  freeBytes _ := returns_pure ⟨rfl, rfl, rfl⟩
  allocate _ _ _ := returns_pure ⟨rfl, rfl, rfl⟩

/-- Little memory makes the chunks of 97 bytes shrink to 64. -/
theorem send_streams_text_in_little_memory :
    let text : Bytes := List.replicate 70 97
    let after := (exec (send tightPorts.logged (.steady text) (some .configDownload))
      ⟨Endpoint.fresh {}, { world := 1000 }⟩).2
    ∃ pieces, Carries (some .configDownload) after.world.diary (pieces ++ [endMarker]) ∧
      Bytes.Cut 64 text pieces ∧ after.world.world = 1000 + pieces.length * 10 := by
  intro text after
  have calls : after.world.diary =
      [.readFree 10000, .asked .primary 134 false, .asked .secondary 134 true, .readFree 10000,
        .notified (List.replicate 64 97) (.ok ()) false, .slept 10 false,
        .notified (List.replicate 6 97) (.ok ()) false, .slept 10 false,
        .notified endMarker (.ok ()) false] := by decide +kernel
  obtain ⟨_, last, returned, made, diary, well⟩ := send_streams_text tightPorts tightPorts_orderly
    ⟨Endpoint.fresh {}, { world := 1000 }⟩ (by decide) text (by decide) (some .configDownload)
    rfl rfl
  have reached : after = last := congrArg Prod.snd returned
  have same : after.world.diary = made := by
    rw [reached, diary]
    rfl
  rw [← same, ← reached] at well
  obtain ⟨-, free, pieces, reading, carries, cut, clock⟩ := well
    (by rw [calls]; decide) ⟨.secondary, by rw [calls]; decide⟩
  have low : 10000 = free := by
    rw [calls] at reading
    exact Option.some.inj reading
  subst low
  exact ⟨pieces, carries, cut, clock⟩

end CommandLink
