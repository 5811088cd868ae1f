import CommandLink.Proofs.Interruption
import CommandLink.Proofs.RoundTrip

/-!
# Sending through one buffer

Chunks can be copied through one buffer of fixed size, which whoever holds the lock has to
itself. Then more can go wrong than in sending as it is: a unit may be smaller than what the
link keeps of it, a document may be cut by a size of zero, and a chunk may not fit the buffer.
The procedures here are those of sending with the buffer, and each of these slips is a crash.

With settings that make sense there are no slips, whatever is in the buffer to begin with, and
both ways to send do the same.
-/

namespace CommandLink

/-- The buffer that chunks are copied through. -/
structure Scratch where
  contents : Bytes := []
  within : contents.length ≤ maxChunk := by decide

namespace Scratch

def clear (_ : Scratch) : Scratch := {}

/-- Append to what is in the buffer; `none` when that does not fit. -/
def append? (scratch : Scratch) (bytes : Bytes) : Option Scratch :=
  if fits : (scratch.contents ++ bytes).length ≤ maxChunk then
    some ⟨scratch.contents ++ bytes, fits⟩
  else
    none

/-- What fits an empty buffer is then all that is in it. -/
theorem append?_clear {bytes : Bytes} (fits : bytes.length ≤ maxChunk) (scratch : Scratch) :
    scratch.clear.append? bytes = some ⟨bytes, fits⟩ := by
  have room : (scratch.clear.contents ++ bytes).length ≤ maxChunk := fits
  rw [append?, dif_pos room]
  rfl

end Scratch

example : (Scratch.clear {}).append? (List.replicate 513 0) = none := by decide +kernel

/-! ## Slips -/

/-- The bytes of a unit that a notification can carry, by a subtraction that needs as many
bytes as the link keeps for itself. -/
def notifyLength? (unit : UInt16) : Option Nat :=
  let wide := max unit.toNat defaultMtu
  if unitOverhead ≤ wide then some (wide - unitOverhead) else none

/-- The default unit is larger than what the link keeps for itself. -/
theorem notifyLength?_eq (unit : UInt16) : notifyLength? unit = some (notifyLength unit) := by
  have wide : unitOverhead ≤ max unit.toNat defaultMtu :=
    Nat.le_trans (by decide) (Nat.le_max_right _ _)
  simp only [notifyLength?, notifyLength, if_pos wide]

/-- Consecutive pieces of `size` bytes, which cannot be zero. -/
def Bytes.pieces? (size : Nat) (bytes : Bytes) : Option (List Bytes) :=
  if size = 0 then none else some (Bytes.pieces size bytes)

theorem Bytes.pieces?_eq {size : Nat} (positive : 0 < size) (bytes : Bytes) :
    Bytes.pieces? size bytes = some (Bytes.pieces size bytes) :=
  if_neg (Nat.ne_of_gt positive)

variable {W H α β : Type}

/-- What must be there; a crash when it is not. -/
def Act.demand (slip : String) : Option α → Act W H α
  | some a => return a
  | none => throw ⟨slip⟩

open Act

/-- The size of the chunks on the link as it is now. -/
def demandChunk (ports : Ports W H) : Act W H Nat := do
  let endpoint ← endpoint
  let world ← world
  let carried ← demand "attempt to subtract with overflow"
    (notifyLength? (endpoint.state.unit (ports.mtu world)))
  return min carried maxChunk

theorem demandChunk_eq (ports : Ports W H) : demandChunk ports = currentChunk ports := by
  simp only [demandChunk, notifyLength?_eq]
  rfl

def demandPieces (size : Nat) (bytes : Bytes) : Act W H (List Bytes) :=
  demand "chunk size must be non-zero" (Bytes.pieces? size bytes)

theorem demandPieces_eq {size : Nat} (positive : 0 < size) (bytes : Bytes) :
    (demandPieces size bytes : Act W H (List Bytes)) = pure (Bytes.pieces size bytes) := by
  rw [demandPieces, Bytes.pieces?_eq positive]
  rfl

/-! ## Sending with the buffer -/

namespace Scratch

/-- Put bytes into the buffer in place of what is there. -/
def load (bytes : Bytes) (scratch : Scratch) : Act W H Scratch :=
  demand "chunk exceeds the scratch buffer" (scratch.clear.append? bytes)

theorem load_eq {bytes : Bytes} (fits : bytes.length ≤ maxChunk) (scratch : Scratch) :
    (scratch.load bytes : Act W H Scratch) = pure ⟨bytes, fits⟩ := by
  rw [load, append?_clear fits]
  rfl

variable (ports : Ports W H)

/-- Notify pieces and the end marker behind them, until one is refused. -/
def notifyPieces : List Bytes → Scratch → Act W H Scratch
  | [], scratch => do
    let _ ← ports.notify endMarker
    return scratch
  | piece :: rest, scratch => do
    let scratch ← scratch.load piece
    match ← ports.notify scratch.contents with
    | .ok () => notifyPieces rest scratch
    | .error _ => return scratch

def sendInline (message kind : String) (scratch : Scratch) : Act W H Scratch := do
  let size := min (max (← demandChunk ports) 1) maxChunk
  let pieces ← demandPieces size (Bytes.ofText (Reply.inlineError message kind))
  scratch.notifyPieces ports pieces

def answerBusy (scratch : Scratch) : Act W H Scratch := do
  let owed ← step fun endpoint => (endpoint.busyOwed, { endpoint with busyOwed := false })
  if owed then scratch.sendInline ports "Transmission busy" "busy" else return scratch

/-- Send one chunk. -/
def sendChunk (chunk : Bytes) (scratch : Scratch) :
    Act W H (Except SendError Unit × Scratch) := do
  let scratch ← scratch.load chunk
  return (← CommandLink.sendChunk ports scratch.contents, scratch)

def sendChunks (stream : Stream) :
    List Bytes → Nat → Nat → Scratch → Act W H (Except SendError Unit × Scratch)
  | [], _, _, scratch => return (← deliver ports endMarker, scratch)
  | chunk :: rest, sent, threshold, scratch => do
    if ← takeCancel then
      return (← breakOff ports, scratch)
    else
      match ← scratch.sendChunk ports chunk with
      | (.error error, scratch) => return (.error error, scratch)
      | (.ok (), scratch) =>
        let sent := sent + chunk.length
        let threshold ← progressAt ports stream sent threshold
        ports.sleep stream.plan.delay
        sendChunks stream rest sent threshold scratch

def refuse (error : SendError) (message kind : String) (scratch : Scratch) :
    Act W H (Except SendError α × Scratch) := do
  return (.error error, ← scratch.sendInline ports message kind)

def prepare (document : Document) (scratch : Scratch) :
    Act W H (Except SendError Bytes × Scratch) := do
  let settings := (← endpoint).settings
  match document.serializedLength with
  | .error error => return (.error error, scratch)
  | .ok total =>
    if settings.maxResponse.toNat < total then
      scratch.refuse ports (.tooLarge total settings.maxResponse.toNat)
        "Response too large" "capacity"
    else
      let free ← ports.freeBytes
      if free < settings.emergencyFree.toNat then
        scratch.refuse ports (.lowMemory free) "Low memory" "memory"
      else
        let requested := total + settings.responseMargin.toNat
        match ← allocate ports requested with
        | none => scratch.refuse ports (.outOfMemory requested) "Out of memory" "memory"
        | some block => return (document.fill block, scratch)

def sendPayload (payload : Bytes) (activity : Option Activity) (scratch : Scratch) :
    Act W H (Except SendError Unit × Scratch) := do
  let unit ← demandChunk ports
  let free ← ports.freeBytes
  let settings := (← endpoint).settings
  let plan := settings.plan payload.length free unit
  if plan.lowMemory then
    count fun c => { c with lowMemoryChunks := c.lowMemoryChunks + 1 }
  let stream :=
    { plan, total := payload.length, progressStep := max settings.progressStep.toNat 1, activity }
  let chunks ← demandPieces plan.chunkSize payload
  scratch.sendChunks ports stream chunks 0 stream.progressStep

def transmit (document : Document) (activity : Option Activity) (scratch : Scratch) :
    Act W H (Except SendError Unit × Scratch) := do
  match ← scratch.prepare ports document with
  | (.error error, scratch) => return (.error error, scratch)
  | (.ok payload, scratch) => scratch.sendPayload ports payload activity

/-- What a send does while it has the lock, and with it the buffer. -/
def holding (document : Document) (activity : Option Activity) (scratch : Scratch) :
    Act W H (Except SendError Unit × Scratch) := do
  let (result, scratch) ← scratch.transmit ports document activity
  count (Counters.tally result)
  return (result, ← scratch.answerBusy ports)

def sendHeld (document : Document) (activity : Option Activity) (scratch : Scratch) :
    Act W H (Except SendError Unit × Scratch) := do
  if (← endpoint).sending then
    -- The buffer belongs to the holder of the lock, and is not touched.
    modifyEndpoint fun endpoint =>
      { endpoint with busyOwed := true }.count fun c =>
        { c with
          lockTimeouts := c.lockTimeouts + 1
          transmissionsFailed := c.transmissionsFailed + 1 }
    return (.error .lockTimeout, scratch)
  else
    modifyEndpoint fun endpoint => { endpoint with sending := true, cancelRequested := false }
    ensuring (fun endpoint => { endpoint with sending := false })
      (scratch.holding ports document activity)

/-- Send a document, with what is in the buffer to begin with. -/
def send (document : Document) (activity : Option Activity) (scratch : Scratch) :
    Act W H (Except SendError Unit × Scratch) := do
  modifyEndpoint fun endpoint => { endpoint with inFlight := endpoint.inFlight + 1 }
  ensuring (fun endpoint => { endpoint with inFlight := endpoint.inFlight - 1 })
    (scratch.sendHeld ports document activity)

end Scratch

/-! ## Both ways to send are alike -/

/-- The result of the second procedure is forgotten. -/
theorem Act.Alike.forget {V G : Type} {R : Station W H → Station V G → Prop} {Q : α → β → Prop}
    {f : Act W H α} {g : Act V G β} (alike : Alike R Q f g) :
    Alike R (fun _ _ => True) f (Functor.discard g) := by
  intro a b there
  rcases alike a b there with
    ⟨x, y, s, t, left, right, -, still⟩ | ⟨crash, s, t, left, right, still⟩
  · exact .inl ⟨x, (), s, t, left, by rw [exec_discard, right]; rfl, trivial, still⟩
  · exact .inr ⟨crash, s, t, left, by rw [exec_discard, right]; rfl, still⟩

/-- The same result, beside whatever is left in the buffer. -/
def SameResult (x : α × Scratch) (y : α) : Prop := x.1 = y

theorem Act.Alike.sameResult {V G : Type} {R : Station W H → Station V G → Prop} {f : Act W H α}
    {g : Act V G α} (alike : Alike R Eq f g) (scratch : Scratch) :
    Alike R SameResult (do return (← f, scratch)) g := by
  rw [← bind_pure g]
  apply alike.bind_same
  intro a
  exact alike_pure rfl

/-- One station, and its settings. -/
abbrev Settled (settings : Settings) (a b : Station W H) : Prop :=
  a = b ∧ a.endpoint.settings = settings

theorem settled_likeness (settings : Settings) (ports : Ports W H) :
    Likeness ports ports (Settled settings) (Settled settings) :=
  (settings_immune settings).likeness ports

namespace Scratch

variable {ports : Ports W H} {settings : Settings}
  (steady : ports.Keep fun s => s.endpoint.settings = settings)

include steady

theorem notifyPieces_alike {pieces : List Bytes}
    (small : ∀ piece ∈ pieces, piece.length ≤ maxChunk) (scratch : Scratch) :
    Alike (Settled settings) (fun _ _ => True) (scratch.notifyPieces ports pieces)
      (notifyAll ports (pieces ++ [endMarker])) := by
  -- What the buffer holds changes from piece to piece, so that it is general.
  induction pieces generalizing scratch with
  | nil =>
    apply (steady.sendAlike.notify endMarker).bind_same
    intro answer
    cases answer with
    | ok => exact alike_pure trivial
    | error error => exact alike_pure trivial
  | cons piece rest ih =>
    rw [List.forall_mem_cons] at small
    rw [notifyPieces, load_eq small.1, pure_bind]
    apply (steady.sendAlike.notify piece).bind_same
    intro answer
    cases answer with
    | ok => exact ih small.2 _
    | error error => exact alike_pure trivial

theorem sendInline_alike (message kind : String) (scratch : Scratch) :
    Alike (Settled settings) (fun _ _ => True) (scratch.sendInline ports message kind)
      (CommandLink.sendInline ports message kind) := by
  rw [sendInline, demandChunk_eq]
  apply (settled_likeness settings ports).semblance.currentChunk_alike.bind_same
  intro unit
  -- This size is clamped on the spot, and asks nothing of the settings.
  obtain ⟨size, cut⟩ : ∃ size, size = min (max unit 1) maxChunk := ⟨_, rfl⟩
  have positive : 0 < size := by
    have room : 0 < maxChunk := by decide
    omega
  dsimp only
  rw [← cut, demandPieces_eq positive, pure_bind]
  have small : ∀ piece ∈ Bytes.pieces size (Bytes.ofText (Reply.inlineError message kind)),
      piece.length ≤ maxChunk := by
    intro piece member
    have short := Bytes.length_le_of_mem_pieces positive _ piece member
    omega
  exact (notifyPieces_alike steady small scratch).forget

theorem refuse_alike (error : SendError) (message kind : String) (scratch : Scratch) :
    Alike (Settled settings) SameResult (scratch.refuse ports error message kind)
      (CommandLink.refuse ports error message kind : Act W H (Except SendError α)) := by
  apply (sendInline_alike steady message kind scratch).bind
  intro after _ _
  exact alike_pure rfl

theorem answerBusy_alike (scratch : Scratch) :
    Alike (Settled settings) (fun _ _ => True) (scratch.answerBusy ports)
      (CommandLink.answerBusy ports) := by
  apply (alike_step fun a b there => (settled_likeness settings ports).owed a b there).bind_same
  intro owed
  cases owed with
  | true => exact sendInline_alike steady _ _ scratch
  | false => exact alike_pure trivial

theorem sendChunk_alike {chunk : Bytes} (small : chunk.length ≤ maxChunk) (scratch : Scratch) :
    Alike (Settled settings) SameResult (scratch.sendChunk ports chunk)
      (CommandLink.sendChunk ports chunk) := by
  have like := settled_likeness settings ports
  rw [sendChunk, load_eq small, pure_bind]
  exact (like.semblance.sendChunk_alike steady.sendAlike chunk).sameResult _

theorem sendChunks_alike (stream : Stream) {chunks : List Bytes}
    (small : ∀ chunk ∈ chunks, chunk.length ≤ maxChunk) (sent threshold : Nat)
    (scratch : Scratch) :
    Alike (Settled settings) SameResult (scratch.sendChunks ports stream chunks sent threshold)
      (CommandLink.sendChunks ports stream chunks sent threshold) := by
  have like := settled_likeness settings ports
  have notify := steady.sendAlike.notify
  -- By induction on the chunks that are left; the counts and the buffer change from round to round.
  induction chunks generalizing sent threshold scratch with
  | nil => exact (deliver_alike notify endMarker).sameResult scratch
  | cons chunk rest ih =>
    rw [List.forall_mem_cons] at small
    apply (alike_step fun a b there => like.cancel a b there).bind_same
    intro cancelled
    cases cancelled with
    | true => exact (breakOff_alike notify).sameResult scratch
    | false =>
      apply (sendChunk_alike steady small.1 scratch).bind
      rintro ⟨result, after⟩ _ rfl
      cases result with
      | error error => exact alike_pure rfl
      | ok =>
        apply (progressAt_alike notify stream _ threshold).bind_same
        intro next
        apply (steady.sendAlike.sleep _).bind_same
        intro
        exact ih small.2 _ next after

theorem prepare_alike (document : Document) (scratch : Scratch) :
    Alike (Settled settings) SameResult (scratch.prepare ports document)
      (CommandLink.prepare ports document) := by
  have like := settled_likeness settings ports
  apply alike_endpoint
  rintro a _ ⟨rfl, same⟩
  cases document.serializedLength with
  | error error => exact alike_pure rfl
  | ok total =>
    dsimp only
    split
    next => exact refuse_alike steady _ _ _ scratch
    next =>
      apply steady.sendAlike.freeBytes.bind_same
      intro free
      split
      next => exact refuse_alike steady _ _ _ scratch
      next =>
        apply (like.semblance.allocate_alike steady.sendAlike _).bind_same
        intro block
        cases block with
        | none => exact refuse_alike steady _ _ _ scratch
        | some block => exact alike_pure rfl

variable (valid : settings.Valid)

include valid

theorem sendPayload_alike (payload : Bytes) (activity : Option Activity) (scratch : Scratch) :
    Alike (Settled settings) SameResult (scratch.sendPayload ports payload activity)
      (CommandLink.sendPayload ports payload activity) := by
  have like := settled_likeness settings ports
  rw [sendPayload, demandChunk_eq]
  apply like.semblance.currentChunk_alike.bind_same
  intro unit
  apply steady.sendAlike.freeBytes.bind_same
  intro free
  apply alike_endpoint
  rintro a _ ⟨rfl, same⟩
  rw [same]
  -- Chunks that shrink are as long as the settings say, so here these have to make sense.
  obtain ⟨positive, small⟩ := valid.plan_chunkSize_bounds payload.length free unit
  have chunks : ∀ chunk ∈ Bytes.pieces (settings.plan payload.length free unit).chunkSize payload,
      chunk.length ≤ maxChunk := by
    intro chunk member
    exact Nat.le_trans (Bytes.length_le_of_mem_pieces positive _ chunk member) small
  dsimp only
  rw [demandPieces_eq positive]
  split
  next =>
    apply like.semblance.count_bind
    · exact fun _ => ⟨rfl, rfl, rfl, rfl⟩
    · exact sendChunks_alike steady _ chunks _ _ scratch
  next => exact sendChunks_alike steady _ chunks _ _ scratch

theorem transmit_alike (document : Document) (activity : Option Activity) (scratch : Scratch) :
    Alike (Settled settings) SameResult (scratch.transmit ports document activity)
      (CommandLink.transmit ports document activity) := by
  apply (prepare_alike steady document scratch).bind
  rintro ⟨prepared, after⟩ _ rfl
  cases prepared with
  | error error => exact alike_pure rfl
  | ok payload => exact sendPayload_alike steady valid payload activity after

theorem sendHeld_alike (document : Document) (activity : Option Activity) (scratch : Scratch) :
    Alike (Settled settings) SameResult (scratch.sendHeld ports document activity)
      (CommandLink.sendHeld ports document activity) := by
  have like := settled_likeness settings ports
  have held : Alike (Settled settings) SameResult (scratch.holding ports document activity)
      (CommandLink.holding ports document activity) := by
    apply (transmit_alike steady valid document activity scratch).bind
    rintro ⟨result, after⟩ _ rfl
    apply (alike_modify (like.count _)).bind_same
    intro
    apply (answerBusy_alike steady after).bind
    intro last _ _
    exact alike_pure rfl
  apply alike_endpoint
  rintro a _ ⟨rfl, same⟩
  split
  next =>
    apply (alike_modify (like.owe _)).bind_same
    intro
    exact alike_pure rfl
  next =>
    apply (alike_modify like.lock).bind_same
    intro
    exact held.ensuring like.unlock

theorem send_alike (document : Document) (activity : Option Activity) (scratch : Scratch) :
    Alike (Settled settings) SameResult (scratch.send ports document activity)
      (CommandLink.send ports document activity) := by
  have like := settled_likeness settings ports
  apply (alike_modify (like.flight (· + 1))).bind_same
  intro
  exact (sendHeld_alike steady valid document activity scratch).ensuring (like.flight (· - 1))

end Scratch

/-- What is alike but for the buffer ends as the other does, and leaves the same station. -/
theorem exec_of_sameResult {settings : Settings} {f : Act W H (α × Scratch)} {g : Act W H α}
    (alike : Alike (Settled settings) SameResult f g) {s : Station W H}
    (same : s.endpoint.settings = settings) : exec (Prod.fst <$> f) s = exec g s := by
  rw [exec_map]
  rcases alike s s ⟨rfl, same⟩ with
    ⟨x, y, t, u, left, right, rfl, rfl, -⟩ | ⟨crash, t, u, left, right, rfl, -⟩
  · rw [left, right]
    rfl
  · rw [left, right]
    rfl

/-! ## No slips -/

/-- Whatever state the negotiation is in, on whatever link and with whatever memory, chunks are
planned that are not empty, fit the buffer and the unit, and are small when memory is short.
Sending with the buffer never slips, whatever is in it: it does what sending does as it is, and
comes back when the ports do. -/
theorem chunks_stay_within_scratch {settings : Settings} {fresh : Endpoint H}
    (made : Endpoint.create settings = .ok fresh) :
    (∀ (state : LinkState) (mtu : UInt16) (total free : Nat),
      let plan := settings.plan total free (state.chunkSize mtu)
      unitOverhead ≤ max (state.unit mtu).toNat defaultMtu ∧
        0 < plan.chunkSize ∧ plan.chunkSize ≤ maxChunk ∧
        plan.chunkSize ≤ notifyLength (state.unit mtu) ∧
        (free < settings.lowMemoryFree.toNat →
          plan.chunkSize ≤ settings.lowMemoryChunk.toNat)) ∧
      ∀ ports : Ports W H, (ports.Keep fun s => s.endpoint.settings = settings) →
        ∀ (document : Document) (activity : Option Activity) (scratch : Scratch)
          (s : Station W H), s.endpoint.settings = settings →
          exec (Prod.fst <$> scratch.send ports document activity) s =
              exec (send ports document activity) s ∧
            (ports.ComeBack →
              Returns (scratch.send ports document activity) s fun _ _ => True) := by
  obtain ⟨valid, -⟩ := Endpoint.eq_fresh_of_create made
  refine ⟨fun state mtu total free => ?_, fun ports steady document activity scratch s same => ?_⟩
  · have wide : unitOverhead ≤ max (state.unit mtu).toNat defaultMtu :=
      Nat.le_trans (by decide) (Nat.le_max_right _ _)
    obtain ⟨positive, small⟩ := valid.plan_chunkSize_bounds total free (state.chunkSize mtu)
    have link := (state.chunkSize_bounds mtu).1
    have fits := (settings.plan_chunkSize_le total free (by omega : 0 < state.chunkSize mtu)).1
    have carried : state.chunkSize mtu ≤ notifyLength (state.unit mtu) := Nat.min_le_left _ _
    refine ⟨wide, positive, small, Nat.le_trans fits carried, fun short => ?_⟩
    simp only [Settings.plan, short, decide_true, if_true]
    exact Nat.min_le_right _ _
  · have alike := Scratch.send_alike steady valid document activity scratch
    refine ⟨exec_of_sameResult alike same, fun back => ?_⟩
    -- A crash would be one of sending as it is, which comes back with its ports.
    obtain ⟨result, t, run, -⟩ := bookless_true.send back document activity s
    rcases alike s s ⟨rfl, same⟩ with
      ⟨x, -, u, -, left, -⟩ | ⟨crash, -, u, -, right, -⟩
    · exact ⟨x, u, left, trivial⟩
    · rw [right] at run
      cases run

/-- A link that shows a unit of zero, and chunks of one byte. -/
theorem chunks_stay_within_scratch_byte_by_byte :
    let settings : Settings := { lowMemoryChunk := 1 }
    let ports : Ports Nat Empty := { openPorts with mtu := fun _ => 0, freeBytes := return 10000 }
    let s : Station Nat Empty := ⟨.fresh settings, 0⟩
    let scratch : Scratch := ⟨List.replicate maxChunk 0, by rw [List.length_replicate]⟩
    let text : Bytes := [123, 125]
    Endpoint.create settings = .ok (Endpoint.fresh settings : Endpoint Empty) ∧
      (ports.Keep fun s => s.endpoint.settings = settings) ∧ ports.ComeBack ∧
      (settings.plan text.length 10000 (s.endpoint.chunkSize 0)).chunkSize = 1 ∧
      exec (Prod.fst <$> scratch.send ports (.steady text) none) s =
        exec (send ports (.steady text) none) s ∧
      (exec (send ports (.steady text) none) s).1 = .ok (.ok ()) := by
  intro settings ports s scratch text
  have made : Endpoint.create settings = .ok (Endpoint.fresh settings : Endpoint Empty) := rfl
  have steady : ports.Keep fun s => s.endpoint.settings = settings :=
    { openPorts_keep fun endpoint => endpoint.settings = settings with
      freeBytes := fun _ there => there }
  have back : ports.ComeBack :=
    { openPorts_comeBack with freeBytes := fun s => ⟨_, s, rfl, trivial⟩ }
  obtain ⟨sizes, sends⟩ := chunks_stay_within_scratch (W := Nat) made
  obtain ⟨-, positive, -, -, small⟩ := sizes s.endpoint.state 0 text.length 10000
  obtain ⟨same, -⟩ := sends ports steady (.steady text) none scratch s rfl
  refine ⟨made, steady, back, ?_, same, by decide +kernel⟩
  exact Nat.le_antisymm (small (by decide)) positive

end CommandLink
