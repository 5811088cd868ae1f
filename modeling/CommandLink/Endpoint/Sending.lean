import CommandLink.Endpoint.Negotiating
import CommandLink.Framing.Progress
import CommandLink.Framing.Reply
import CommandLink.Outbound.Block
import CommandLink.Outbound.Document
import CommandLink.Outbound.Pacing

/-!
# Sending

One document goes out at a time, as a run of chunks closed by an end marker,
with a pause behind each chunk. Whoever sends holds the outbound lock
meanwhile. Everything else that must be said in between goes through the
holder: a sender that finds the lock held leaves word that the peer is owed a
"busy" answer, and the holder gives it behind its own document. A crash while a
document goes out frees the lock, and leaves everything else to the next sender.

Before each chunk the request to cancel is looked at. Nothing is sent when the
document is too long or memory is short; the peer gets an inline error instead.
-/

namespace CommandLink

variable {W H : Type} (ports : Ports W H)

open Act

def deliver (bytes : Bytes) : Act W H (Except SendError Unit) := do
  match ← ports.notify bytes with
  | .ok () => return .ok ()
  | .error error => return .error (.link error)

/-- Take back a request to cancel; returns whether there was one. -/
def takeCancel : Act W H Bool :=
  step fun endpoint => (endpoint.cancelRequested, { endpoint with cancelRequested := false })

/-- The size of the chunks on the link as it is now. -/
def currentChunk : Act W H Nat := do return (← endpoint).chunkSize (ports.mtu (← world))

/-- Notify pieces until one is refused; returns whether all went out. -/
def notifyAll : List Bytes → Act W H Bool
  | [] => return true
  | piece :: rest => do
    match ← ports.notify piece with
    | .ok () => notifyAll rest
    | .error _ => return false

/-- Send an inline error with its end marker, as far as the link takes it. -/
def sendInline (message kind : String) : Act W H Unit := do
  let size := min (max (← currentChunk ports) 1) maxChunk
  let document := Bytes.ofText (Reply.inlineError message kind)
  discard (notifyAll ports (Bytes.pieces size document ++ [endMarker]))

/-- Give the "busy" answer if it is owed. -/
def answerBusy : Act W H Unit := do
  let owed ← step fun endpoint => (endpoint.busyOwed, { endpoint with busyOwed := false })
  if owed then sendInline ports "Transmission busy" "busy"

def reportProgress (activity : Activity) (done total : Nat) : Act W H (Except SendError Unit) :=
  deliver ports (Bytes.ofText (Progress.document activity done total))

/-- What stays the same while a document goes out. -/
structure Stream where
  plan : Plan
  total : Nat
  /-- Percents between two progress reports. -/
  progressStep : Nat
  activity : Option Activity

/-- Report progress when its threshold is reached; returns the next threshold. -/
def progressAt (stream : Stream) (sent threshold : Nat) : Act W H Nat := do
  match stream.activity, stream.plan.reportProgress with
  | some activity, true =>
    let reached := percent sent stream.total
    if threshold ≤ reached then
      discard (reportProgress ports activity sent stream.total)
      return nextThreshold stream.progressStep reached
    else
      return threshold
  | _, _ => return threshold

/-- Send one chunk. -/
def sendChunk (chunk : Bytes) : Act W H (Except SendError Unit) := do
  if maxChunk < chunk.length then
    return .error (.tooLarge chunk.length maxChunk)
  else
    match ← deliver ports chunk with
    | .error error => return .error error
    | .ok () =>
      count fun c =>
        { c with
          fragmentsSent := c.fragmentsSent + 1
          bytesSent := Counters.addBytes c.bytesSent chunk.length }
      return .ok ()

/-- Break a document off at the peer's request. -/
def breakOff : Act W H (Except SendError Unit) := do
  match ← deliver ports cancelledMarker with
  | .ok () => return .error .cancelled
  | .error error => return .error error

/-- Send the remaining chunks and the end marker. -/
def sendChunks (stream : Stream) : List Bytes → Nat → Nat → Act W H (Except SendError Unit)
  | [], _, _ => deliver ports endMarker
  | chunk :: rest, sent, threshold => do
    if ← takeCancel then
      breakOff ports
    else
      match ← sendChunk ports chunk with
      | .error error => return .error error
      | .ok () =>
        let sent := sent + chunk.length
        let threshold ← progressAt ports stream sent threshold
        ports.sleep stream.plan.delay
        sendChunks stream rest sent threshold

/-- Refuse to send, and tell the peer. -/
def refuse {α : Type} (error : SendError) (message kind : String) :
    Act W H (Except SendError α) := do
  sendInline ports message kind
  return .error error

/-- A block of `size` bytes, from the secondary pool if the primary refuses. -/
def allocate (size : Nat) : Act W H (Option Block) := do
  if ← ports.allocate .primary size then
    return some { capacity := size }
  else if ← ports.allocate .secondary size then
    count fun c => { c with secondaryAllocs := c.secondaryAllocs + 1 }
    return some { capacity := size }
  else
    return none

/-- Write a document into a block. -/
def Document.fill (document : Document) (block : Block) : Except SendError Bytes :=
  match document.written with
  | none => .error .serialize
  | some text =>
    match block.writeAll text with
    | (true, full) => .ok full.written
    -- The second pass yielded more than there is room for.
    | (false, _) => .error .serialize

/-- Measure a document, and write it into a block if it may be sent. -/
def prepare (document : Document) : Act W H (Except SendError Bytes) := do
  let settings := (← endpoint).settings
  match document.serializedLength with
  | .error error => return .error error
  | .ok total =>
    if settings.maxResponse.toNat < total then
      refuse ports (.tooLarge total settings.maxResponse.toNat) "Response too large" "capacity"
    else
      let free ← ports.freeBytes
      if free < settings.emergencyFree.toNat then
        refuse ports (.lowMemory free) "Low memory" "memory"
      else
        let requested := total + settings.responseMargin.toNat
        match ← allocate ports requested with
        | none => refuse ports (.outOfMemory requested) "Out of memory" "memory"
        | some block => return document.fill block

/-- Choose chunks and pauses for a payload and send it. -/
def sendPayload (payload : Bytes) (activity : Option Activity) :
    Act W H (Except SendError Unit) := do
  let unit ← currentChunk ports
  let free ← ports.freeBytes
  let settings := (← endpoint).settings
  let plan := settings.plan payload.length free unit
  if plan.lowMemory then
    count fun c => { c with lowMemoryChunks := c.lowMemoryChunks + 1 }
  let stream :=
    { plan, total := payload.length, progressStep := max settings.progressStep.toNat 1, activity }
  sendChunks ports stream (Bytes.pieces plan.chunkSize payload) 0 stream.progressStep

/-- Send a document while holding the lock. -/
def transmit (document : Document) (activity : Option Activity) :
    Act W H (Except SendError Unit) := do
  match ← prepare ports document with
  | .error error => return .error error
  | .ok payload => sendPayload ports payload activity

/-- Count how a transmission ended. -/
def Counters.tally (result : Except SendError Unit) (c : Counters) : Counters :=
  match result with
  | .ok () => { c with transmissionsCompleted := c.transmissionsCompleted + 1 }
  | .error .cancelled => { c with cancellations := c.cancellations + 1 }
  | .error _ => { c with transmissionsFailed := c.transmissionsFailed + 1 }

/-- Send a document, or leave a "busy" answer to the one who sends already. A
request to cancel from before is void. -/
def sendHeld (document : Document) (activity : Option Activity) :
    Act W H (Except SendError Unit) := do
  if (← endpoint).sending then
    -- The holder of the lock is in the middle of its document and answers later.
    modifyEndpoint fun endpoint =>
      { endpoint with busyOwed := true }.count fun c =>
        { c with
          lockTimeouts := c.lockTimeouts + 1
          transmissionsFailed := c.transmissionsFailed + 1 }
    return .error .lockTimeout
  else
    modifyEndpoint fun endpoint => { endpoint with sending := true, cancelRequested := false }
    ensuring (fun endpoint => { endpoint with sending := false }) do
      let result ← transmit ports document activity
      count (Counters.tally result)
      answerBusy ports
      return result

/-- Send a document. An activity makes a long one report its progress. -/
def send (document : Document) (activity : Option Activity) :
    Act W H (Except SendError Unit) := do
  modifyEndpoint fun endpoint => { endpoint with inFlight := endpoint.inFlight + 1 }
  ensuring (fun endpoint => { endpoint with inFlight := endpoint.inFlight - 1 }) do
    sendHeld ports document activity

/-- Send what a command asked for. -/
def sendResponse (document : Document) : Act W H (Except SendError Unit) :=
  send ports document (some .configDownload)

def sendTelemetry (document : Document) : Act W H (Except SendError Unit) :=
  send ports document none

def sendOk (kind : String) : Act W H (Except SendError Unit) :=
  send ports (Document.ofJson (Reply.ok kind)) none

def sendError (message kind : String) : Act W H (Except SendError Unit) :=
  send ports (Document.ofJson (Reply.error message kind)) none

/-- Wait for the transmissions under way, at most until `deadline`; returns
whether all of them ended. -/
def drainUntil (deadline : Nat) : Nat → Act W H Bool
  | 0 => return false
  | rounds + 1 => do
    -- Transmissions come before the clock, so that no wait is needed when none is open.
    if (← endpoint).inFlight = 0 then
      return true
    else if deadline ≤ ports.now (← world) then
      return false
    else
      ports.sleep (← endpoint).settings.drainPoll.toNat
      drainUntil deadline rounds

def drain (timeout : Nat) : Act W H Bool := do
  let deadline := ports.now (← world) + timeout
  drainUntil ports deadline ports.rounds

end CommandLink
