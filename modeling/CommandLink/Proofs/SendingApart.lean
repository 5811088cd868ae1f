import CommandLink.Endpoint.Sending
import CommandLink.Proofs.Running

/-!
# What sending does to the rest of an endpoint

Sending keeps its own books in an endpoint and touches nothing else there. So
whatever the ports may do while they are called, a document that is sent does
no more than that: if a preorder on stations holds the ports, and does not look
at the books of sending, it holds all of sending.
-/

namespace CommandLink

variable {W H : Type}

/-- An endpoint without the books that sending keeps. -/
def Endpoint.withoutBooks (endpoint : Endpoint H) : Endpoint H :=
  { endpoint with
    sending := false
    busyOwed := false
    inFlight := 0
    cancelRequested := false
    counters :=
      { endpoint.counters with
        fragmentsSent := 0
        bytesSent := 0
        transmissionsCompleted := 0
        transmissionsFailed := 0
        cancellations := 0
        lockTimeouts := 0
        lowMemoryChunks := 0
        secondaryAllocs := 0 } }

theorem Endpoint.withoutBooks_tally (result : Except SendError Unit) (endpoint : Endpoint H) :
    (endpoint.count (Counters.tally result)).withoutBooks = endpoint.withoutBooks := by
  -- A cancelled transmission counts elsewhere than a failed one.
  rcases result with error | _
  · cases error <;> rfl
  · rfl

/-- A preorder that does not look at the books of sending. -/
structure Bookless (R : Station W H → Station W H → Prop) : Prop where
  refl : ∀ s, R s s
  trans : ∀ s t u, R s t → R t u → R s u
  books : ∀ s (endpoint : Endpoint H), endpoint.withoutBooks = s.endpoint.withoutBooks →
    R s { s with endpoint }

/-- The ports that sending uses come back, and do what `R` allows. -/
structure Ports.Within (ports : Ports W H) (R : Station W H → Station W H → Prop) : Prop where
  notify : ∀ bytes, Act.Within R (ports.notify bytes)
  sleep : ∀ time, Act.Within R (ports.sleep time)
  freeBytes : Act.Within R ports.freeBytes
  allocate : ∀ pool size, Act.Within R (ports.allocate pool size)

namespace Bookless

open Act

variable {R : Station W H → Station W H → Prop} (bookless : Bookless R)

include bookless

theorem pure {α : Type} (a : α) : Act.Within R (Pure.pure a : Act W H α) :=
  within_pure bookless.refl a

theorem bind {α β : Type} {act : Act W H α} {next : α → Act W H β} (first : Act.Within R act)
    (second : ∀ a, Act.Within R (next a)) : Act.Within R (act >>= next) :=
  Within.bind bookless.trans first second

theorem endpoint : Act.Within R (Act.endpoint : Act W H (Endpoint H)) :=
  fun s => ⟨_, s, rfl, bookless.refl s⟩

theorem world : Act.Within R (Act.world : Act W H W) := fun s => ⟨_, s, rfl, bookless.refl s⟩

theorem modify {change : Endpoint H → Endpoint H}
    (kept : ∀ endpoint, (change endpoint).withoutBooks = endpoint.withoutBooks) :
    Act.Within R (modifyEndpoint change) :=
  within_modifyEndpoint fun s => bookless.books s _ (kept s.endpoint)

theorem step {α : Type} {change : Endpoint H → α × Endpoint H}
    (kept : ∀ endpoint, (change endpoint).2.withoutBooks = endpoint.withoutBooks) :
    Act.Within R (Act.step change) :=
  fun s => ⟨_, _, rfl, bookless.books s _ (kept s.endpoint)⟩

theorem ensuring {α : Type} {change : Endpoint H → Endpoint H} {act : Act W H α}
    (kept : ∀ endpoint, (change endpoint).withoutBooks = endpoint.withoutBooks)
    (within : Act.Within R act) : Act.Within R (Act.ensuring change act) :=
  Within.ensuring bookless.trans (fun s => bookless.books s _ (kept s.endpoint)) within

/-! ## The procedures of sending -/

variable {ports : Ports W H}

theorem currentChunk : Act.Within R (currentChunk ports) :=
  bookless.bind bookless.endpoint fun _ => bookless.bind bookless.world fun _ => bookless.pure _

/-! What is sent inline only notifies. -/

section Notify

variable (notify : ∀ bytes, Act.Within R (ports.notify bytes))

include notify

theorem deliver (bytes : Bytes) : Act.Within R (deliver ports bytes) := by
  refine bookless.bind (notify bytes) fun answer => ?_
  cases answer with
  | ok => exact bookless.pure _
  | error error => exact bookless.pure _

theorem notifyAll (pieces : List Bytes) : Act.Within R (notifyAll ports pieces) := by
  induction pieces with
  | nil => exact bookless.pure true
  | cons piece rest ih =>
    refine bookless.bind (notify piece) fun answer => ?_
    cases answer with
    | ok => exact ih
    | error error => exact bookless.pure false

theorem sendInline (message kind : String) : Act.Within R (sendInline ports message kind) :=
  bookless.bind bookless.currentChunk fun _ => (bookless.notifyAll notify _).discard

theorem answerBusy : Act.Within R (answerBusy ports) := by
  refine bookless.bind (bookless.step fun _ => rfl) fun owed => ?_
  cases owed with
  | true => exact bookless.sendInline notify _ _
  | false => exact bookless.pure ()

theorem refuse {α : Type} (error : SendError) (message kind : String) :
    Act.Within R (refuse ports error message kind : Act W H (Except SendError α)) :=
  bookless.bind (bookless.sendInline notify _ _) fun _ => bookless.pure _

end Notify

/-! The rest may also sleep, look at the memory and ask for some. -/

variable (within : ports.Within R)

include within

theorem progressAt (stream : Stream) (sent threshold : Nat) :
    Act.Within R (progressAt ports stream sent threshold) := by
  unfold CommandLink.progressAt
  split
  next =>
    dsimp only
    split
    next =>
      exact bookless.bind (bookless.deliver within.notify _).discard fun _ => bookless.pure _
    next => exact bookless.pure _
  next => exact bookless.pure _

theorem sendChunk (chunk : Bytes) : Act.Within R (sendChunk ports chunk) := by
  unfold CommandLink.sendChunk
  split
  next => exact bookless.pure _
  next =>
    refine bookless.bind (bookless.deliver within.notify chunk) fun answer => ?_
    cases answer with
    | ok => exact bookless.bind (bookless.modify fun _ => rfl) fun _ => bookless.pure _
    | error error => exact bookless.pure _

theorem breakOff : Act.Within R (breakOff ports) := by
  refine bookless.bind (bookless.deliver within.notify cancelledMarker) fun answer => ?_
  cases answer with
  | ok => exact bookless.pure _
  | error error => exact bookless.pure _

theorem rest (stream : Stream) (chunks : List Bytes) (sent threshold : Nat)
    (onward : ∀ sent threshold, Act.Within R (sendChunks ports stream chunks sent threshold)) :
    Act.Within R (do
      let threshold ← CommandLink.progressAt ports stream sent threshold
      ports.sleep stream.plan.delay
      CommandLink.sendChunks ports stream chunks sent threshold) :=
  bookless.bind (bookless.progressAt within stream sent threshold) fun next =>
    bookless.bind (within.sleep _) fun _ => onward sent next

theorem sendChunks (stream : Stream) (chunks : List Bytes) (sent threshold : Nat) :
    Act.Within R (sendChunks ports stream chunks sent threshold) := by
  -- The counts change from round to round, so that they are general.
  induction chunks generalizing sent threshold with
  | nil => exact bookless.deliver within.notify endMarker
  | cons chunk rest ih =>
    refine bookless.bind (bookless.step fun _ => rfl) fun cancelled => ?_
    cases cancelled with
    | true => exact bookless.breakOff within
    | false =>
      refine bookless.bind (bookless.sendChunk within chunk) fun answer => ?_
      cases answer with
      | error error => exact bookless.pure _
      | ok => exact bookless.rest within stream rest _ threshold ih

theorem allocate (size : Nat) : Act.Within R (allocate ports size) := by
  refine bookless.bind (within.allocate .primary size) fun granted => ?_
  cases granted with
  | true => exact bookless.pure _
  | false =>
    refine bookless.bind (within.allocate .secondary size) fun granted => ?_
    cases granted with
    | true => exact bookless.bind (bookless.modify fun _ => rfl) fun _ => bookless.pure _
    | false => exact bookless.pure _

theorem prepare (document : Document) : Act.Within R (prepare ports document) := by
  refine bookless.bind bookless.endpoint fun endpoint => ?_
  cases document.serializedLength with
  | error error => exact bookless.pure _
  | ok total =>
    dsimp only
    split
    next => exact bookless.refuse within.notify _ _ _
    next =>
      refine bookless.bind within.freeBytes fun free => ?_
      split
      next => exact bookless.refuse within.notify _ _ _
      next =>
        refine bookless.bind (bookless.allocate within _) fun block => ?_
        cases block with
        | none => exact bookless.refuse within.notify _ _ _
        | some block => exact bookless.pure _

theorem sendPayload (payload : Bytes) (activity : Option Activity) :
    Act.Within R (sendPayload ports payload activity) := by
  refine bookless.bind bookless.currentChunk fun unit => ?_
  refine bookless.bind within.freeBytes fun free => ?_
  refine bookless.bind bookless.endpoint fun endpoint => ?_
  dsimp only
  split
  next =>
    exact bookless.bind (bookless.modify fun _ => rfl) fun _ => bookless.sendChunks within _ _ _ _
  next => exact bookless.sendChunks within _ _ _ _

theorem transmit (document : Document) (activity : Option Activity) :
    Act.Within R (transmit ports document activity) := by
  refine bookless.bind (bookless.prepare within document) fun prepared => ?_
  cases prepared with
  | error error => exact bookless.pure _
  | ok payload => exact bookless.sendPayload within payload activity

theorem sendHeld (document : Document) (activity : Option Activity) :
    Act.Within R (sendHeld ports document activity) := by
  refine bookless.bind bookless.endpoint fun endpoint => ?_
  split
  next => exact bookless.bind (bookless.modify fun _ => rfl) fun _ => bookless.pure _
  next =>
    refine bookless.bind (bookless.modify fun _ => rfl) fun _ => ?_
    refine bookless.ensuring (fun _ => rfl) ?_
    refine bookless.bind (bookless.transmit within document activity) fun result => ?_
    refine bookless.bind (bookless.modify (Endpoint.withoutBooks_tally result)) fun _ => ?_
    exact bookless.bind (bookless.answerBusy within.notify) fun _ => bookless.pure _

theorem send (document : Document) (activity : Option Activity) :
    Act.Within R (send ports document activity) :=
  bookless.bind (bookless.modify fun _ => rfl) fun _ =>
    bookless.ensuring (fun _ => rfl) (bookless.sendHeld within document activity)

end Bookless

end CommandLink
