import CommandLink.Endpoint.Lifecycle
import CommandLink.Endpoint.Processing
import CommandLink.Proofs.SendingApart

/-!
# What its work does to the rest of an endpoint

Besides sending, an endpoint negotiates, reports faults, streams, and gives commands to a
responder. A preorder on stations that does not look at the books of these jobs either holds
all of them, if it holds the ports. A handler need not come back: where it crashes, the preorder
holds what it left.

The worker alone does more: it takes commands off the queue. `Takes` says of the wait for one
that this is all.
-/

namespace CommandLink

variable {W H : Type}

namespace Act

variable {α β : Type} {R : Station W H → Station W H → Prop}

/-- However a procedure ends, what it did is within `R`. -/
def Ends (R : Station W H → Station W H → Prop) (act : Act W H α) : Prop :=
  ∀ s, R s (exec act s).2

theorem Within.ends {act : Act W H α} (within : Within R act) : Ends R act := by
  intro s
  obtain ⟨_, _, run, there⟩ := within s
  rw [run]
  exact there

theorem Ends.bind (trans : ∀ s t u, R s t → R t u → R s u) {act : Act W H α}
    {next : α → Act W H β} (first : Ends R act) (second : ∀ a, Ends R (next a)) :
    Ends R (act >>= next) := by
  intro s
  have there := first s
  rw [exec_bind]
  cases ended : exec act s with
  | mk result middle =>
    rw [ended] at there
    cases result with
    | ok a => exact trans s middle _ there (second a middle)
    | error crash => exact there

theorem Ends.ensuring (trans : ∀ s t u, R s t → R t u → R s u)
    {change : Endpoint H → Endpoint H} {act : Act W H α}
    (allowed : ∀ s, R s { s with endpoint := change s.endpoint }) (ends : Ends R act) :
    Ends R (ensuring change act) :=
  fun s => trans s _ _ (ends s) (allowed _)

end Act

/-- An endpoint without the books that its jobs keep. -/
def Endpoint.withoutJobs (endpoint : Endpoint H) : Endpoint H :=
  { endpoint.withoutBooks with
    negotiation := {}
    faults := .empty
    priority := false
    streaming := false
    counters :=
      { endpoint.withoutBooks.counters with
        parseErrors := 0
        negotiationAttempts := 0
        negotiationTimeouts := 0
        negotiationFailures := 0
        negotiatedMtu := 0 } }

theorem Endpoint.withoutJobs_of_withoutBooks {one other : Endpoint H}
    (same : one.withoutBooks = other.withoutBooks) : one.withoutJobs = other.withoutJobs := by
  unfold withoutJobs
  rw [same]

theorem Endpoint.withoutJobs_poll (now : Nat) (mtu : UInt16) (endpoint : Endpoint H) :
    (endpoint.poll now mtu).2.withoutJobs = endpoint.withoutJobs := by
  unfold poll
  dsimp only
  split
  next => rfl
  next => rfl
  next => rfl
  next => split <;> rfl

theorem Endpoint.withoutJobs_judge (token : Negotiation.Expired) (endpoint : Endpoint H) :
    (endpoint.judge token).2.withoutJobs = endpoint.withoutJobs := by
  unfold judge
  dsimp only
  split <;> rfl

theorem Endpoint.withoutJobs_resume (token : Negotiation.Expired) (now : Nat)
    (endpoint : Endpoint H) :
    (endpoint.resume token now).2.withoutJobs = endpoint.withoutJobs := by
  unfold resume
  split <;> rfl

/-- A preorder that does not look at the books of any job. -/
structure Jobless (R : Station W H → Station W H → Prop) : Prop where
  refl : ∀ s, R s s
  trans : ∀ s t u, R s t → R t u → R s u
  jobs : ∀ s (endpoint : Endpoint H), endpoint.withoutJobs = s.endpoint.withoutJobs →
    R s { s with endpoint }

/-- The ports of the worker come back, apart from the handlers, and do what `R` allows. -/
structure Ports.Serving (ports : Ports W H) (R : Station W H → Station W H → Prop) : Prop
    extends ports.Within R where
  handle : ∀ handler command, Act.Ends R (ports.handle handler command)

/-- So do those through which an endpoint negotiates and is found by peers. -/
structure Ports.Linking (ports : Ports W H) (R : Station W H → Station W H → Prop) : Prop where
  sleep : ∀ time, Act.Within R (ports.sleep time)
  requestMtu : ∀ mtu, Act.Within R (ports.requestMtu mtu)
  randomBelow : ∀ bound, Act.Within R (ports.randomBelow bound)
  restartAdvertising : Act.Within R ports.restartAdvertising

/-- The depth of the queue is written down. -/
def Endpoint.countDepth (endpoint : Endpoint H) : Endpoint H :=
  endpoint.count fun c => { c with queueDepth := endpoint.commands.size }

/-- What is left behind when a command may have been taken off the queue: if one was, it was the
oldest, and since then the endpoint was only changed by `behind`. -/
def Takes (R : Station W H → Station W H → Prop) (behind : Endpoint H → Endpoint H)
    (s t : Station W H) : Option Command → Prop
  | none => R s t
  | some command => ∃ middle rest, R s middle ∧
      middle.endpoint.commands.take? = some (command, rest) ∧
      t = { middle with endpoint := behind { middle.endpoint with commands := rest } }

namespace Bookless

open Act

variable {R : Station W H → Station W H → Prop} (bookless : Bookless R) {ports : Ports W H}
  (within : ports.Within R)

include bookless within

theorem replyError (message kind : String) : Act.Within R (replyError ports message kind) :=
  (bookless.send within _ _).discard

theorem diagnose : Act.Within R (diagnose ports) :=
  bookless.bind within.freeBytes fun _ =>
    bookless.bind bookless.endpoint fun _ => bookless.bind bookless.world fun _ => bookless.pure _

end Bookless

namespace Jobless

open Act

variable {R : Station W H → Station W H → Prop} (jobless : Jobless R)

include jobless

theorem bookless : Bookless R where
  refl := jobless.refl
  trans := jobless.trans
  books s endpoint same := jobless.jobs s endpoint (Endpoint.withoutJobs_of_withoutBooks same)

theorem modify {change : Endpoint H → Endpoint H}
    (kept : ∀ endpoint, (change endpoint).withoutJobs = endpoint.withoutJobs) :
    Act.Within R (modifyEndpoint change) :=
  within_modifyEndpoint fun s => jobless.jobs s _ (kept s.endpoint)

theorem step {α : Type} {change : Endpoint H → α × Endpoint H}
    (kept : ∀ endpoint, (change endpoint).2.withoutJobs = endpoint.withoutJobs) :
    Act.Within R (Act.step change) :=
  fun s => ⟨_, _, rfl, jobless.jobs s _ (kept s.endpoint)⟩

omit jobless in
theorem takes_after (trans : ∀ s t u, R s t → R t u → R s u) {behind : Endpoint H → Endpoint H}
    {s t u : Station W H} {taken : Option Command} (there : R s t)
    (further : Takes R behind t u taken) : Takes R behind s u taken := by
  cases taken with
  | none => exact trans s t u there further
  | some command =>
    obtain ⟨middle, rest, onward, oldest⟩ := further
    exact ⟨middle, rest, trans s t middle there onward, oldest⟩

variable {ports : Ports W H}

/-! ## Negotiating -/

section Linking

variable (linking : ports.Linking R)

include linking

theorem requestUnit (epoch : UInt32) : Act.Within R (requestUnit ports epoch) := by
  refine jobless.bookless.bind jobless.bookless.endpoint fun endpoint => ?_
  refine jobless.bookless.bind (linking.requestMtu _) fun answer => ?_
  cases answer with
  | ok => exact jobless.modify fun _ => rfl
  | error error => exact jobless.bookless.pure ()

theorem restartNegotiation : Act.Within R (restartNegotiation ports) :=
  jobless.bookless.bind jobless.bookless.world fun _ =>
    jobless.bookless.bind (jobless.step fun _ => rfl) fun epoch =>
      jobless.requestUnit linking epoch

theorem backOff (attempt : Nat) : Act.Within R (backOff ports attempt) :=
  jobless.bookless.bind jobless.bookless.endpoint fun _ =>
    jobless.bookless.bind (linking.randomBelow _) fun _ =>
      jobless.bookless.bind (linking.sleep _) fun _ => jobless.bookless.pure _

theorem resolve (token : Negotiation.Expired) : Act.Within R (resolve ports token) := by
  have bookless := jobless.bookless
  refine bookless.bind (jobless.step (Endpoint.withoutJobs_judge token)) fun decision => ?_
  cases decision with
  | stale => exact bookless.pure _
  | failed => exact bookless.bind bookless.endpoint fun _ => bookless.pure _
  | retry attempt =>
    refine bookless.bind (jobless.backOff linking attempt) fun delay => ?_
    refine bookless.bind bookless.world fun world => ?_
    refine bookless.bind (jobless.step (Endpoint.withoutJobs_resume token _)) fun resumed => ?_
    cases resumed with
    | true =>
      exact bookless.bind (jobless.requestUnit linking token.epoch) fun _ => bookless.pure _
    | false => exact bookless.pure _

theorem monitorTick : Act.Within R (monitorTick ports) := by
  have bookless := jobless.bookless
  refine bookless.bind bookless.world fun world => ?_
  refine bookless.bind (jobless.step (Endpoint.withoutJobs_poll _ _)) fun verdict => ?_
  cases verdict with
  | settled => exact bookless.pure none
  | pending => exact bookless.pure none
  | completed agreed => exact bookless.pure none
  | expired token =>
    exact bookless.bind (jobless.resolve linking token) fun resolution =>
      bookless.pure (some resolution)

theorem onConnect : Act.Within R (onConnect ports) :=
  jobless.bookless.bind (jobless.restartNegotiation linking) fun _ =>
    jobless.bookless.bind jobless.bookless.endpoint fun _ =>
      jobless.bookless.bind (linking.sleep _) fun _ => (jobless.monitorTick linking).discard

theorem onDisconnect : Act.Within R (onDisconnect ports) :=
  jobless.bookless.bind (jobless.modify fun _ => rfl) fun _ => linking.restartAdvertising

end Linking

/-! ## Reporting faults -/

theorem takeFault : Act.Within R takeFault := by
  refine jobless.step fun endpoint => ?_
  cases endpoint.faults.take? with
  | none => rfl
  | some oldest => rfl

section Within

variable (within : ports.Within R)

include within

theorem flushFaultsWithin (rounds reported : Nat) :
    Act.Within R (flushFaultsWithin ports rounds reported) := by
  induction rounds generalizing reported with
  | zero => exact jobless.bookless.pure _
  | succ rounds ih =>
    refine jobless.bookless.bind jobless.takeFault fun fault => ?_
    cases fault with
    | none => exact jobless.bookless.pure _
    | some fault =>
      have reply := jobless.bookless.replyError within fault.message fault.peerKind
      exact jobless.bookless.bind reply fun _ => ih (reported + 1)

theorem flushFaults : Act.Within R (flushFaults ports) :=
  jobless.flushFaultsWithin within ports.rounds 0

/-! ## Waiting for a command -/

omit within in
theorem takeCommand (s : Station W H) :
    Returns takeCommand s fun taken t => Takes R id s t taken := by
  refine ⟨_, _, rfl, ?_⟩
  dsimp only
  cases oldest : s.endpoint.commands.take? with
  | none => exact jobless.refl s
  | some found => exact ⟨s, found.2, jobless.refl s, oldest, rfl⟩

theorem awaitUntil (deadline rounds : Nat) (s : Station W H) :
    Returns (awaitUntil ports deadline rounds) s fun taken t => Takes R id s t taken := by
  -- By induction on the looks at the queue that are left; only the naps let others run.
  induction rounds generalizing s with
  | zero => exact returns_pure (jobless.refl s)
  | succ rounds ih =>
    refine (jobless.takeCommand s).bind fun taken t there => ?_
    cases taken with
    | some command => exact returns_pure there
    | none =>
      refine returns_world ?_
      split
      next => exact returns_pure there
      next =>
        refine (within.sleep nap t).bind fun _ u slept => ?_
        have rested := jobless.trans s t u there slept
        exact (ih u).mono fun taken v found => takes_after jobless.trans rested found

theorem awaitCommand (wait : Nat) (s : Station W H) :
    Returns (awaitCommand ports wait) s fun taken t => Takes R id s t taken :=
  returns_world (jobless.awaitUntil within _ _ s)

theorem nextCommand (wait : Nat) (s : Station W H) :
    Returns (nextCommand ports wait) s fun taken t =>
      Takes R Endpoint.countDepth s t taken := by
  refine ((jobless.flushFaults within).discard s).bind fun _ t flushed => ?_
  refine (jobless.awaitCommand within wait t).bind fun taken u there => ?_
  cases taken with
  | none =>
    refine ((jobless.flushFaults within).discard u).bind fun _ v again => ?_
    exact returns_pure (jobless.trans s u v (jobless.trans s t u flushed there) again)
  | some command =>
    obtain ⟨middle, rest, further, oldest, rfl⟩ := there
    exact ⟨_, _, rfl, middle, rest, jobless.trans s t middle flushed further, oldest, rfl⟩

end Within

/-! ## Processing a command -/

theorem countParseError : Act.Within R countParseError := jobless.modify fun _ => rfl

section Serving

variable (serving : ports.Serving R)

include serving

theorem respond (responder : Responder H) (command : Json) :
    Act.Ends R (respond ports responder command) := by
  have bookless := jobless.bookless
  have within := serving.toWithin
  cases responder with
  | direct handler => exact serving.handle handler command
  | diagnostics behind =>
    unfold CommandLink.respond answerDiagnostics
    dsimp only
    split
    next =>
      refine Within.ends (bookless.bind (bookless.diagnose within) fun diagnostics => ?_)
      exact (bookless.send within _ _).discard
    next =>
      cases behind with
      | none => exact (bookless.send within _ _).discard.ends
      | some handler => exact serving.handle handler command

theorem execute (command : Command) : Act.Ends R (execute ports command) := by
  have bookless := jobless.bookless
  have within := serving.toWithin
  refine Ends.bind jobless.trans bookless.endpoint.ends fun endpoint => ?_
  split
  next =>
    refine Within.ends (bookless.bind jobless.countParseError fun _ => ?_)
    exact bookless.bind (jobless.bookless.replyError within _ _) fun _ => bookless.pure _
  next =>
    cases Json.read command.payload with
    | error problem =>
      refine Within.ends (bookless.bind jobless.countParseError fun _ => ?_)
      exact bookless.bind (jobless.bookless.replyError within _ _) fun _ => bookless.pure _
    | ok parsed =>
      refine Ends.bind jobless.trans bookless.endpoint.ends fun endpoint => ?_
      cases endpoint.responder with
      | none =>
        exact Within.ends
          (bookless.bind (jobless.bookless.replyError within _ _) fun _ => bookless.pure _)
      | some responder =>
        exact Ends.bind jobless.trans (jobless.respond serving responder parsed) fun _ =>
          (bookless.pure _).ends

end Serving

end Jobless

/-! ## The four ways of a command -/

/-- The station with the priority flag up or down. -/
def Station.prioritized (up : Bool) (s : Station W H) : Station W H :=
  { s with endpoint := { s.endpoint with priority := up } }

/-- The station with one more command counted as processed. -/
def Station.countProcessed (s : Station W H) : Station W H :=
  { s with
    endpoint := s.endpoint.count fun c => { c with commandsProcessed := c.commandsProcessed + 1 } }

/-- The command has room in the reassembly, with its terminator. -/
def Endpoint.Holds (endpoint : Endpoint H) (command : Command) : Prop :=
  command.terminated.length ≤ endpoint.settings.reassemblyCapacity.toNat

instance (endpoint : Endpoint H) (command : Command) : Decidable (endpoint.Holds command) :=
  inferInstanceAs (Decidable (_ ≤ _))

namespace Act

variable {ports : Ports W H} {command : Command} {s t : Station W H}

theorem exec_processCommand (ports : Ports W H) (command : Command) (s : Station W H) :
    exec (processCommand ports command) s =
      exec (ensuring (fun endpoint => { endpoint with priority := false }) do
        let disposition ← execute ports command
        count fun c => { c with commandsProcessed := c.commandsProcessed + 1 }
        return disposition) (s.prioritized true) := rfl

theorem exec_processCommand_of_ok {disposition : Disposition}
    (executed : exec (execute ports command) (s.prioritized true) = (.ok disposition, t)) :
    exec (processCommand ports command) s =
      (.ok disposition, t.countProcessed.prioritized false) := by
  rw [exec_processCommand, exec_ensuring, exec_bind_of_ok executed]
  rfl

/-- The update of the count stands behind the handler, the end of the priority around it. -/
theorem exec_processCommand_of_error {crash : Crash}
    (executed : exec (execute ports command) (s.prioritized true) = (.error crash, t)) :
    exec (processCommand ports command) s = (.error crash, t.prioritized false) := by
  rw [exec_processCommand, exec_ensuring, exec_bind, executed]
  rfl

theorem exec_execute_of_oversize (large : ¬ s.endpoint.Holds command) :
    exec (execute ports command) s =
      exec (do
        countParseError
        replyError ports "Command too large" "parse"
        return Disposition.oversize) s := by
  show exec (if s.endpoint.settings.reassemblyCapacity.toNat < command.terminated.length
    then _ else _) s = _
  rw [if_pos (Nat.lt_of_not_le large)]

theorem exec_endpoint_bind {α : Type} (next : Endpoint H → Act W H α) (s : Station W H) :
    exec (endpoint >>= next) s = exec (next s.endpoint) s := rfl

variable (fits : s.endpoint.Holds command)

include fits

theorem exec_execute_of_problem {problem : Json.Problem}
    (read : Json.read command.payload = .error problem) :
    exec (execute ports command) s =
      exec (do
        countParseError
        replyError ports problem.message "parse"
        return Disposition.parseError) s := by
  show exec (if s.endpoint.settings.reassemblyCapacity.toNat < command.terminated.length
    then _ else _) s = _
  rw [if_neg (Nat.not_lt.mpr fits), read]

theorem exec_execute_of_unserved {parsed : Json} (read : Json.read command.payload = .ok parsed)
    (unserved : s.endpoint.responder = none) :
    exec (execute ports command) s =
      exec (do
        replyError ports "No command handler" "handler"
        return Disposition.noHandler) s := by
  show exec (if s.endpoint.settings.reassemblyCapacity.toNat < command.terminated.length
    then _ else _) s = _
  rw [if_neg (Nat.not_lt.mpr fits), read]
  change exec (endpoint >>= _) s = _
  rw [exec_endpoint_bind, unserved]

theorem exec_execute_of_served {parsed : Json} {responder : Responder H}
    (read : Json.read command.payload = .ok parsed)
    (served : s.endpoint.responder = some responder) :
    exec (execute ports command) s =
      exec (do
        respond ports responder parsed
        return Disposition.handled) s := by
  show exec (if s.endpoint.settings.reassemblyCapacity.toNat < command.terminated.length
    then _ else _) s = _
  rw [if_neg (Nat.not_lt.mpr fits), read]
  change exec (endpoint >>= _) s = _
  rw [exec_endpoint_bind, served]

end Act

end CommandLink
