import CommandLink.Proofs.Interruption
import CommandLink.Proofs.WorkingApart

/-!
# Which commands are counted as processed

The count goes up behind the processing of a command, and nowhere else. So a command that the
worker takes off the queue is counted once whatever became of it, unless its handler crashes:
the crash goes past the count, and the command is gone from the queue and counted nowhere.

What a handler does with a command is a `Behaviour`: it sends documents, looks at what came of
each, and returns or crashes in the end. None of this touches the count.
-/

namespace CommandLink

open Act

variable {W H : Type}

/-- No command was counted as processed. -/
def SameProcessed (s t : Station W H) : Prop :=
  t.endpoint.counters.commandsProcessed = s.endpoint.counters.commandsProcessed

/-- One command was counted as processed. -/
def OneProcessed (s t : Station W H) : Prop :=
  t.endpoint.counters.commandsProcessed = s.endpoint.counters.commandsProcessed + 1

theorem sameProcessed_jobless : Jobless (SameProcessed (W := W) (H := H)) where
  refl _ := rfl
  trans _ _ _ there further := Eq.trans further there
  jobs s endpoint same := by
    have counted := congrArg (fun endpoint => endpoint.counters.commandsProcessed) same
    exact counted

theorem SameProcessed.oneProcessed {s t u : Station W H} (there : SameProcessed s t)
    (counted : OneProcessed t u) : OneProcessed s u := by
  unfold SameProcessed OneProcessed at *
  rw [counted, there]

/-! ## Handlers -/

/-- What a handler does with a command. -/
inductive Behaviour where
  | done
  | crash (message : String)
  /-- Send a document, and go on by what comes of it. -/
  | send (document : Document) (activity : Option Activity)
    (next : Except SendError Unit → Behaviour)

def Behaviour.run (ports : Ports W H) : Behaviour → Act W H Unit
  | .done => pure ()
  | .crash message => throw ⟨message⟩
  | .send document activity next => do
    let result ← CommandLink.send ports document activity
    (next result).run ports

/-- The ports with handlers that behave. -/
def Ports.behaving (ports : Ports W (Json → Behaviour)) : Ports W (Json → Behaviour) :=
  { ports with handle := fun behave command => (behave command).run ports }

/-- A handler does no more than sending does, however it ends. -/
theorem Bookless.behaviour {R : Station W H → Station W H → Prop} (bookless : Bookless R)
    {ports : Ports W H} (within : ports.Within R) (behaviour : Behaviour) :
    Ends R (behaviour.run ports) := by
  induction behaviour with
  | done => exact (bookless.pure ()).ends
  | crash message => exact fun s => bookless.refl s
  | send document activity next ih =>
    exact (bookless.send within document activity).ends.bind bookless.trans ih

theorem Bookless.behaving {R : Station W (Json → Behaviour) → Station W (Json → Behaviour) → Prop}
    (bookless : Bookless R) {ports : Ports W (Json → Behaviour)} (within : ports.Within R) :
    ports.behaving.Serving R where
  toWithin := ⟨within.notify, within.sleep, within.freeBytes, within.allocate⟩
  handle behave command := bookless.behaviour within (behave command)

/-! ## Crashes -/

/-- The command comes before a responder, with what it says. -/
def Calls (command : Command) (endpoint : Endpoint H) (responder : Responder H) (parsed : Json) :
    Prop :=
  endpoint.Holds command ∧ Json.read command.payload = .ok parsed ∧
    endpoint.responder = some responder

/-- The responder before which the command comes crashes. -/
def CallCrashes (ports : Ports W H) (command : Command) (s : Station W H) (crash : Crash) : Prop :=
  ∃ responder parsed, Calls command s.endpoint responder parsed ∧
    (exec (respond ports responder parsed) s).1 = .error crash

section Crash

variable {ports : Ports W H} (back : ports.ComeBack) {command : Command} {s : Station W H}

include back

/-- A command that comes before no responder is answered by an error document, and that is all. -/
theorem execute_returns_of_uncalled
    (uncalled : ∀ responder parsed, ¬ Calls command s.endpoint responder parsed) :
    Returns (execute ports command) s fun _ _ => True := by
  have replied (message kind : String) (disposition : Disposition) :
      Within (fun _ _ => True) (do replyError ports message kind; return disposition) :=
    bookless_true.bind (bookless_true.send back _ _).discard fun _ => bookless_true.pure disposition
  have counted : Within (fun _ _ => True) (countParseError : Act W H Unit) :=
    within_modifyEndpoint fun _ => trivial
  have blamed (message kind : String) (disposition : Disposition) :
      Within (fun _ _ => True) (do
        countParseError
        replyError ports message kind
        return disposition) :=
    bookless_true.bind counted fun _ => replied message kind disposition
  unfold Returns
  by_cases fits : s.endpoint.Holds command
  · cases read : Json.read command.payload with
    | error problem =>
      rw [exec_execute_of_problem fits read]
      exact blamed problem.message "parse" .parseError s
    | ok parsed =>
      -- The command is JSON and has room, so that only a responder is missing.
      have unserved : s.endpoint.responder = none := by
        rw [Option.eq_none_iff_forall_ne_some]
        exact fun responder served => uncalled responder parsed ⟨fits, read, served⟩
      rw [exec_execute_of_unserved fits read unserved]
      exact replied "No command handler" "handler" .noHandler s
  · rw [exec_execute_of_oversize fits]
    exact blamed "Command too large" "parse" .oversize s

omit back in
theorem execute_called {responder : Responder H} {parsed : Json}
    (calls : Calls command s.endpoint responder parsed) :
    exec (execute ports command) s =
      ((exec (respond ports responder parsed) s).1.map fun _ => .handled,
        (exec (respond ports responder parsed) s).2) := by
  rw [exec_execute_of_served calls.1 calls.2.1 calls.2.2]
  exact exec_map (fun _ => Disposition.handled) _ s

/-- Nothing but a responder crashes. -/
theorem execute_crash_iff (crash : Crash) :
    (exec (execute ports command) s).1 = .error crash ↔ CallCrashes ports command s crash := by
  constructor
  · intro crashed
    by_cases called : ∃ responder parsed, Calls command s.endpoint responder parsed
    · obtain ⟨responder, parsed, calls⟩ := called
      refine ⟨responder, parsed, calls, ?_⟩
      rw [execute_called calls] at crashed
      -- What the command comes to does not turn a return into a crash.
      cases ended : (exec (respond ports responder parsed) s).1 with
      | ok => simp [ended, Except.map] at crashed
      | error other => simpa [ended, Except.map] using crashed
    · have uncalled := not_exists.mp called
      obtain ⟨disposition, after, returned, -⟩ := execute_returns_of_uncalled back
        fun responder => not_exists.mp (uncalled responder)
      rw [returned] at crashed
      nomatch crashed
  · rintro ⟨responder, parsed, calls, crashed⟩
    rw [execute_called calls, crashed]
    rfl

end Crash

/-! ## The theorem -/

/-- What becomes of a command that was taken off the queue. -/
theorem processCommand_counted {ports : Ports W H} (serving : ports.Serving SameProcessed)
    (command : Command) (s : Station W H) :
    let ended := exec (processCommand ports command) s
    (∀ crash, CallCrashes ports command (s.prioritized true) crash →
      ended.1 = .error crash ∧ SameProcessed s ended.2) ∧
    ((∀ crash, ¬ CallCrashes ports command (s.prioritized true) crash) →
      (∃ disposition, ended.1 = .ok disposition) ∧ OneProcessed s ended.2) := by
  intro ended
  have back := serving.toWithin.comeBack
  have executed : SameProcessed s (exec (execute ports command) (s.prioritized true)).2 :=
    sameProcessed_jobless.execute serving command (s.prioritized true)
  have crashes (crash : Crash) : (exec (execute ports command) (s.prioritized true)).1 =
      .error crash ↔ CallCrashes ports command (s.prioritized true) crash :=
    execute_crash_iff back crash
  cases run : exec (execute ports command) (s.prioritized true) with
  | mk result after =>
    rw [run] at executed
    simp only [run] at crashes
    cases result with
    | ok disposition =>
      have counted : ended = _ := exec_processCommand_of_ok run
      rw [counted]
      constructor
      · exact fun crash called => nomatch (crashes crash).mpr called
      · exact fun _ => ⟨⟨disposition, rfl⟩, congrArg (· + 1) executed⟩
    | error crash =>
      have uncounted : ended = _ := exec_processCommand_of_error run
      rw [uncounted]
      constructor
      · exact fun other called => ⟨(crashes other).mpr called, executed⟩
      · exact fun never => absurd ((crashes crash).mp rfl) (never crash)

/-- Whatever the worker waits for, whatever handlers send, and whatever comes of it: when it takes
a command off the queue, which is then the oldest one, the command is counted once as processed,
unless the handler that is called with it crashes. Then the crash is all that comes of it, and the
command is not counted. When it takes none, nothing is counted. -/
theorem taken_command_counted_unless_handler_crashes {ports : Ports W H}
    (serving : ports.Serving SameProcessed) (wait : Nat) (s : Station W H) :
    let ended := exec (processNext ports wait) s
    Returns (nextCommand ports wait) s fun taken middle =>
      Takes SameProcessed Endpoint.countDepth s middle taken ∧
      match taken with
      | none => ended = (.ok none, middle) ∧ SameProcessed s ended.2
      | some command =>
        (∀ crash, CallCrashes ports command (middle.prioritized true) crash →
          ended.1 = .error crash ∧ SameProcessed s ended.2) ∧
        ((∀ crash, ¬ CallCrashes ports command (middle.prioritized true) crash) →
          (∃ disposition, ended.1 = .ok (some disposition)) ∧ OneProcessed s ended.2) := by
  intro ended
  obtain ⟨taken, middle, run, took⟩ := sameProcessed_jobless.nextCommand serving.toWithin wait s
  refine ⟨taken, middle, run, took, ?_⟩
  cases taken with
  | none =>
    have nothing : ended = (.ok none, middle) := exec_bind_of_ok run _
    exact ⟨nothing, nothing ▸ took⟩
  | some command =>
    have apart : SameProcessed s middle := by
      obtain ⟨before, rest, there, -, rfl⟩ := took
      exact there
    have processed : ended = ((exec (processCommand ports command) middle).1.map some,
        (exec (processCommand ports command) middle).2) :=
      (exec_bind_of_ok run _).trans (exec_map some _ middle)
    obtain ⟨crashed, counted⟩ := processCommand_counted serving command middle
    dsimp only
    rw [processed]
    constructor
    · intro crash called
      obtain ⟨ends, uncounted⟩ := crashed crash called
      rw [ends]
      exact ⟨rfl, sameProcessed_jobless.trans s middle _ apart uncounted⟩
    · intro never
      obtain ⟨⟨disposition, ends⟩, once⟩ := counted never
      rw [ends]
      exact ⟨⟨disposition, rfl⟩, apart.oneProcessed once⟩

/-- Ports of a link that takes nothing, for handlers that behave. -/
def deafPorts : Ports Nat (Json → Behaviour) where
  notify _ := return .error .notConnected
  requestMtu _ := return .error .notConnected
  restartAdvertising := pure ()
  mtu _ := UInt16.ofNat defaultMtu
  now clock := clock
  sleep time := modifyWorld (· + time)
  randomBelow _ := return 0
  freeBytes := return 262144
  minFreeBytes _ := 0
  allocate _ _ := return true
  handle _ _ := pure ()
  hasTelemetry _ := false
  nextTelemetry := return none
  rounds := 8

theorem deafPorts_serving : deafPorts.behaving.Serving SameProcessed :=
  sameProcessed_jobless.bookless.behaving
    { notify := fun _ _ => ⟨_, _, rfl, rfl⟩
      sleep := fun _ _ => ⟨(), _, rfl, rfl⟩
      freeBytes := fun _ => ⟨_, _, rfl, rfl⟩
      allocate := fun _ _ _ => ⟨_, _, rfl, rfl⟩ }

/-- A station with one command in the queue, for this handler. -/
def Station.awaiting (behave : Json → Behaviour) : Station Nat (Json → Behaviour) :=
  ⟨{ (Endpoint.fresh {} : Endpoint (Json → Behaviour)) with
      commands := ⟨[⟨Bytes.ofText "1"⟩], by decide⟩
      responder := some (.direct behave) }, 0⟩

/-- A handler whose response does not go out sends an error instead, which does not go out
either; the command is counted. -/
theorem taken_command_counted_unless_handler_crashes_of_failing_responses :
    let s := Station.awaiting fun command =>
      .send (Document.ofJson command) (some .configDownload) fun _ =>
        .send (Document.ofJson (Reply.error "Not sent" "link")) none fun _ => .done
    let ended := exec (processNext deafPorts.behaving 0) s
    ended.1 = .ok (some .handled) ∧ OneProcessed s ended.2 := by
  intro s ended
  obtain ⟨taken, middle, run, -, outcome⟩ :=
    taken_command_counted_unless_handler_crashes deafPorts_serving 0 s
  have handled : ended.1 = .ok (some .handled) := by decide +kernel
  have found : (exec (nextCommand deafPorts.behaving 0) s).1 = .ok (some ⟨Bytes.ofText "1"⟩) := by
    decide +kernel
  rw [run] at found
  obtain rfl := Except.ok.inj found
  obtain ⟨crashed, counted⟩ := outcome
  refine ⟨handled, (counted fun crash called => ?_).2⟩
  have ends : ended.1 = .error crash := (crashed crash called).1
  rw [handled] at ends
  nomatch ends

/-- A handler that crashes when its response has not gone out: the command is taken off the queue
and not counted. -/
theorem crashed_command_uncounted :
    let s := Station.awaiting fun command =>
      .send (Document.ofJson command) (some .configDownload) fun
        | .ok () => .done
        | .error _ => .crash "handler blew up"
    let ended := exec (processNext deafPorts.behaving 0) s
    ended.1 = .error ⟨"handler blew up"⟩ ∧ s.endpoint.commands.size = 1 ∧
      ended.2.endpoint.commands.size = 0 ∧
      ended.2.endpoint.counters.commandsProcessed = 0 := by
  decide +kernel

end CommandLink
