import CommandLink.Proofs.CommandCount
import CommandLink.Proofs.FaultReports
import CommandLink.Proofs.JsonReading

/-!
# What becomes of a command

Three things can stand between a command and its handler, and the first of them decides: the
command has no room in the reassembly, it is not JSON, or nobody is there to handle it. In each
case the peer is told so, once, and no handler is called. If nothing stands between, the
processing is the call of the handler, with the priority flag up, and what is left of it is to
count the command and to lower the flag.
-/

namespace CommandLink

open Act

variable {W H : Type}

/-- No command was counted that could not be parsed. -/
def SameParsing (s t : Station W H) : Prop :=
  t.endpoint.counters.parseErrors = s.endpoint.counters.parseErrors

/-! ## Calls of handlers -/

/-- A call of a handler, and whether it saw the priority flag up. -/
structure Attendance (H : Type) where
  handler : H
  command : Json
  urgent : Bool

/-- The ports, with every call of a handler written down. -/
def Ports.attended (ports : Ports W H) : Ports (Recorded W (Attendance H)) H :=
  { ports.lifted with
    handle := fun handler command => do
      note [⟨handler, command, (← endpoint).priority⟩]
      lift (ports.handle handler command) }

/-- The handler to which a responder leaves a command. -/
def Responder.delegate? : Responder H → Json → Option H
  | .direct handler, _ => some handler
  | .diagnostics behind, command =>
    if (command.field? "type").bind Json.text? = some diagnosticsKind then none else behind

/-- No handler was called. -/
structure Unattended (s t : Station (Recorded W (Attendance H)) H) : Prop where
  diary : t.world.diary = s.world.diary
  parsing : SameParsing s t

theorem sameParsing_bookless : Bookless (SameParsing (W := W) (H := H)) where
  refl _ := rfl
  trans _ _ _ there further := Eq.trans further there
  books s endpoint same := by
    have parsing := congrArg (fun endpoint => endpoint.counters.parseErrors) same
    exact parsing

theorem unattended_bookless : Bookless (Unattended (W := W) (H := H)) where
  refl _ := ⟨rfl, rfl⟩
  trans s t u there further :=
    ⟨further.diary.trans there.diary,
      sameParsing_bookless.trans s t u there.parsing further.parsing⟩
  books s endpoint same := ⟨rfl, sameParsing_bookless.books s endpoint same⟩

theorem Ports.Within.attended {ports : Ports W H} (within : ports.Within SameParsing) :
    ports.attended.Within Unattended where
  notify bytes _ := (returns_lift (within.notify bytes _)).mono fun _ _ known => ⟨known.2, known.1⟩
  sleep time _ := (returns_lift (within.sleep time _)).mono fun _ _ known => ⟨known.2, known.1⟩
  freeBytes _ := (returns_lift (within.freeBytes _)).mono fun _ _ known => ⟨known.2, known.1⟩
  allocate pool size _ :=
    (returns_lift (within.allocate pool size _)).mono fun _ _ known => ⟨known.2, known.1⟩

/-- Stations on which the calls of handlers and those of the link are written down. -/
abbrev Attended (W H : Type) : Type := Station (Recorded (Recorded W (Attendance H)) Call) H

/-- What a responder does with a command that comes before it. -/
structure Served (responder : Responder H) (command : Json) (s t : Attended W H) : Prop where
  diary : t.world.world.diary = s.world.world.diary ++
    (responder.delegate? command).toList.map (⟨·, command, s.endpoint.priority⟩)
  parsing : SameParsing s t

/-- A responder that leaves a command to nobody answers by what it sends. -/
theorem served_of_within {responder : Responder H} {command : Json}
    (alone : responder.delegate? command = none)
    {act : Act (Recorded (Recorded W (Attendance H)) Call) H Unit}
    (within : Act.Within (fun s t : Attended W H => Unattended s.bare t.bare) act)
    (s : Attended W H) : Served responder command s (exec act s).2 := by
  have there := within.ends s
  have diary : (exec act s).2.world.world.diary = s.world.world.diary := there.diary
  exact ⟨by rw [alone, diary]; simp, there.parsing⟩

/-- A parse error is counted first. -/
theorem exec_countParseError_bind {α : Type} (act : Act W H α) (s : Station W H) :
    exec (do countParseError; act) s =
      exec act { s with
        endpoint := s.endpoint.count fun c => { c with parseErrors := c.parseErrors + 1 } } := rfl

section Serving

variable {ports : Ports W H} (serving : ports.Serving SameParsing)

include serving

theorem served_of_handle {responder : Responder H} {handler : H} {command : Json}
    (left : responder.delegate? command = some handler) (s : Attended W H) :
    Served responder command s (exec (ports.attended.logged.handle handler command) s).2 where
  diary := by
    rw [left]
    rfl
  parsing := serving.handle handler command ⟨s.endpoint, s.world.world.world⟩

theorem respond_served (responder : Responder H) (command : Json) (s : Attended W H) :
    Served responder command s (exec (respond ports.attended.logged responder command) s).2 := by
  have bookless := (unattended_bookless (W := W) (H := H)).bare
  have within := serving.toWithin.attended.bare
  cases responder with
  | direct handler => exact served_of_handle serving rfl s
  | diagnostics behind =>
    unfold respond answerDiagnostics
    dsimp only
    split
    next asked =>
      have alone : (Responder.diagnostics behind).delegate? command = none := if_pos asked
      refine served_of_within alone ?_ s
      exact bookless.bind (bookless.diagnose within) fun _ => (bookless.send within _ _).discard
    next other =>
      have left : (Responder.diagnostics behind).delegate? command = behind := if_neg other
      cases behind with
      | none => exact served_of_within left (bookless.send within _ _).discard s
      | some handler => exact served_of_handle serving left s

/-! ## Rejections -/

omit serving in
/-- A command is rejected: no handler is called, one error document is sent, and `blamed` commands
are counted that could not be parsed. -/
structure Rejected (message kind : String) (blamed : Nat) (s t : Attended W H) : Prop where
  diary : t.world.world.diary = s.world.world.diary
  parsing : t.endpoint.counters.parseErrors = s.endpoint.counters.parseErrors + blamed
  answered : ∃ result said,
    Speech maxChunk (Document.ofJson (Reply.error message kind)) none result said ∧
      t.world.diary.filterMap Call.told? =
        s.world.diary.filterMap Call.told? ++ said.map Utterance.told

/-- What rejects a command is the sending of the error, behind a count in the books. -/
theorem processCommand_rejected {message kind : String} {disposition : Disposition} {blamed : Nat}
    {command : Command} {s u : Attended W H}
    (executed : exec (execute ports.attended.logged command) (s.prioritized true) =
      exec (do replyError ports.attended.logged message kind; return disposition) u)
    (world : u.world = s.world)
    (counted : u.endpoint.counters.parseErrors = s.endpoint.counters.parseErrors + blamed) :
    let ended := exec (processCommand ports.attended.logged command) s
    ended.1 = .ok disposition ∧ Rejected message kind blamed s ended.2 := by
  intro ended
  obtain ⟨_, t, run, said, spoken, result, speech⟩ :=
    replyError_tells unattended_bookless serving.toWithin.attended message kind u
  have returned : exec (execute ports.attended.logged command) (s.prioritized true) =
      (.ok disposition, t) := by
    rw [executed, exec_bind_of_ok run]
    rfl
  have done : ended = _ := exec_processCommand_of_ok returned
  rw [done]
  have told := spoken.told
  have diary : t.world.world.diary = u.world.world.diary := spoken.within.diary
  rw [world] at told diary
  exact ⟨rfl, diary, Eq.trans spoken.within.parsing counted, result, said, speech, told⟩

end Serving

/-! ## The theorem -/

/-- What is left of the processing behind the call of a responder. -/
def concluded : Except Crash Unit × Station W H → Except Crash Disposition × Station W H
  | (.ok (), t) => (.ok .handled, t.countProcessed.prioritized false)
  | (.error crash, t) => (.error crash, t.prioritized false)

theorem processCommand_concluded {ports : Ports W H} {command : Command} {s : Station W H}
    {responder : Responder H} {parsed : Json}
    (calls : Calls command s.endpoint responder parsed) :
    exec (processCommand ports command) s =
      concluded (exec (respond ports responder parsed) (s.prioritized true)) := by
  have executed : exec (execute ports command) (s.prioritized true) = _ := execute_called calls
  cases called : exec (respond ports responder parsed) (s.prioritized true) with
  | mk result t =>
    rw [called] at executed
    cases result with
    | ok => exact exec_processCommand_of_ok executed
    | error crash => exact exec_processCommand_of_error executed

/-- The flag comes down however the processing ends. -/
theorem processCommand_priority (ports : Ports W H) (command : Command) (s : Station W H) :
    (exec (processCommand ports command) s).2.endpoint.priority = false := by
  rw [exec_processCommand, exec_ensuring]

/-- Whatever the command and the settings, and whatever the link takes of an answer. A command
without room is too large; if it has room but is no document that the reader accepts, that is a
parse error, and the peer is told the problem; if it is one and nobody handles commands, it has no
handler. In these cases no handler is called and one error document is sent, and a parse error is
counted in the first two. Otherwise the processing is one call of the responder, with what the
document says and the priority flag up: the command is handled when the responder returns, and a
crash goes through. The flag is down in the end. -/
theorem command_disposed_by_first_obstacle {ports : Ports W H}
    (serving : ports.Serving SameParsing) (command : Command) (s : Attended W H) :
    let document := Json.Grammar.Document False Json.maxDepth command.payload
    let ended := exec (processCommand ports.attended.logged command) s
    (¬ s.endpoint.Holds command →
      ended.1 = .ok .oversize ∧ Rejected "Command too large" "parse" 1 s ended.2) ∧
    (s.endpoint.Holds command →
      ((¬∃ parsed, document parsed) →
        ∃ problem, Json.read command.payload = .error problem ∧
          ended.1 = .ok .parseError ∧ Rejected problem.message "parse" 1 s ended.2) ∧
      ∀ parsed, document parsed →
        (s.endpoint.responder = none →
          ended.1 = .ok .noHandler ∧ Rejected "No command handler" "handler" 0 s ended.2) ∧
        ∀ responder, s.endpoint.responder = some responder →
          ended = concluded
            (exec (respond ports.attended.logged responder parsed) (s.prioritized true)) ∧
          ended.2.world.world.diary = s.world.world.diary ++
            (responder.delegate? parsed).toList.map (⟨·, parsed, true⟩) ∧
          SameParsing s ended.2) ∧
    ended.2.endpoint.priority = false := by
  intro document ended
  refine ⟨fun large => ?_, fun fits => ?_, processCommand_priority _ _ _⟩
  · have executed : exec (execute ports.attended.logged command) (s.prioritized true) = _ :=
      exec_execute_of_oversize large
    rw [exec_countParseError_bind] at executed
    exact processCommand_rejected serving executed rfl rfl
  have room : (s.prioritized true).endpoint.Holds command := fits
  refine ⟨fun senseless => ?_, fun parsed meant => ?_⟩
  · obtain ⟨problem, read⟩ := Json.exists_read_eq_error_iff.mpr senseless
    have executed : exec (execute ports.attended.logged command) (s.prioritized true) = _ :=
      exec_execute_of_problem room read
    rw [exec_countParseError_bind] at executed
    exact ⟨problem, read, processCommand_rejected serving executed rfl rfl⟩
  have read := Json.read_eq_ok_iff.mpr meant
  constructor
  · intro unserved
    have executed : exec (execute ports.attended.logged command) (s.prioritized true) = _ :=
      exec_execute_of_unserved room read unserved
    exact processCommand_rejected serving executed rfl rfl
  · intro responder served
    have done : ended = _ := processCommand_concluded ⟨fits, read, served⟩
    refine ⟨done, ?_⟩
    have called := respond_served serving responder parsed (s.prioritized true)
    rw [done]
    -- Neither the count of commands nor the flag is written down anywhere.
    generalize exec (respond ports.attended.logged responder parsed) (s.prioritized true) = run
      at called
    obtain ⟨result | result, t⟩ := run
    · exact ⟨called.diary, called.parsing⟩
    · exact ⟨called.diary, called.parsing⟩

theorem deafPorts_serving_parsing : deafPorts.behaving.Serving SameParsing :=
  sameParsing_bookless.behaving
    { notify := fun _ _ => ⟨_, _, rfl, rfl⟩
      sleep := fun _ _ => ⟨(), _, rfl, rfl⟩
      freeBytes := fun _ => ⟨_, _, rfl, rfl⟩
      allocate := fun _ _ _ => ⟨_, _, rfl, rfl⟩ }

/-- A handler whose response does not go out, and which then crashes: it was called once, with the
flag up, and the flag is down. -/
theorem command_disposed_by_first_obstacle_of_crashing_handler :
    let behave : Json → Behaviour := fun command =>
      .send (Document.ofJson command) none fun _ => .crash "handler blew up"
    let s : Attended Nat (Json → Behaviour) :=
      ⟨{ (Endpoint.fresh {} : Endpoint (Json → Behaviour)) with
          responder := some (.direct behave) }, { world := { world := 0 } }⟩
    let command : Command := ⟨Bytes.ofText "[true]"⟩
    let ended := exec (processCommand deafPorts.behaving.attended.logged command) s
    deafPorts.behaving.Serving SameParsing ∧ s.endpoint.Holds command ∧
      Json.Grammar.Document False Json.maxDepth command.payload (.list [.boolean true]) ∧
      ended.1 = .error ⟨"handler blew up"⟩ ∧
      ended.2.world.world.diary = [⟨behave, .list [.boolean true], true⟩] ∧
      ended.2.endpoint.priority = false := by
  intro behave s command ended
  have fits : s.endpoint.Holds command := by decide +kernel
  have meant : Json.Grammar.Document False Json.maxDepth command.payload (.list [.boolean true]) :=
    Json.read_eq_ok_iff.mp rfl
  obtain ⟨-, inside, priority⟩ :=
    command_disposed_by_first_obstacle deafPorts_serving_parsing command s
  obtain ⟨-, diary, -⟩ := ((inside fits).2 _ meant).2 _ rfl
  have crashed : ended.1 = .error ⟨"handler blew up"⟩ := by decide +kernel
  exact ⟨deafPorts_serving_parsing, fits, meant, crashed, diary, priority⟩

/-! ## Documents that are refused -/

namespace Json

/-- Empty lists in lists. -/
def nestedLists : Nat → Json
  | 0 => .list []
  | depth + 1 => .list [nestedLists depth]

namespace Grammar

/-- The grammar has no end to the depth of a document. -/
theorem value_nestedLists (lax : Prop) (depth : Nat) (rest : Bytes) :
    Value lax (depth + 1)
      (List.replicate (depth + 1) 0x5B ++ (List.replicate (depth + 1) 0x5D ++ rest))
      (nestedLists depth) rest := by
  induction depth generalizing rest with
  | zero => exact .list (.empty (.none _))
  | succ depth ih =>
    have inner := ih (0x5D :: rest)
    have closing : List.replicate (depth + 2) (0x5D : UInt8) ++ rest =
        List.replicate (depth + 1) 0x5D ++ 0x5D :: rest := by
      rw [List.replicate_succ', List.append_assoc, List.singleton_append]
    rw [closing]
    exact .list (.items (.none _) inner (.close (.none _)))

theorem document_of_value {lax : Prop} {depth : Nat} {bytes : Bytes} {value : Json}
    (derived : Value lax depth bytes value []) : Document lax depth bytes value :=
  ⟨bytes, [], .none _, derived, .none _⟩

theorem document_beyond_doubles :
    Document True 0 (Bytes.ofText "1e999") (.number (.integer 0)) := by
  apply document_of_value
  have digits : Power [0x39, 0x39, 0x39] (false, [0x39, 0x39, 0x39]) [] :=
    .digits [] (.none _) (by decide) (by unfold Digits; decide +kernel)
  have whole : Whole [0x31, 0x65, 0x39, 0x39, 0x39] [0x31] [0x65, 0x39, 0x39, 0x39] :=
    @Whole.run 0x31 [] _ rfl (by decide) nofun
  exact .beyond trivial (.none _) (.parts whole (.none _) (.some (.inl rfl) digits))

theorem document_of_lone_surrogate :
    Document True 0 (Bytes.ofText "\"\\ud800\"") (.text "\uFFFD") := by
  apply document_of_value
  have digits : HexUnit [0x64, 0x38, 0x30, 0x30, 0x22] 0xD800 [0x22] :=
    @HexUnit.digits 0x64 0x38 0x30 0x30 13 8 0 0 _ rfl rfl rfl rfl
  exact .text (.escape (.lone trivial digits (.inl (by unfold leading; decide))) (.close _))

end Grammar

end Json

/-- A text that nests 128 deep, a number beyond the doubles, and a surrogate without its partner
are JSON in form, and parse errors all the same, though a handler is there. And when that crashes,
the worker gives no disposition. -/
theorem documents_beyond_reader_refused :
    let station (behave : Json → Behaviour) : Station Nat (Json → Behaviour) :=
      ⟨{ (Endpoint.fresh {} : Endpoint (Json → Behaviour)) with
          responder := some (.direct behave) }, 0⟩
    let s := station fun _ => .done
    let nested : Bytes := List.replicate 128 0x5B ++ List.replicate 128 0x5D
    (∀ payload ∈ [nested, Bytes.ofText "1e999", Bytes.ofText "\"\\ud800\""],
      (∃ depth parsed, Json.Grammar.Document True depth payload parsed) ∧
        s.endpoint.Holds ⟨payload⟩ ∧
        (exec (processCommand deafPorts.behaving ⟨payload⟩) s).1 = .ok .parseError) ∧
    (exec (processCommand deafPorts.behaving ⟨Bytes.ofText "1"⟩)
      (station fun _ => .crash "handler blew up")).1 = .error ⟨"handler blew up"⟩ := by
  intro station s nested
  refine ⟨?_, by decide +kernel⟩
  simp only [List.forall_mem_cons, List.not_mem_nil, false_implies, implies_true, and_true]
  have deep : Json.Grammar.Document True 128 nested (Json.nestedLists 127) :=
    Json.Grammar.document_of_value (Json.Grammar.value_nestedLists True 127 [])
  refine ⟨⟨⟨_, _, deep⟩, ?_, ?_⟩, ⟨⟨_, _, Json.Grammar.document_beyond_doubles⟩, ?_, ?_⟩,
    ⟨⟨_, _, Json.Grammar.document_of_lone_surrogate⟩, ?_, ?_⟩⟩
  all_goals decide +kernel

end CommandLink
