import CommandLink.Endpoint.Processing
import CommandLink.Proofs.Markers

/-!
# Fault reports

The worker reports faults one after the other, until none is queued any more. Others may note
faults while a report goes out, and they are reported then, too. A report takes its fault off
the queue whether it goes out or not, and is counted in either case, so the count says how many
reports were tried.
-/

namespace CommandLink

open Act

variable {W H : Type}

/-! ## Reports -/

/-- What the peer is to be told of a fault. -/
def Fault.text (fault : Fault) : Bytes := (Reply.error fault.message fault.peerKind).serialize

/-- A report that was tried, with what was queued behind its fault when it was taken, and what
was queued when the report was over. -/
structure FaultReport where
  fault : Fault
  behind : List Fault
  result : Except SendError Unit
  said : List Utterance
  found : List Fault

namespace FaultReport

/-- The link took all pieces of the report and the end marker, before anything else was said. -/
def Complete (report : FaultReport) : Prop :=
  ∃ size busy, 0 < size ∧ (busy = [] ∨ Inline maxChunk "Transmission busy" "busy" busy) ∧
    report.said.map Utterance.told =
      (Bytes.pieces size report.fault.text ++ [endMarker]).map (·, .ok ()) ++
        busy.map Utterance.told

/-- The faults that were noted while the report went out, as long as nothing else became of the
queue. -/
def noted (report : FaultReport) : List Fault := report.found.drop report.behind.length

end FaultReport

/-- Reports that are made in a row, from a queue of faults until there is another one. Each is
made of the fault that is then in front. -/
inductive Flushed : List Fault → List FaultReport → List Fault → Prop where
  | done (queue) : Flushed queue [] queue
  | report {fault behind result said found reports last}
      (speech : Speech maxChunk (Document.ofJson (Reply.error fault.message fault.peerKind)) none
        result said)
      (further : Flushed found reports last) :
    Flushed (fault :: behind) (⟨fault, behind, result, said, found⟩ :: reports) last

theorem Speech.complete_of_ok {fault : Fault} {behind found : List Fault} {said : List Utterance}
    (speech : Speech maxChunk (Document.ofJson (Reply.error fault.message fault.peerKind)) none
      (.ok ()) said) : (⟨fault, behind, .ok (), said, found⟩ : FaultReport).Complete := by
  cases speech with
  | held course answer =>
    cases course with
    | told written positive small telling =>
      obtain rfl := Option.some.inj written
      refine ⟨_, _, positive, answer, ?_⟩
      rw [List.map_append, telling.told_of_ok]
      rfl

namespace Flushed

variable {queue last : List Fault} {reports : List FaultReport}

/-- What goes out is what the sends say that succeed. -/
theorem complete (flushed : Flushed queue reports last) :
    ∀ report ∈ reports, report.result = .ok () → report.Complete := by
  induction flushed with
  | done => exact nofun
  | report speech further ih =>
    rw [List.forall_mem_cons]
    refine ⟨?_, ih⟩
    rintro rfl
    exact speech.complete_of_ok

/-- When faults are only noted meanwhile, they are taken in the order in which they were. -/
theorem in_order (flushed : Flushed queue reports last)
    (noting : ∀ report ∈ reports, report.behind <+: report.found) :
    reports.map FaultReport.fault ++ last = queue ++ reports.flatMap FaultReport.noted := by
  induction flushed with
  | done => simp
  | @report fault behind result said found reports last speech further ih =>
    rw [List.forall_mem_cons] at noting
    -- What is noted during this report is behind the rest of the queue for all further ones.
    obtain ⟨noted, grown⟩ := noting.1
    change behind ++ noted = found at grown
    subst grown
    have here : FaultReport.noted ⟨fault, behind, result, said, behind ++ noted⟩ = noted :=
      List.drop_left
    rw [List.map_cons, List.cons_append, ih noting.2, List.flatMap_cons, here]
    simp

end Flushed

/-! ## The loop -/

/-- Meanwhile faults are only noted. -/
def Noting (s t : Station W H) : Prop := s.endpoint.faults.items <+: t.endpoint.faults.items

theorem noting_bookless : Bookless (Noting (W := W) (H := H)) where
  refl s := List.prefix_rfl
  trans s t u := List.IsPrefix.trans
  books s endpoint same := by
    have faults := congrArg Endpoint.faults same
    have items : endpoint.faults.items = s.endpoint.faults.items := congrArg Bounded.items faults
    change s.endpoint.faults.items <+: endpoint.faults.items
    exact ⟨[], by rw [List.append_nil, items]⟩

theorem Endpoint.noting_report (endpoint : Endpoint H) (fault : Fault) :
    endpoint.faults.items <+: (endpoint.report fault).2.faults.items := by
  unfold report
  split
  next faults room =>
    rw [Bounded.items_offer? _ _ _ room]
    exact List.prefix_append _ _
  next => exact List.prefix_rfl

/-- A report says what the sending of its text says. -/
theorem replyError_tells {R : Station W H → Station W H → Prop} (bookless : Bookless R)
    {ports : Ports W H} (within : ports.Within R) (message kind : String)
    (s : Station (Recorded W Call) H) :
    Tells R (replyError ports.logged message kind) s fun _ said => ∃ result,
      Speech maxChunk (Document.ofJson (Reply.error message kind)) none result said := by
  apply Returns.discard
  apply (bookless.send_tells within (fitting_maxChunk ports R s.bare)
    (Document.ofJson (Reply.error message kind)) none (bookless.refl _)).mono
  exact fun result said speech => ⟨result, speech⟩

section Loop

variable {ports : Ports W H} (back : ports.ComeBack)

include back

theorem replyError_said (message kind : String) (s : Station (Recorded W Call) H) :
    Returns (replyError ports.logged message kind) s fun _ t => ∃ result said,
      Speech maxChunk (Document.ofJson (Reply.error message kind)) none result said ∧
        t.world.diary.filterMap Call.told? =
          s.world.diary.filterMap Call.told? ++ said.map Utterance.told ∧
        (ports.Within Noting → Noting s t) := by
  obtain ⟨_, t, run, said, spoken, result, speech⟩ :=
    replyError_tells bookless_true back message kind s
  refine ⟨(), t, run, result, said, speech, spoken.told, fun noting => ?_⟩
  -- It is the same run, of which more is known when the ports only note faults.
  have told := replyError_tells noting_bookless noting message kind s
  obtain ⟨_, further, -⟩ := Returns.of_exec told run
  exact further.within

/-- By induction on the rounds that are left. The queue may be any other behind each report. -/
theorem flushFaultsWithin_flushed (rounds reported : Nat) (s : Station (Recorded W Call) H) :
    Returns (flushFaultsWithin ports.logged rounds reported) s fun n t => ∃ reports,
      n = reported + reports.length ∧
        Flushed s.endpoint.faults.items reports t.endpoint.faults.items ∧
        t.world.diary.filterMap Call.told? = s.world.diary.filterMap Call.told? ++
          (reports.flatMap FaultReport.said).map Utterance.told ∧
        (reports.length < rounds → t.endpoint.faults.items = []) ∧
        (ports.Within Noting → ∀ report ∈ reports, report.behind <+: report.found) := by
  induction rounds generalizing reported s with
  | zero => exact returns_pure ⟨[], rfl, .done _, by simp, nofun, fun _ => nofun⟩
  | succ rounds ih =>
    apply returns_step
    cases taken : s.endpoint.faults.take? with
    | none =>
      have empty := (Bounded.take?_eq_none_iff _).mp taken
      exact returns_pure ⟨[], rfl, .done _, by simp, fun _ => empty, fun _ => nofun⟩
    | some pair =>
      obtain ⟨fault, faults⟩ := pair
      have front := Bounded.items_take? _ _ _ taken
      apply (replyError_said back fault.message fault.peerKind _).bind
      rintro _ t ⟨result, said, speech, told, noting⟩
      apply (ih (reported + 1) t).mono
      rintro n u ⟨reports, rfl, flushed, further, empty, notings⟩
      refine ⟨⟨fault, faults.items, result, said, t.endpoint.faults.items⟩ :: reports, ?_, ?_, ?_,
        ?_, ?_⟩
      · rw [List.length_cons]
        omega
      · rw [front]
        exact .report speech flushed
      · rw [further, told, List.flatMap_cons, List.map_append, List.append_assoc]
      · intro left
        exact empty (Nat.lt_of_succ_lt_succ left)
      · intro only
        exact List.forall_mem_cons.mpr ⟨noting only, notings only⟩

end Loop

/-! ## The count -/

/-- Whatever is queued, and whatever the link, the memory and others do meanwhile: faults are
taken from the front of the queue until none is left, each is reported once, and the reports are
counted. Those whose sending succeeds go out completely, and the count is theirs only if it
succeeds for all. As long as others only note faults, they are taken in the order in which they
were noted. -/
theorem faults_tried_once_in_order {ports : Ports W H} (back : ports.ComeBack)
    (s : Station (Recorded W Call) H) :
    Returns (flushFaults ports.logged) s fun n t => ∃ reports : List FaultReport,
      n = reports.length ∧
        Flushed s.endpoint.faults.items reports t.endpoint.faults.items ∧
        t.world.diary.filterMap Call.told? = s.world.diary.filterMap Call.told? ++
          (reports.flatMap FaultReport.said).map Utterance.told ∧
        (n < ports.rounds → t.endpoint.faults.items = []) ∧
        (∀ report ∈ reports, report.result = .ok () → report.Complete) ∧
        (n = reports.countP (fun report => report.result = .ok ()) ↔
          ∀ report ∈ reports, report.result = .ok ()) ∧
        (ports.Within Noting →
          reports.map FaultReport.fault ++ t.endpoint.faults.items =
            s.endpoint.faults.items ++ reports.flatMap FaultReport.noted) := by
  apply (flushFaultsWithin_flushed back ports.rounds 0 s).mono
  rintro n t ⟨reports, counted, flushed, told, empty, noting⟩
  rw [Nat.zero_add] at counted
  subst counted
  refine ⟨reports, rfl, flushed, told, empty, flushed.complete, ?_, ?_⟩
  · rw [eq_comm, List.countP_eq_length]
    simp
  · exact fun only => flushed.in_order (noting only)

/-- Ports of a link that takes everything, on a device that notes a fault in its first pause. -/
def notingPorts : Ports Nat Empty :=
  { openPorts with
    sleep := fun time => do
      let clock ← world
      modifyWorld (· + time)
      modifyEndpoint fun endpoint => if clock = 0 then (endpoint.report .noMemory).2 else endpoint
    rounds := 8 }

theorem notingPorts_within : notingPorts.Within Noting where
  notify _ := within_pure noting_bookless.refl _
  sleep time s := by
    refine ⟨(), _, rfl, ?_⟩
    change s.endpoint.faults.items <+:
      (if s.world = 0 then (s.endpoint.report .noMemory).2 else s.endpoint).faults.items
    split
    next => exact s.endpoint.noting_report .noMemory
    next => exact List.prefix_rfl
  freeBytes := within_pure noting_bookless.refl _
  allocate _ _ := within_pure noting_bookless.refl _

/-- A fault that is noted while another one is reported is reported behind it. -/
theorem faults_tried_once_in_order_with_later_fault :
    let s : Station (Recorded Nat Call) Empty :=
      ⟨((Endpoint.fresh {}).report .overflow).2, { world := 0 }⟩
    notingPorts.ComeBack ∧ notingPorts.Within Noting ∧
      (exec (flushFaults notingPorts.logged) s).1 = .ok 2 ∧
      Returns (flushFaults notingPorts.logged) s fun n t => n = 2 ∧ t.endpoint.faults.items = [] ∧
        ∃ reports : List FaultReport, reports.length = 2 ∧
          Flushed [.overflow] reports [] ∧
          reports.map FaultReport.fault = .overflow :: reports.flatMap FaultReport.noted := by
  intro s
  have back := notingPorts_within.comeBack
  have ended : (exec (flushFaults notingPorts.logged) s).1 = .ok 2 := by decide +kernel
  refine ⟨back, notingPorts_within, ended, ?_⟩
  obtain ⟨n, t, run, reports, counted, flushed, -, empty, -, -, order⟩ :=
    faults_tried_once_in_order back s
  rw [run] at ended
  obtain rfl := Except.ok.inj ended
  have none := empty (by decide)
  have inOrder := order notingPorts_within
  rw [none] at flushed inOrder
  rw [List.append_nil] at inOrder
  exact ⟨2, t, run, rfl, none, reports, counted.symm, flushed, inOrder⟩

/-- A report that the link does not take is counted all the same. -/
theorem unheard_report_counted :
    let ports : Ports Nat Empty :=
      { openPorts with notify := fun _ => return .error .notConnected, rounds := 8 }
    let s : Station (Recorded Nat Call) Empty :=
      ⟨((Endpoint.fresh {}).report .overflow).2, { world := 0 }⟩
    (exec (flushFaults ports.logged) s).1 = .ok 1 ∧
      ∀ told ∈ (exec (flushFaults ports.logged) s).2.world.diary.filterMap Call.told?,
        told.2 = .error .notConnected := by
  decide +kernel

end CommandLink
