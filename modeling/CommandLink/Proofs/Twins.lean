import CommandLink.Endpoint.Lifecycle
import CommandLink.Endpoint.Processing
import CommandLink.Proofs.FragmentList
import CommandLink.Proofs.Inbound
import CommandLink.Proofs.SendingAlike

/-!
# What a history leaves behind unseen

Two endpoints are twins when one is the other with some more epochs behind it, with other
bytes behind the cursor of its buffer, and perhaps with another request to cancel that nobody
has looked at. Nothing an endpoint does depends on these, so twins stay twins, and come to
the same results, through all procedures.

Epochs are only ever compared. A token of one twin is the other's token, so many epochs on.
-/

namespace CommandLink

open Act

namespace Negotiation

/-! ## Epochs further on -/

def Control.further (shift : UInt32) (control : Control) : Control :=
  { control with epoch := control.epoch + shift }

def Expired.further (shift : UInt32) (token : Expired) : Expired := ⟨token.epoch + shift⟩

def Verdict.further (shift : UInt32) : Verdict → Verdict
  | .expired token => .expired (token.further shift)
  | other => other

namespace Control

variable (shift : UInt32) (control : Control)

theorem add_one_further (epoch : UInt32) : epoch + shift + 1 = epoch + 1 + shift := by
  rw [UInt32.add_assoc, UInt32.add_comm shift, ← UInt32.add_assoc]

theorem restart_further (now : Nat) :
    (control.further shift).restart now = (control.restart now).further shift :=
  congrArg (Control.mk _ _) (add_one_further shift control.epoch)

theorem stop_further : (control.further shift).stop = control.stop.further shift :=
  congrArg (Control.mk _ _) (add_one_further shift control.epoch)

theorem honours_further (token : Expired) :
    (control.further shift).honours (token.further shift) = control.honours token := by
  have epochs : (control.epoch + shift == token.epoch + shift) = (control.epoch == token.epoch) := by
    rw [Bool.eq_iff_iff, beq_iff_eq, beq_iff_eq]
    exact UInt32.add_left_inj shift
  simp only [honours, further, Expired.further, epochs]

theorem requested_further (epoch : UInt32) :
    (control.further shift).requested (epoch + shift) = (control.requested epoch).further shift := by
  simp only [requested, further, UInt32.add_left_inj]
  split <;> rfl

theorem poll_further (now timeout : Nat) (mtu : UInt16) :
    (control.further shift).poll now timeout mtu =
      ((control.poll now timeout mtu).1.further shift,
        (control.poll now timeout mtu).2.further shift) := by
  by_cases negotiating : control.state.negotiating = true
  · simp only [poll, further, negotiating, if_true]
    cases control.state.observe mtu with
    | completed agreed => rfl
    | _ => cases control.state.expire now timeout <;> rfl
  · by_cases timeout : control.state = .timeout
    · simp [poll, further, timeout, LinkState.negotiating, Verdict.further, Expired.further]
    · simp [poll, further, negotiating, timeout, Verdict.further]

theorem judge_further (token : Expired) (maxRetries : Nat) (fallback : UInt16) :
    (control.further shift).judge (token.further shift) maxRetries fallback =
      ((control.judge token maxRetries fallback).1,
        (control.judge token maxRetries fallback).2.further shift) := by
  simp only [judge, honours_further]
  split
  next => rfl
  next =>
    change (if maxRetries ≤ control.retries then _ else _) = _
    split <;> rfl

theorem resume?_further (token : Expired) (now : Nat) :
    (control.further shift).resume? (token.further shift) now =
      (control.resume? token now).map (further shift) := by
  simp only [resume?, honours_further]
  split <;> rfl

end Control

end Negotiation

open Negotiation

/-! ## Twins -/

namespace Endpoint

variable {H : Type}

/-- The endpoint with the remains of another history. -/
def veiled (shift : UInt32) (reassembly : Reassembly) (cancelRequested : Bool)
    (endpoint : Endpoint H) : Endpoint H :=
  { endpoint with
    negotiation := endpoint.negotiation.further shift, reassembly, cancelRequested }

theorem settle_veiled (outcome : Reassembly.Outcome) (endpoint : Endpoint H) (shift : UInt32)
    (reassembly : Reassembly) (cancelRequested : Bool) :
    (endpoint.veiled shift reassembly cancelRequested).settle outcome =
      (endpoint.settle outcome).veiled shift reassembly
        (if outcome = .cancelled then true else cancelRequested) := by
  cases outcome with
  | overflow error =>
    simp only [settle, report, veiled, Endpoint.count, reduceCtorEq, if_false]
    cases endpoint.faults.offer? .overflow <;> rfl
  | allocFailed length =>
    simp only [settle, report, veiled, reduceCtorEq, if_false]
    cases endpoint.faults.offer? .noMemory <;> rfl
  | complete command =>
    simp only [settle, dispatch, veiled, reduceCtorEq, if_false]
    cases endpoint.commands.offer? command <;> rfl
  | _ => rfl

theorem settle_remains (outcome : Reassembly.Outcome) (endpoint : Endpoint H) :
    (endpoint.settle outcome).reassembly = endpoint.reassembly ∧
      (endpoint.settle outcome).cancelRequested =
        if outcome = .cancelled then true else endpoint.cancelRequested := by
  cases outcome with
  | overflow error =>
    simp only [settle, report, Endpoint.count, reduceCtorEq, if_false]
    cases endpoint.faults.offer? .overflow <;> exact ⟨rfl, rfl⟩
  | allocFailed length =>
    simp only [settle, report, reduceCtorEq, if_false]
    cases endpoint.faults.offer? .noMemory <;> exact ⟨rfl, rfl⟩
  | complete command =>
    simp only [settle, dispatch, reduceCtorEq, if_false]
    cases endpoint.commands.offer? command <;> exact ⟨rfl, rfl⟩
  | _ => exact ⟨rfl, rfl⟩

/-- The endpoint that knows of a fragment, before anything is done about it. -/
def taken (endpoint : Endpoint H) (length : Nat) (stale : Bool) (reassembly : Reassembly) :
    Endpoint H :=
  if stale then
    { endpoint.countFragment length with reassembly }.count fun c =>
      { c with staleClears := c.staleClears + 1 }
  else
    { endpoint.countFragment length with reassembly }

theorem receive_eq_settle (endpoint : Endpoint H) (refuses : Nat → Bool) (fragment : Bytes)
    (now : Nat) :
    endpoint.receive refuses fragment now =
      let pushed := endpoint.reassembly.push refuses fragment now
      (pushed.1.outcome, (endpoint.taken fragment.length pushed.1.stale pushed.2).settle
        pushed.1.outcome) := rfl

theorem taken_veiled (endpoint : Endpoint H) (length : Nat) (stale : Bool) (shift : UInt32)
    (before mine theirs : Reassembly) (cancelRequested : Bool) :
    (endpoint.veiled shift before cancelRequested).taken length stale theirs =
      (endpoint.taken length stale mine).veiled shift theirs cancelRequested := by
  cases stale <;> rfl

theorem taken_remains (endpoint : Endpoint H) (length : Nat) (stale : Bool)
    (reassembly : Reassembly) :
    (endpoint.taken length stale reassembly).reassembly = reassembly ∧
      (endpoint.taken length stale reassembly).cancelRequested = endpoint.cancelRequested := by
  cases stale <;> exact ⟨rfl, rfl⟩

/-- Endpoints that cannot be told from each other. Close ones agree also on whether a request
to cancel is waiting. -/
inductive Twins (close : Prop) (shift : UInt32) (a : Endpoint H) : Endpoint H → Prop where
  | mk (reassembly : Reassembly) (cancelRequested : Bool) (list : FragmentList)
      (mine : list.Mirrors a.reassembly) (other : list.Mirrors reassembly)
      (cancel : close → cancelRequested = a.cancelRequested) :
    Twins close shift a (a.veiled shift reassembly cancelRequested)

namespace Twins

variable {close : Prop} {shift : UInt32} {a b : Endpoint H}

theorem loosen (twins : Twins True shift a b) (close : Prop) : Twins close shift a b := by
  obtain ⟨reassembly, cancelRequested, list, mine, other, cancel⟩ := twins
  exact ⟨reassembly, cancelRequested, list, mine, other, fun _ => cancel trivial⟩

/-- Whoever looks at no remains sees the same in both. -/
theorem looks {α : Type} (twins : Twins close shift a b) (look : Endpoint H → α)
    (blind : ∀ reassembly cancelRequested,
      look (a.veiled shift reassembly cancelRequested) = look a) : look a = look b := by
  obtain ⟨buffer, waiting, -⟩ := twins
  exact (blind buffer waiting).symm

theorem cancelled (twins : Twins True shift a b) : a.cancelRequested = b.cancelRequested := by
  obtain ⟨buffer, waiting, list, mine, theirs, agreed⟩ := twins
  exact (agreed trivial).symm

/-- A request to cancel that is replaced in both is the same from then on. -/
theorem cancel (twins : Twins close shift a b) (closer : Prop) (cancelRequested : Bool) :
    Twins closer shift { a with cancelRequested } { b with cancelRequested } := by
  obtain ⟨buffer, waiting, list, mine, theirs, -⟩ := twins
  exact ⟨buffer, cancelRequested, list, mine, theirs, fun _ => rfl⟩

/-- A step that has no eye for the remains. What it returns may hold a number of an epoch. -/
theorem step {α : Type} (twins : Twins close shift a b) (change other : Endpoint H → α × Endpoint H)
    (further : α → α)
    (blind : ∀ reassembly cancelRequested,
      other (a.veiled shift reassembly cancelRequested) =
        (further (change a).1, (change a).2.veiled shift reassembly cancelRequested))
    (reassembly : (change a).2.reassembly = a.reassembly)
    (cancel : (change a).2.cancelRequested = a.cancelRequested) :
    (other b).1 = further (change a).1 ∧ Twins close shift (change a).2 (other b).2 := by
  obtain ⟨buffer, waiting, list, mine, theirs, agreed⟩ := twins
  rw [blind]
  refine ⟨rfl, buffer, waiting, list, ?_, theirs, ?_⟩
  · rw [reassembly]
    exact mine
  · rw [cancel]
    exact agreed

theorem change (twins : Twins close shift a b) (change : Endpoint H → Endpoint H)
    (blind : ∀ reassembly cancelRequested,
      change (a.veiled shift reassembly cancelRequested) =
        (change a).veiled shift reassembly cancelRequested)
    (reassembly : (change a).reassembly = a.reassembly)
    (cancel : (change a).cancelRequested = a.cancelRequested) :
    Twins close shift (change a) (change b) :=
  (twins.step (fun endpoint => ((), change endpoint)) (fun endpoint => ((), change endpoint)) id
    (fun buffer waiting => congrArg (Prod.mk ()) (blind buffer waiting)) reassembly cancel).2

theorem count (twins : Twins close shift a b) (add : Counters → Counters) :
    Twins close shift (a.count add) (b.count add) :=
  twins.change (·.count add) (fun _ _ => rfl) rfl rfl

/-! ### Steps of the negotiation -/

theorem restart (twins : Twins close shift a b) (now : Nat) :
    (b.restart now).1 = (a.restart now).1 + shift ∧
      Twins close shift (a.restart now).2 (b.restart now).2 := by
  apply twins.step (·.restart now) (·.restart now) (· + shift) _ rfl rfl
  intro buffer waiting
  simp only [Endpoint.restart, veiled, Control.restart_further]
  rfl

theorem stop (twins : Twins close shift a b) : Twins close shift a.stop b.stop := by
  apply twins.change (·.stop) _ rfl rfl
  intro buffer waiting
  simp only [Endpoint.stop, veiled, Control.stop_further]

theorem requested (twins : Twins close shift a b) (epoch : UInt32) :
    Twins close shift (a.requested epoch) (b.requested (epoch + shift)) := by
  apply (twins.step (fun e => ((), e.requested epoch)) (fun e => ((), e.requested (epoch + shift)))
    id _ rfl rfl).2
  intro buffer waiting
  simp only [Endpoint.requested, veiled, Control.requested_further]

theorem poll (twins : Twins close shift a b) (now : Nat) (mtu : UInt16) :
    (b.poll now mtu).1 = (a.poll now mtu).1.further shift ∧
      Twins close shift (a.poll now mtu).2 (b.poll now mtu).2 := by
  apply twins.step (·.poll now mtu) (·.poll now mtu) (Verdict.further shift)
  · intro buffer waiting
    simp only [Endpoint.poll, veiled, Control.poll_further]
    cases (a.negotiation.poll now a.settings.attemptTimeout.toNat mtu).1 with
    | expired token =>
      -- It counts as a timeout only if an attempt is under way, in either twin.
      by_cases negotiating : a.state.negotiating = true
      · have other : (a.veiled shift buffer waiting).state.negotiating = true := negotiating
        simp only [veiled] at other
        simp only [Verdict.further, negotiating, other, if_true]
        rfl
      · have other : ¬(a.veiled shift buffer waiting).state.negotiating = true := negotiating
        simp only [veiled] at other
        simp only [Verdict.further, negotiating, other]
        rfl
    | _ => rfl
  · unfold Endpoint.poll
    dsimp only
    split
    next => rfl
    next => rfl
    next => rfl
    next => split <;> rfl
  · unfold Endpoint.poll
    dsimp only
    split
    next => rfl
    next => rfl
    next => rfl
    next => split <;> rfl

theorem judge (twins : Twins close shift a b) (token : Expired) :
    (b.judge (token.further shift)).1 = (a.judge token).1 ∧
      Twins close shift (a.judge token).2 (b.judge (token.further shift)).2 := by
  apply twins.step (·.judge token) (·.judge (token.further shift)) id
  · intro buffer waiting
    simp only [Endpoint.judge, veiled, Control.judge_further]
    cases (a.negotiation.judge token a.settings.maxRetries.toNat a.settings.fallbackUnit).1 <;> rfl
  · unfold Endpoint.judge
    dsimp only
    split <;> rfl
  · unfold Endpoint.judge
    dsimp only
    split <;> rfl

theorem resume (twins : Twins close shift a b) (token : Expired) (now : Nat) :
    (b.resume (token.further shift) now).1 = (a.resume token now).1 ∧
      Twins close shift (a.resume token now).2 (b.resume (token.further shift) now).2 := by
  apply twins.step (·.resume token now) (·.resume (token.further shift) now) id
  · intro buffer waiting
    simp only [Endpoint.resume, veiled, Control.resume?_further]
    cases a.negotiation.resume? token now <;> rfl
  · unfold Endpoint.resume
    split <;> rfl
  · unfold Endpoint.resume
    split <;> rfl

/-! ### Fragments -/

/-- What one buffer makes of a fragment, the other makes of it too. -/
theorem receive (twins : Twins close shift a b) (refuses : Nat → Bool) (fragment : Bytes)
    (now : Nat) :
    (b.receive refuses fragment now).1 = (a.receive refuses fragment now).1 ∧
      Twins close shift (a.receive refuses fragment now).2
        (b.receive refuses fragment now).2 := by
  obtain ⟨buffer, waiting, list, mine, theirs, agreed⟩ := twins
  obtain ⟨answer, mirrored⟩ := mine.ask (.push refuses fragment now)
  obtain ⟨other, mirroring⟩ := theirs.ask (.push refuses fragment now)
  have same : (buffer.push refuses fragment now).1 = (a.reassembly.push refuses fragment now).1 :=
    Answer.report.inj (other.symm.trans answer)
  have received : (a.veiled shift buffer waiting).receive refuses fragment now =
      ((a.receive refuses fragment now).1, (a.receive refuses fragment now).2.veiled shift
        (buffer.push refuses fragment now).2
        (if (a.receive refuses fragment now).1 = .cancelled then true else waiting)) := by
    rw [receive_eq_settle, receive_eq_settle]
    change ((buffer.push refuses fragment now).1.outcome,
      ((a.veiled shift buffer waiting).taken fragment.length
        (buffer.push refuses fragment now).1.stale
        (buffer.push refuses fragment now).2).settle
          (buffer.push refuses fragment now).1.outcome) = _
    rw [same, taken_veiled _ _ _ _ _ (a.reassembly.push refuses fragment now).2, settle_veiled]
  rw [received]
  obtain ⟨settledBuffer, settledCancel⟩ := settle_remains
    (a.reassembly.push refuses fragment now).1.outcome (a.taken fragment.length
      (a.reassembly.push refuses fragment now).1.stale (a.reassembly.push refuses fragment now).2)
  obtain ⟨takenBuffer, takenCancel⟩ := a.taken_remains fragment.length
    (a.reassembly.push refuses fragment now).1.stale (a.reassembly.push refuses fragment now).2
  refine ⟨rfl, _, _, (list.ask FragmentList.hasBytes (.push refuses fragment now)).2, ?_, mirroring,
    ?_⟩
  · rw [receive_eq_settle]
    simp only
    rw [settledBuffer, takenBuffer]
    exact mirrored
  · intro closeTwins
    rw [receive_eq_settle]
    simp only
    rw [settledCancel, takenCancel, agreed closeTwins]

end Twins

end Endpoint

/-! ## Procedures of twins -/

variable {W H : Type}

/-- Stations with twins, in related worlds. -/
def Station.Twins (close : Prop) (shift : UInt32) (worlds : W → W → Prop)
    (a b : Station W H) : Prop :=
  a.endpoint.Twins close shift b.endpoint ∧ worlds a.world b.world

/-- Ports that have no eye for what another history leaves in an endpoint. Whatever goes on
while they are called, twins stay twins. -/
structure Ports.Blind (ports : Ports W H) (worlds : W → W → Prop) : Prop where
  now : ∀ v w, worlds v w → ports.now v = ports.now w
  mtu : ∀ v w, worlds v w → ports.mtu v = ports.mtu w
  minFreeBytes : ∀ v w, worlds v w → ports.minFreeBytes v = ports.minFreeBytes w
  notify : ∀ close shift bytes,
    Alike (Station.Twins close shift worlds) Eq (ports.notify bytes) (ports.notify bytes)
  requestMtu : ∀ close shift mtu,
    Alike (Station.Twins close shift worlds) Eq (ports.requestMtu mtu) (ports.requestMtu mtu)
  sleep : ∀ close shift time,
    Alike (Station.Twins close shift worlds) Eq (ports.sleep time) (ports.sleep time)
  randomBelow : ∀ close shift bound,
    Alike (Station.Twins close shift worlds) Eq (ports.randomBelow bound) (ports.randomBelow bound)
  freeBytes : ∀ close shift,
    Alike (Station.Twins close shift worlds) Eq ports.freeBytes ports.freeBytes
  allocate : ∀ close shift pool size,
    Alike (Station.Twins close shift worlds) Eq (ports.allocate pool size)
      (ports.allocate pool size)
  handle : ∀ close shift handler parsed,
    Alike (Station.Twins close shift worlds) Eq (ports.handle handler parsed)
      (ports.handle handler parsed)

section Stations

variable {close : Prop} {shift : UInt32} {worlds : W → W → Prop}

/-- A change that twins come through as twins. -/
theorem twins_modify {change : Endpoint H → Endpoint H}
    (kept : ∀ a b : Endpoint H, a.Twins close shift b → (change a).Twins close shift (change b)) :
    Alike (Station.Twins close shift worlds) Eq (modifyEndpoint change) (modifyEndpoint change) :=
  alike_modify fun a b twins => ⟨kept a.endpoint b.endpoint twins.1, twins.2⟩

theorem twins_step {α : Type} {Q : α → α → Prop} {change other : Endpoint H → α × Endpoint H}
    (kept : ∀ a b : Endpoint H, a.Twins close shift b →
      Q (change a).1 (other b).1 ∧ (change a).2.Twins close shift (other b).2) :
    Alike (Station.Twins close shift worlds) Q (step change) (step other) :=
  alike_step fun a b twins =>
    ⟨(kept a.endpoint b.endpoint twins.1).1, (kept a.endpoint b.endpoint twins.1).2, twins.2⟩

end Stations

namespace Ports.Blind

variable {ports : Ports W H} {worlds : W → W → Prop} (blind : ports.Blind worlds) {close : Prop}
  {shift : UInt32}

include blind

/-! ### Sending -/

/-- Twins that are no close ones are so inside the lock. -/
theorem likeness (close : Prop) (shift : UInt32) :
    Likeness ports ports (Station.Twins close shift worlds) (Station.Twins True shift worlds) where
  settings a b twins := twins.1.looks (·.settings) fun _ _ => rfl
  chunk a b twins := by
    rw [blind.mtu _ _ twins.2]
    exact twins.1.looks (·.chunkSize _) fun _ _ => rfl
  count change a b twins := ⟨twins.1.count change, twins.2⟩
  cancel a b twins := ⟨twins.1.cancelled, twins.1.cancel True false, twins.2⟩
  owed a b twins :=
    ⟨twins.1.looks (·.busyOwed) fun _ _ => rfl,
      twins.1.change (fun e => { e with busyOwed := false }) (fun _ _ => rfl) rfl rfl, twins.2⟩
  sending a b twins := twins.1.looks (·.sending) fun _ _ => rfl
  flight change a b twins :=
    ⟨twins.1.change (fun e => { e with inFlight := change e.inFlight }) (fun _ _ => rfl) rfl rfl,
      twins.2⟩
  owe change a b twins :=
    ⟨(twins.1.change (fun e => { e with busyOwed := true }) (fun _ _ => rfl) rfl rfl).count change,
      twins.2⟩
  lock a b twins :=
    ⟨(twins.1.change (fun e => { e with sending := true }) (fun _ _ => rfl) rfl rfl).cancel True
      false, twins.2⟩
  unlock a b twins :=
    ⟨(twins.1.change (fun e => { e with sending := false }) (fun _ _ => rfl) rfl rfl).loosen close,
      twins.2⟩

theorem sendAlike (shift : UInt32) : ports.SendAlike ports (Station.Twins True shift worlds) where
  notify := blind.notify True shift
  sleep := blind.sleep True shift
  freeBytes := blind.freeBytes True shift
  allocate := blind.allocate True shift

theorem send_alike (document : Document) (activity : Option Activity) :
    Alike (Station.Twins close shift worlds) Eq (send ports document activity)
      (send ports document activity) :=
  (blind.likeness close shift).send_alike (blind.sendAlike shift) document activity

/-! ### Processing commands -/

theorem replyError_alike (message kind : String) :
    Alike (Station.Twins close shift worlds) Eq (replyError ports message kind)
      (replyError ports message kind) :=
  (blind.send_alike _ _).discard

theorem diagnose_alike :
    Alike (Station.Twins close shift worlds) Eq (diagnose ports) (diagnose ports) := by
  apply (blind.freeBytes close shift).bind_same
  intro free a b twins
  refine .inl ⟨_, _, a, b, rfl, rfl, ?_, twins⟩
  rw [blind.now _ _ twins.2, blind.mtu _ _ twins.2, blind.minFreeBytes _ _ twins.2]
  exact twins.1.looks (fun e => Diagnostics.mk _ _ _ e.inFlight e.counters e.state (e.chunkSize _)
    e.commands.size e.streaming) fun _ _ => rfl

theorem respond_alike (responder : Responder H) (parsed : Json) :
    Alike (Station.Twins close shift worlds) Eq (respond ports responder parsed)
      (respond ports responder parsed) := by
  cases responder with
  | direct handler => exact blind.handle close shift handler parsed
  | diagnostics behind =>
    change Alike _ _ (answerDiagnostics ports behind parsed) (answerDiagnostics ports behind parsed)
    unfold answerDiagnostics
    split
    next =>
      apply blind.diagnose_alike.bind_same
      intro diagnostics
      exact (blind.send_alike _ _).discard
    next =>
      cases behind with
      | none => exact (blind.send_alike _ _).discard
      | some handler => exact blind.handle close shift handler parsed

omit blind in
theorem count_alike (change : Counters → Counters) :
    Alike (Station.Twins close shift worlds) Eq (Act.count change : Act W H Unit)
      (Act.count change) :=
  twins_modify fun _ _ twins => twins.count change

theorem execute_alike (command : Command) :
    Alike (Station.Twins close shift worlds) Eq (execute ports command)
      (execute ports command) := by
  have refused : ∀ message (disposition : Disposition),
      Alike (Station.Twins close shift worlds) Eq
        (do countParseError; replyError ports message "parse"; return disposition)
        (do countParseError; replyError ports message "parse"; return disposition) := by
    intro message disposition
    apply (count_alike _).bind_same
    intro
    apply (blind.replyError_alike _ _).bind_same
    intro
    exact alike_pure rfl
  apply alike_endpoint
  intro a b twins
  rw [← twins.1.looks (·.settings) fun _ _ => rfl]
  split
  next => exact refused _ _
  next =>
    cases Json.read command.payload with
    | error problem => exact refused _ _
    | ok parsed =>
      -- The responder is looked up when the command is parsed, and is the same in both.
      apply alike_endpoint
      intro c d twins
      rw [← twins.1.looks (·.responder) fun _ _ => rfl]
      cases c.endpoint.responder with
      | none =>
        apply (blind.replyError_alike _ _).bind_same
        intro
        exact alike_pure rfl
      | some responder =>
        apply (blind.respond_alike responder parsed).bind_same
        intro
        exact alike_pure rfl

theorem processCommand_alike (command : Command) :
    Alike (Station.Twins close shift worlds) Eq (processCommand ports command)
      (processCommand ports command) := by
  apply (twins_modify fun _ _ twins => twins.change (fun e => { e with priority := true })
    (fun _ _ => rfl) rfl rfl).bind_same
  intro
  have lowered : ∀ a b : Station W H, Station.Twins close shift worlds a b →
      Station.Twins close shift worlds { a with endpoint := { a.endpoint with priority := false } }
        { b with endpoint := { b.endpoint with priority := false } } :=
    fun a b twins => ⟨twins.1.change (fun e => { e with priority := false }) (fun _ _ => rfl) rfl rfl,
      twins.2⟩
  apply Alike.ensuring _ lowered
  apply (blind.execute_alike command).bind_same
  intro disposition
  apply (count_alike _).bind_same
  intro
  exact alike_pure rfl

omit blind in
/-- What is taken off a queue is the same for both. -/
theorem takeFault_alike :
    Alike (Station.Twins close shift worlds) Eq (takeFault : Act W H (Option Fault)) takeFault := by
  apply twins_step
  intro a b twins
  rw [eq_comm]
  apply twins.step _ _ id
  · intro buffer waiting
    simp only [Endpoint.veiled]
    cases a.faults.take? <;> rfl
  · cases a.faults.take? <;> rfl
  · cases a.faults.take? <;> rfl

omit blind in
theorem takeCommand_alike :
    Alike (Station.Twins close shift worlds) Eq (takeCommand : Act W H (Option Command))
      takeCommand := by
  apply twins_step
  intro a b twins
  rw [eq_comm]
  apply twins.step _ _ id
  · intro buffer waiting
    simp only [Endpoint.veiled]
    cases a.commands.take? <;> rfl
  · cases a.commands.take? <;> rfl
  · cases a.commands.take? <;> rfl

theorem flushFaults_alike :
    Alike (Station.Twins close shift worlds) Eq (flushFaults ports) (flushFaults ports) := by
  -- How many were reported grows from round to round, so that it is general.
  have within : ∀ rounds reported, Alike (Station.Twins close shift worlds) Eq
      (flushFaultsWithin ports rounds reported) (flushFaultsWithin ports rounds reported) := by
    intro rounds
    induction rounds with
    | zero => exact fun _ => alike_pure rfl
    | succ rounds ih =>
      intro reported
      apply takeFault_alike.bind_same
      intro fault
      cases fault with
      | none => exact alike_pure rfl
      | some fault =>
        apply (blind.replyError_alike _ _).bind_same
        intro
        exact ih _
  exact within ports.rounds 0

theorem awaitUntil_alike (deadline rounds : Nat) :
    Alike (Station.Twins close shift worlds) Eq (awaitUntil ports deadline rounds)
      (awaitUntil ports deadline rounds) := by
  induction rounds with
  | zero => exact alike_pure rfl
  | succ rounds ih =>
    apply takeCommand_alike.bind_same
    intro command
    cases command with
    | some command => exact alike_pure rfl
    | none =>
      apply alike_world
      intro a b twins
      rw [blind.now _ _ twins.2]
      split
      next => exact alike_pure rfl
      next =>
        apply (blind.sleep close shift nap).bind_same
        intro
        exact ih

theorem nextCommand_alike (wait : Nat) :
    Alike (Station.Twins close shift worlds) Eq (nextCommand ports wait)
      (nextCommand ports wait) := by
  have awaited : Alike (Station.Twins close shift worlds) Eq (awaitCommand ports wait)
      (awaitCommand ports wait) := by
    apply alike_world
    intro a b twins
    dsimp only
    rw [blind.now _ _ twins.2]
    exact blind.awaitUntil_alike _ _
  let gauge (e : Endpoint H) : Endpoint H :=
    e.count fun c => { c with queueDepth := e.commands.size }
  have gauged : Alike (Station.Twins close shift worlds) Eq (modifyEndpoint gauge)
      (modifyEndpoint gauge) :=
    twins_modify fun _ _ twins => twins.change gauge (fun _ _ => rfl) rfl rfl
  apply blind.flushFaults_alike.discard.bind_same
  intro
  apply awaited.bind_same
  intro command
  cases command with
  | none =>
    apply blind.flushFaults_alike.discard.bind_same
    intro
    exact alike_pure rfl
  | some command =>
    apply gauged.bind_same
    intro
    exact alike_pure rfl

theorem processNext_alike (wait : Nat) :
    Alike (Station.Twins close shift worlds) Eq (processNext ports wait)
      (processNext ports wait) := by
  apply (blind.nextCommand_alike wait).bind_same
  intro command
  cases command with
  | none => exact alike_pure rfl
  | some command =>
    apply (blind.processCommand_alike command).bind_same
    intro disposition
    exact alike_pure rfl

/-! ### Negotiating -/

theorem requestUnit_alike (epoch : UInt32) :
    Alike (Station.Twins close shift worlds) Eq (requestUnit ports epoch)
      (requestUnit ports (epoch + shift)) := by
  apply alike_endpoint
  intro a b twins
  rw [← twins.1.looks (·.settings) fun _ _ => rfl]
  apply (blind.requestMtu close shift _).bind_same
  intro answer
  cases answer with
  | ok => exact alike_modify fun a b twins => ⟨twins.1.requested epoch, twins.2⟩
  | error error => exact alike_pure rfl

theorem restartNegotiation_alike :
    Alike (Station.Twins close shift worlds) Eq (restartNegotiation ports)
      (restartNegotiation ports) := by
  apply alike_world
  intro a b twins
  dsimp only
  rw [blind.now _ _ twins.2]
  have restarted : Alike (Station.Twins close shift worlds) (fun epoch other => other = epoch + shift)
      (step (·.restart (ports.now b.world)) : Act W H UInt32)
      (step (·.restart (ports.now b.world))) :=
    twins_step fun a b twins => twins.restart _
  apply restarted.bind
  rintro epoch _ rfl
  exact blind.requestUnit_alike epoch

theorem backOff_alike (attempt : Nat) :
    Alike (Station.Twins close shift worlds) Eq (backOff ports attempt)
      (backOff ports attempt) := by
  apply alike_endpoint
  intro a b twins
  dsimp only
  rw [← twins.1.looks (·.settings) fun _ _ => rfl]
  apply (blind.randomBelow close shift _).bind_same
  intro jitter
  apply (blind.sleep close shift _).bind_same
  intro
  exact alike_pure rfl

theorem resolve_alike (token : Expired) :
    Alike (Station.Twins close shift worlds) Eq (resolve ports token)
      (resolve ports (token.further shift)) := by
  have judged : Alike (Station.Twins close shift worlds) Eq
      (step (·.judge token) : Act W H Control.Decision) (step (·.judge (token.further shift))) :=
    twins_step fun a b twins => ⟨(twins.judge token).1.symm, (twins.judge token).2⟩
  -- Each honours its own token, so that they decide the same.
  apply judged.bind_same
  intro decision
  cases decision with
  | stale => exact alike_pure rfl
  | failed =>
    apply alike_endpoint
    intro a b twins
    rw [← twins.1.looks (·.settings) fun _ _ => rfl]
    exact alike_pure rfl
  | retry attempt =>
    apply (blind.backOff_alike attempt).bind_same
    intro delay
    apply alike_world
    intro a b twins
    dsimp only
    rw [blind.now _ _ twins.2]
    have resumed : Alike (Station.Twins close shift worlds) Eq
        (step (·.resume token (ports.now b.world)) : Act W H Bool)
        (step (·.resume (token.further shift) (ports.now b.world))) :=
      twins_step fun a b twins => ⟨(twins.resume token _).1.symm, (twins.resume token _).2⟩
    apply resumed.bind_same
    intro again
    cases again with
    | false => exact alike_pure rfl
    | true =>
      -- The request is made in the name of the token's epoch, which is further on in one twin.
      apply (blind.requestUnit_alike token.epoch).bind_same
      intro
      exact alike_pure rfl

theorem monitorTick_alike :
    Alike (Station.Twins close shift worlds) Eq (monitorTick ports) (monitorTick ports) := by
  apply alike_world
  intro a b twins
  rw [blind.now _ _ twins.2, blind.mtu _ _ twins.2]
  have polled : Alike (Station.Twins close shift worlds) (fun found other => other = found.further shift)
      (step (·.poll (ports.now b.world) (ports.mtu b.world)) : Act W H Verdict)
      (step (·.poll (ports.now b.world) (ports.mtu b.world))) :=
    twins_step fun a b twins => twins.poll _ _
  -- Only the verdict of an expired attempt holds the number of an epoch.
  apply polled.bind
  rintro verdict _ rfl
  cases verdict with
  | expired token =>
    apply (blind.resolve_alike token).bind_same
    intro resolution
    exact alike_pure rfl
  | _ => exact alike_pure rfl

/-! ### Fragments and connections -/

theorem onFragment_alike (refuses : Nat → Bool) (fragment : Bytes) :
    Alike (Station.Twins close shift worlds) Eq (onFragment ports refuses fragment)
      (onFragment ports refuses fragment) := by
  apply alike_world
  intro a b twins
  dsimp only
  rw [blind.now _ _ twins.2]
  have received : Alike (Station.Twins close shift worlds) Eq
      (step (·.receive refuses fragment (ports.now b.world)) : Act W H Reassembly.Outcome)
      (step (·.receive refuses fragment (ports.now b.world))) :=
    twins_step fun a b twins =>
      ⟨(twins.receive refuses fragment _).1.symm, (twins.receive refuses fragment _).2⟩
  apply received.bind_same
  intro outcome
  -- Only a request to cancel is answered.
  cases outcome with
  | cancelled => exact (deliver_alike (blind.notify close shift) _).discard
  | _ => exact alike_pure rfl

theorem onConnect_alike :
    Alike (Station.Twins close shift worlds) Eq (onConnect ports) (onConnect ports) := by
  apply blind.restartNegotiation_alike.bind_same
  intro
  apply alike_endpoint
  intro a b twins
  rw [← twins.1.looks (·.settings) fun _ _ => rfl]
  apply (blind.sleep close shift _).bind_same
  intro
  exact blind.monitorTick_alike.discard

end Ports.Blind

end CommandLink
