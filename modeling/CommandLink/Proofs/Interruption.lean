import CommandLink.Bench.Inbound
import CommandLink.Proofs.Rounds
import CommandLink.Proofs.SendingAlike

/-!
# Calls that are interrupted

While a notification goes out or a pause lasts, others may run. What the call itself does is
cut into parts then, and visits come between them. `Interrupted` relates what a call does
alone to what it does with visits, however many there are and wherever they come.

As soon as a relation on stations is kept by the parts, and by each visit against nothing at
all, sending is alike with the visits and without them.
-/

namespace CommandLink

open Act

variable {W V H G E α β : Type}

/-! ## Visits -/

/-- A procedure, and the same with visits before, between and behind its parts. -/
inductive Interrupted (Part : ∀ α : Type, Act W H α → Prop)
    (Visit : Act (Recorded W E) H Unit → Prop) :
    ∀ {α : Type}, Act W H α → Act (Recorded W E) H α → Prop where
  | part {α : Type} {act : Act W H α} (known : Part α act) : Interrupted Part Visit act (lift act)
  | visit {act : Act (Recorded W E) H Unit} (known : Visit act) :
    Interrupted Part Visit (pure ()) act
  | bind {α β : Type} {act : Act W H α} {visited : Act (Recorded W E) H α}
    {next : α → Act W H β} {next' : α → Act (Recorded W E) H β}
    (first : Interrupted Part Visit act visited)
    (second : ∀ a, Interrupted Part Visit (next a) (next' a)) :
    Interrupted Part Visit (act >>= next) (visited >>= next')

namespace Act

theorem exec_lift_bind (act : Act W H α) (next : α → Act W H β) (s : Station (Recorded W E) H) :
    exec (lift (act >>= next)) s = exec (lift act >>= fun a => lift (next a)) s := by
  rw [exec_lift, exec_bind, exec_bind, exec_lift]
  rcases exec act ⟨s.endpoint, s.world.world⟩ with ⟨_ | _, _⟩
  · rfl
  · rfl

section Alike

variable {R : Station (Recorded W E) H → Station (Recorded W E) H → Prop}

theorem lift_bind_alike {act : Act W H α} {next : α → Act W H β}
    {visited : Act (Recorded W E) H α} {next' : α → Act (Recorded W E) H β}
    (first : Alike R Eq visited (lift act)) (second : ∀ a, Alike R Eq (next' a) (lift (next a))) :
    Alike R Eq (visited >>= next') (lift (act >>= next)) := by
  intro a b there
  -- Lifting respects bind run by run.
  rw [Abreast, exec_lift_bind]
  exact first.bind_same second a b there

/-- Visits that are alike to nothing leave the whole alike. -/
theorem interrupted_alike {Part : ∀ α : Type, Act W H α → Prop}
    {Visit : Act (Recorded W E) H Unit → Prop}
    (parts : ∀ α act, Part α act → Alike R Eq (lift act) (lift act))
    (visits : ∀ act, Visit act → Alike R Eq act (pure ())) {act : Act W H α}
    {visited : Act (Recorded W E) H α} (interrupted : Interrupted Part Visit act visited) :
    Alike R Eq visited (lift act) := by
  induction interrupted with
  | part known => exact parts _ _ known
  | visit known => exact visits _ known
  | bind first second ih further => exact lift_bind_alike ih further

end Alike

/-- What is interrupted comes back on its own, if all of its parts do. -/
theorem interrupted_returns {Part : ∀ α : Type, Act W H α → Prop}
    {Visit : Act (Recorded W E) H Unit → Prop}
    (parts : ∀ α act, Part α act → Within (fun _ _ => True) act) {act : Act W H α}
    {visited : Act (Recorded W E) H α} (interrupted : Interrupted Part Visit act visited) :
    Within (fun _ _ => True) act := by
  induction interrupted with
  | part known => exact parts _ _ known
  | visit => exact within_pure (fun _ => trivial) ()
  | bind _ _ ih further => exact ih.bind (fun _ _ _ _ _ => trivial) further

end Act

/-- One more call in both journals. -/
def Enters (R : Station (Recorded W Entry) H → Station (Recorded V Entry) G → Prop) : Prop :=
  ∀ a b, R a b → a.endpoint.cancelRequested = b.endpoint.cancelRequested ∧
    ∀ exchange before after, R (a.record [.call exchange before after] a.endpoint)
      (b.record [.call exchange before after] b.endpoint)

theorem Act.entered_alike {R : Station (Recorded W Entry) H → Station (Recorded V Entry) G → Prop}
    (enters : Enters R) {act : Act (Recorded W Entry) H α} {act' : Act (Recorded V Entry) G α}
    (alike : Alike R Eq act act') (exchange : α → Exchange) :
    Alike R Eq (entered exchange act) (entered exchange act') := by
  -- Both read the same flag before the call and the same one behind it.
  apply alike_endpoint
  intro a b there
  rw [(enters a b there).1]
  apply alike.bind_same
  intro answer
  apply alike_endpoint
  intro s t still
  rw [(enters s t still).1]
  have noted : Alike R Eq
      (note [.call (exchange answer) b.endpoint.cancelRequested t.endpoint.cancelRequested])
      (note [.call (exchange answer) b.endpoint.cancelRequested t.endpoint.cancelRequested]) := by
    intro c d further
    exact .inl ⟨(), (), _, _, rfl, rfl, rfl, (enters c d further).2 _ _ _⟩
  apply noted.bind_same
  intro
  exact alike_pure rfl

/-! ## Ports that are visited -/

/-- Ports, and the same with visits of one kind while they notify and of another kind while
they sleep. -/
structure Ports.Visited (Part : ∀ α : Type, Act W H α → Prop)
    (calling pausing : Act (Recorded W Entry) H Unit → Prop) (ports : Ports W H)
    (visited : Ports (Recorded W Entry) H) : Prop where
  mtu : ∀ recorded, visited.mtu recorded = ports.mtu recorded.world
  notify : ∀ bytes, ∃ act, Interrupted Part calling (ports.notify bytes) act ∧
    visited.notify bytes = entered (.notified bytes) act
  sleep : ∀ time, ∃ act, Interrupted Part pausing (ports.sleep time) act ∧
    visited.sleep time = entered (fun _ => .slept time) act
  freeBytes : Part Nat ports.freeBytes ∧ visited.freeBytes = ports.journaled.freeBytes
  allocate : ∀ pool size, Part Bool (ports.allocate pool size) ∧
    visited.allocate pool size = ports.journaled.allocate pool size

theorem Ports.Visited.comeBack {Part : ∀ α : Type, Act W H α → Prop}
    {calling pausing : Act (Recorded W Entry) H Unit → Prop} {ports : Ports W H}
    {visited : Ports (Recorded W Entry) H} (same : ports.Visited Part calling pausing visited)
    (parts : ∀ α act, Part α act → Act.Within (fun _ _ => True) act) : ports.ComeBack where
  notify bytes := by
    obtain ⟨act, interrupted, -⟩ := same.notify bytes
    exact interrupted_returns parts interrupted
  sleep time := by
    obtain ⟨act, interrupted, -⟩ := same.sleep time
    exact interrupted_returns parts interrupted
  freeBytes := parts _ _ same.freeBytes.1
  allocate pool size := parts _ _ (same.allocate pool size).1

/-- With the visits and without them, the ports are alike to whoever sends. -/
theorem Ports.Visited.sendAlike {Part : ∀ α : Type, Act W H α → Prop}
    {calling pausing : Act (Recorded W Entry) H Unit → Prop} {ports : Ports W H}
    {visited : Ports (Recorded W Entry) H} (same : ports.Visited Part calling pausing visited)
    {R : Station (Recorded W Entry) H → Station (Recorded W Entry) H → Prop} (enters : Enters R)
    (parts : ∀ α act, Part α act → Alike R Eq (lift act) (lift act))
    (calls : ∀ act, calling act → Alike R Eq act (pure ()))
    (pauses : ∀ act, pausing act → Alike R Eq act (pure ())) :
    visited.SendAlike ports.journaled R where
  notify bytes := by
    obtain ⟨act, interrupted, here⟩ := same.notify bytes
    rw [here]
    exact entered_alike enters (interrupted_alike parts calls interrupted) _
  sleep time := by
    obtain ⟨act, interrupted, here⟩ := same.sleep time
    rw [here]
    exact entered_alike enters (interrupted_alike parts pauses interrupted) _
  freeBytes := by
    obtain ⟨known, here⟩ := same.freeBytes
    rw [here]
    exact entered_alike enters (parts _ _ known) _
  allocate pool size := by
    obtain ⟨known, here⟩ := same.allocate pool size
    rw [here]
    exact entered_alike enters (parts _ _ known) _

/-- Ports of a link that takes everything. -/
def openPorts : Ports Nat Empty :=
  { Bench.clockPorts with
    notify := fun _ => return .ok ()
    freeBytes := return 262144
    allocate := fun _ _ => return true }

theorem openPorts_comeBack : openPorts.ComeBack where
  notify _ s := ⟨_, s, rfl, trivial⟩
  sleep _ _ := ⟨(), _, rfl, trivial⟩
  freeBytes s := ⟨_, s, rfl, trivial⟩
  allocate _ _ s := ⟨_, s, rfl, trivial⟩

theorem openPorts_keep (I : Endpoint Empty → Prop) : openPorts.Keep fun s => I s.endpoint where
  notify _ _ there := there
  sleep _ _ there := there
  freeBytes _ there := there
  allocate _ _ _ there := there

end CommandLink
