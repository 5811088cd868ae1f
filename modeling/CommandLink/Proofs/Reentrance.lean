import CommandLink.Proofs.Interruption

/-!
# Sends that are made while another one is under way

While a document goes out, whoever is called may send as well. Such a send finds the lock held,
leaves word that the peer is owed a "busy" answer, and says nothing. The document goes out as if
nobody had come, and behind it one "busy" answer is given to all who came.

Word is taken before the answer is given. So whoever comes during the answer leaves word that
nobody takes until the next document is sent.
-/

namespace CommandLink

open Act Entry

variable {W H α : Type}

/-! ## Sends that find the lock held -/

/-- The endpoint after somebody found the lock held. -/
def Endpoint.turnedAway (endpoint : Endpoint H) : Endpoint H :=
  { endpoint with busyOwed := true }.count fun c =>
    { c with
      lockTimeouts := c.lockTimeouts + 1
      transmissionsFailed := c.transmissionsFailed + 1 }

/-- A send that finds the lock held leaves word, and calls nobody. -/
theorem exec_send_of_held (ports : Ports W H) (document : Document) (activity : Option Activity)
    {s : Station W H} (held : s.endpoint.sending = true) :
    exec (send ports document activity) s =
      (.ok (.error .lockTimeout), { s with endpoint := s.endpoint.turnedAway }) := by
  have away : exec (sendHeld ports document activity)
      { s with endpoint := { s.endpoint with inFlight := s.endpoint.inFlight + 1 } } =
        (.ok (.error .lockTimeout),
          { s with
            endpoint :=
              { s.endpoint with inFlight := s.endpoint.inFlight + 1 }.turnedAway }) := by
    change exec (if s.endpoint.sending = true then _ else _) _ = _
    rw [if_pos held]
    rfl
  rw [exec_send, away]
  rfl

/-- What a document says is said by a send, which may give the "busy" answer behind it. Nothing
is said by a send that finds the lock held. -/
theorem Ports.Within.send_told {ports : Ports W H} (back : ports.ComeBack) {document : Document}
    {activity : Option Activity} {s : Station (Recorded W Entry) H}
    {known : Except SendError Unit → List Utterance → Prop}
    (turnedAway : known (.error .lockTimeout) [])
    (transmitted : Writes (transmit ports.journaled document activity) s.locked
      fun result _ entries =>
        ∃ us, entries.filterMap Entry.told? = us.map Utterance.told ∧ known result us) :
    Writes (send ports.journaled document activity) s fun result _ entries =>
      ∃ us busy, entries.filterMap Entry.told? = (us ++ busy).map Utterance.told ∧
        known result us ∧ (busy = [] ∨ Inline maxChunk "Transmission busy" "busy" busy) := by
  cases sending : s.endpoint.sending with
  | true =>
    exact ⟨_, _, exec_send_of_held _ _ _ sending, [], by simp, [], [], rfl, turnedAway, .inl rfl⟩
  | false =>
    apply (back.send_writes sending transmitted).mono
    rintro result u _ ⟨t, told, answer, rfl, ⟨us, said, holds⟩, given, unasked⟩
    by_cases owed : t.endpoint.busyOwed = true
    · obtain ⟨busy, inline, answered⟩ := (given owed).told
      refine ⟨us, busy, ?_, holds, .inr inline⟩
      rw [List.filterMap_append, said, answered, List.map_append]
    · obtain ⟨rfl, -⟩ := unasked owed
      exact ⟨us, [], by simp [said], holds, .inl rfl⟩

/-- A send that is made while another one is under way. How it ended is written down. -/
def nested (ports : Ports (Recorded W Entry) H) (document : Document)
    (activity : Option Activity) : Act (Recorded W Entry) H (Except SendError Unit) := do
  let result ← send ports document activity
  note [.nested result]
  return result

theorem exec_nested_of_held (ports : Ports (Recorded W Entry) H) (document : Document)
    (activity : Option Activity) {s : Station (Recorded W Entry) H}
    (held : s.endpoint.sending = true) :
    exec (nested ports document activity) s =
      (.ok (.error .lockTimeout),
        s.record [.nested (.error .lockTimeout)] s.endpoint.turnedAway) := by
  rw [nested, exec_bind_of_ok (exec_send_of_held ports document activity held)]
  rfl

/-- A visit looks around and sends, as often as it likes and over whatever ports. -/
inductive Visit : Act (Recorded W Entry) H Unit → Prop where
  | done : Visit (pure ())
  | look (next : Station (Recorded W Entry) H → Act (Recorded W Entry) H Unit)
    (further : ∀ s, Visit (next s)) : Visit (get >>= next)
  | send (ports document activity)
    (next : Except SendError Unit → Act (Recorded W Entry) H Unit)
    (further : ∀ result, Visit (next result)) : Visit (nested ports document activity >>= next)

/-! ## What such sends leave alone -/

/-- The endpoint without word of a "busy" answer, and without the counters. -/
def Endpoint.unowed (endpoint : Endpoint H) : Endpoint H :=
  { endpoint with busyOwed := false, counters := {} }

/-- Two stations that agree on all but word of a "busy" answer and the counters. -/
def Station.Agree (s t : Station W H) : Prop :=
  s.world = t.world ∧ s.endpoint.unowed = t.endpoint.unowed

/-- A procedure that comes back, and has nothing to do with the lock, with word of a "busy"
answer and with the counters. -/
structure Act.Aloof (act : Act W H α) : Prop where
  returns : ∀ s, Returns act s fun _ t =>
    t.endpoint.busyOwed = s.endpoint.busyOwed ∧ t.endpoint.sending = s.endpoint.sending
  alike : Alike Station.Agree Eq act act

namespace Entry

def isCall : Entry → Bool
  | .call _ _ _ => true
  | .nested _ => false

/-- Somebody tried to send, and found the lock held. -/
def Disturbed (entries : List Entry) : Prop := ∃ result, .nested result ∈ entries

/-- Nobody but the holder of the lock sent anything. -/
def Excluded (entries : List Entry) : Prop :=
  ∀ result, .nested result ∈ entries → result = .error .lockTimeout

theorem disturbed_append {entries more : List Entry} :
    Disturbed (entries ++ more) ↔ Disturbed entries ∨ Disturbed more := by
  simp [Disturbed, exists_or]

theorem excluded_append {entries more : List Entry} :
    Excluded (entries ++ more) ↔ Excluded entries ∧ Excluded more := by
  simp [Excluded, or_imp, forall_and]

end Entry

/-- A run with visits and the same without them, in the middle of a document. The journals
begin with `base` and `other`, and the one with the visits goes on with `entries`. Word of a
"busy" answer was left before or not, as `owed` says. -/
structure Station.Beside (base other : List Entry) (owed : Bool)
    (s t : Station (Recorded W Entry) H) : Prop where
  world : s.world.world = t.world.world
  endpoint : s.endpoint.unowed = t.endpoint.unowed
  held : s.endpoint.sending = true
  alone : t.endpoint.busyOwed = owed
  journal : ∃ entries, s.world.diary = base ++ entries ∧
    t.world.diary = other ++ entries.filter isCall ∧ Excluded entries ∧
    (s.endpoint.busyOwed = true ↔ owed = true ∨ Disturbed entries)

namespace Station.Beside

variable {base other : List Entry} {owed : Bool}

/-- Whoever takes the word that is left, and goes on alone, goes beside himself. -/
theorem refl {s : Station (Recorded W Entry) H} (held : s.endpoint.sending = true) :
    Beside s.world.diary s.world.diary s.endpoint.busyOwed s s where
  world := rfl
  endpoint := rfl
  held := held
  alone := rfl
  journal := ⟨[], by simp, by simp, nofun, by simp [Disturbed]⟩

theorem aloof_alike {act : Act W H α} (aloof : act.Aloof) :
    Alike (Beside base other owed) Eq (lift act) (lift act) := by
  intro a b there
  rcases aloof.alike ⟨a.endpoint, a.world.world⟩ ⟨b.endpoint, b.world.world⟩
    ⟨there.world, there.endpoint⟩ with
    ⟨x, y, s, t, left, right, same, world, endpoint⟩ | ⟨crash, s, t, left, -, -⟩
  · have kept := Returns.of_exec (aloof.returns _) left
    have alone := Returns.of_exec (aloof.returns _) right
    obtain ⟨entries, diary, plain, excluded, word⟩ := there.journal
    rw [Abreast, exec_lift, exec_lift, left, right]
    refine .inl ⟨x, y, _, _, rfl, rfl, same, world, endpoint, kept.2.trans there.held,
      alone.1.trans there.alone, entries, diary, plain, excluded, ?_⟩
    rw [← word]
    exact Eq.to_iff (congrArg (· = true) kept.1)
  · -- It comes back, so it does not crash.
    obtain ⟨x, after, run, -⟩ := aloof.returns ⟨a.endpoint, a.world.world⟩
    rw [left] at run
    cases run

theorem turnedAway {a b : Station (Recorded W Entry) H} (there : Beside base other owed a b) :
    Beside base other owed
      (a.record [.nested (.error .lockTimeout)] a.endpoint.turnedAway) b where
  world := there.world
  endpoint := there.endpoint
  held := there.held
  alone := there.alone
  journal := by
    obtain ⟨entries, diary, plain, excluded, word⟩ := there.journal
    refine ⟨entries ++ [.nested (.error .lockTimeout)], ?_, ?_, ?_, ?_⟩
    · change a.world.diary ++ _ = _
      rw [diary, List.append_assoc]
    · simpa [isCall] using plain
    · exact excluded_append.mpr ⟨excluded, by simp [Excluded]⟩
    · rw [disturbed_append]
      have disturbed : Disturbed [.nested (.error .lockTimeout)] := ⟨_, List.mem_cons_self⟩
      exact iff_of_true rfl (.inr (.inr disturbed))

theorem visit_alike {act : Act (Recorded W Entry) H Unit} (visit : Visit act) :
    Alike (Beside base other owed) Eq act (pure ()) := by
  induction visit with
  | done => exact alike_pure rfl
  | look next _ ih => exact fun a b there => ih a a b there
  | send ports document activity next _ ih =>
    -- Only the run with the visits moves on, and its journal with it.
    intro a b there
    rw [Abreast, exec_bind_of_ok (exec_nested_of_held ports document activity there.held)]
    exact ih _ _ b there.turnedAway

theorem enters : Enters (Beside (W := W) (H := H) base other owed) := by
  intro a b there
  have requested := congrArg Endpoint.cancelRequested there.endpoint
  refine ⟨requested, ?_⟩
  intro exchange before after
  obtain ⟨entries, diary, plain, excluded, word⟩ := there.journal
  refine ⟨there.world, there.endpoint, there.held, there.alone,
    entries ++ [.call exchange before after], ?_, ?_, ?_, ?_⟩
  · simp [record, diary]
  · change b.world.diary ++ [_] = _
    rw [plain, List.filter_append, List.append_assoc]
    rfl
  · exact excluded_append.mpr ⟨excluded, by simp [Excluded]⟩
  · simp only [record, disturbed_append, word]
    simp [Disturbed]

end Station.Beside

open Station

/-! ## Documents with visits and without -/

abbrev Ports.Revisited (ports : Ports W H) (visited : Ports (Recorded W Entry) H) : Prop :=
  ports.Visited (fun _ act => act.Aloof) Visit Visit visited

namespace Ports.Visited

variable {ports : Ports W H} {visited : Ports (Recorded W Entry) H}
  (same : ports.Revisited visited) {base other : List Entry} {owed : Bool}

include same

theorem sendAlike_beside : visited.SendAlike ports.journaled (Beside base other owed) :=
  same.sendAlike Beside.enters (fun _ _ => Beside.aloof_alike) (fun _ => Beside.visit_alike)
    fun _ => Beside.visit_alike

theorem semblance_beside : Semblance visited ports.journaled (Beside base other owed) where
  settings a b there := by
    have settings := congrArg Endpoint.settings there.endpoint
    exact settings
  chunk a b there := by
    have state : a.endpoint.state = b.endpoint.state :=
      congrArg (·.negotiation.state) there.endpoint
    change a.endpoint.state.chunkSize _ = b.endpoint.state.chunkSize (ports.mtu b.world.world)
    rw [same.mtu, there.world, state]
  count change _ a b there := ⟨there.world, there.endpoint, there.held, there.alone, there.journal⟩
  cancel a b there := by
    have requested := congrArg Endpoint.cancelRequested there.endpoint
    refine ⟨requested, there.world, ?_, there.held, there.alone, there.journal⟩
    exact congrArg (fun e : Endpoint H => { e with cancelRequested := false }) there.endpoint

theorem comeBack_of_aloof : ports.ComeBack :=
  same.comeBack fun _ _ aloof s => (aloof.returns s).mono fun _ _ _ => trivial

/-- The "busy" answer is given to all who came before it. Who comes meanwhile leaves word. -/
theorem answerBusy_writes_beside {s : Station (Recorded W Entry) H}
    (held : s.endpoint.sending = true) :
    Writes (answerBusy visited) s fun _ t answer => Excluded answer ∧
      (t.endpoint.busyOwed = true ↔ Disturbed answer) ∧
      (s.endpoint.busyOwed = true →
        ∃ first last, Gives "Transmission busy" "busy" first (answer.filter isCall) last) ∧
      (s.endpoint.busyOwed ≠ true → answer = []) := by
  apply returns_step
  cases owed : s.endpoint.busyOwed with
  | false => exact writes_pure ⟨nofun, by simp [Disturbed], nofun, fun _ => rfl⟩
  | true =>
    -- The answer is compared with one without visits, from the station at which it begins. There
    -- no word is left any more, so what is left behind it was left meanwhile.
    obtain ⟨u, unowed⟩ : ∃ u : Station (Recorded W Entry) H, u =
      { s with endpoint := { s.endpoint with busyOwed := false } } := ⟨_, rfl⟩
    have begun : Beside u.world.diary u.world.diary u.endpoint.busyOwed u u :=
      .refl (by rw [unowed]; exact held)
    have alike := same.semblance_beside.sendInline_alike same.sendAlike_beside "Transmission busy"
      "busy" u u begun
    obtain ⟨_, alone, run, entries, diary, given⟩ :=
      same.comeBack_of_aloof.sendInline_writes "Transmission busy" "busy" u
    rcases alike with ⟨_, _, t, v, left, right, -, there⟩ | ⟨crash, t, v, -, right, -⟩
    · obtain ⟨-, rfl⟩ := Prod.mk.inj (right.symm.trans run)
      obtain ⟨answer, written, plain, excluded, word⟩ := there.journal
      rw [diary, List.append_cancel_left_eq] at plain
      rw [plain] at given
      rw [unowed] at left written word
      refine ⟨(), t, left, answer, written, excluded, ?_, fun _ => ⟨_, _, given⟩, ?_⟩
      · simpa using word
      · exact fun none => absurd rfl none
    · rw [right] at run
      cases run

/-- A document with visits and the same without them: the two are the same up to the end of the
document, and then the "busy" answer is given if somebody was turned away. -/
theorem send_beside (document : Document) (activity : Option Activity)
    {s : Station (Recorded W Entry) H} (idle : s.endpoint.sending = false) :
    ∃ result t u during answer rest,
      exec (send visited document activity) s = (.ok result, t) ∧
      exec (send ports.journaled document activity) s = (.ok result, u) ∧
      t.world.diary = s.world.diary ++ (during ++ answer) ∧
      u.world.diary = s.world.diary ++ (during.filter isCall ++ rest) ∧
      Excluded (during ++ answer) ∧
      (s.endpoint.busyOwed = true ∨ Disturbed during →
        ∃ first last, Gives "Transmission busy" "busy" first (answer.filter isCall) last) ∧
      (¬ (s.endpoint.busyOwed = true ∨ Disturbed during) → answer = []) ∧
      (s.endpoint.busyOwed = false → rest = []) ∧
      (t.endpoint.busyOwed = true ↔ Disturbed answer) := by
  have back := same.comeBack_of_aloof
  have begun : Beside s.world.diary s.world.diary s.endpoint.busyOwed s.locked s.locked :=
    .refl (s := s.locked) rfl
  have alike := same.semblance_beside.transmit_alike same.sendAlike_beside document activity
    s.locked s.locked begun
  have returned := bookless_true.transmit back.journaled document activity s.locked
  rcases alike with ⟨result, _, v, w, left, right, rfl, there⟩ | ⟨crash, v, w, -, right, -⟩
  · obtain ⟨during, written, plain, excluded, word⟩ := there.journal
    -- Both have counted how the document ended, and give their answers now.
    obtain ⟨_, t, answered, answer, more, turned, late, given, unasked⟩ :=
      same.answerBusy_writes_beside
        (s := { v with endpoint := v.endpoint.count (Counters.tally result) }) there.held
    obtain ⟨_, u, alone, rest, further, -, quiet⟩ :=
      back.answerBusy_writes { w with endpoint := w.endpoint.count (Counters.tally result) }
    refine ⟨result, t.released, u.released, during, answer, rest,
      exec_send_of_answered idle left answered, exec_send_of_answered idle right alone, ?_, ?_,
      excluded_append.mpr ⟨excluded, turned⟩, fun disturbed => given (word.mpr disturbed),
      fun calm => unasked fun owed => calm (word.mp owed), ?_, late⟩
    · rw [← List.append_assoc, ← written]
      exact more
    · rw [← List.append_assoc, ← plain]
      exact further
    · intro unowed
      have none : w.endpoint.busyOwed ≠ true := by
        rw [there.alone, unowed]
        exact Bool.false_ne_true
      exact (quiet none).1
  · obtain ⟨x, after, run, -⟩ := returned
    rw [right] at run
    cases run

end Ports.Visited

/-- Whoever sends while another document goes out is turned away and says nothing. The document
goes out as if nobody had come, with the same calls and the same result. Behind its last call
there is one "busy" answer if somebody came before that, and else there is none. -/
theorem documents_never_interleave {ports : Ports W H} {visited : Ports (Recorded W Entry) H}
    (same : ports.Revisited visited) (document : Document) (activity : Option Activity)
    {s : Station (Recorded W Entry) H} (idle : s.endpoint.sending = false) :
    (∀ (others : Ports (Recorded W Entry) H) text reporting (t : Station (Recorded W Entry) H),
      t.endpoint.sending = true → exec (send others text reporting) t =
        (.ok (.error .lockTimeout), { t with endpoint := t.endpoint.turnedAway })) ∧
    ∃ result t u during answer rest,
      exec (send visited document activity) s = (.ok result, t) ∧
      exec (send ports.journaled document activity) s = (.ok result, u) ∧
      t.world.diary = s.world.diary ++ (during ++ answer) ∧
      u.world.diary = s.world.diary ++ (during.filter isCall ++ rest) ∧
      (s.endpoint.busyOwed = false → rest = []) ∧
      Excluded (during ++ answer) ∧
      (s.endpoint.busyOwed = true ∨ Disturbed during →
        ∃ first last, Gives "Transmission busy" "busy" first (answer.filter isCall) last) ∧
      (¬ (s.endpoint.busyOwed = true ∨ Disturbed during) → answer = []) := by
  constructor
  · intro others text reporting t held
    exact exec_send_of_held others text reporting held
  · obtain ⟨result, t, u, during, answer, rest, left, right, written, alone, excluded, given,
      unasked, unowed, -⟩ := same.send_beside document activity idle
    exact ⟨result, t, u, during, answer, rest, left, right, written, alone, unowed, excluded, given,
      unasked⟩

/-- Somebody sends when the journal has one of these lengths. -/
def callers (moments : List Nat) : Act (Recorded Nat Entry) Empty Unit := do
  let s ← get
  if s.world.diary.length ∈ moments then
    let _ ← nested openPorts.journaled (.steady [98]) none

/-- The same ports, with callers during notifications. -/
def crowdedPorts (moments : List Nat) : Ports (Recorded Nat Entry) Empty :=
  { openPorts.journaled with
    notify := fun bytes => entered (.notified bytes) do
      let answer ← lift (openPorts.notify bytes)
      callers moments
      return answer }

theorem aloof_pure (a : α) : (pure a : Act W H α).Aloof where
  returns _ := returns_pure ⟨rfl, rfl⟩
  alike := alike_pure rfl

theorem aloof_modifyWorld (change : W → W) : (modifyWorld change : Act W H Unit).Aloof where
  returns _ := ⟨(), _, rfl, rfl, rfl⟩
  alike _ _ there := .inl ⟨(), (), _, _, rfl, rfl, rfl, congrArg change there.1, there.2⟩

theorem crowdedPorts_revisit (moments : List Nat) :
    openPorts.Revisited (crowdedPorts moments) where
  mtu _ := rfl
  notify bytes := by
    have visit : Visit (callers moments) := by
      apply Visit.look
      intro s
      split
      next => exact .send _ _ _ _ fun _ => .done
      next => exact .done
    -- The call is its answer, with room for a visit before it returns.
    have parts : openPorts.notify bytes =
        openPorts.notify bytes >>= fun answer => pure () >>= fun _ => pure answer := by simp
    refine ⟨_, ?_, rfl⟩
    rw [parts]
    apply Interrupted.bind (.part (aloof_pure _))
    intro answer
    apply Interrupted.bind (.visit visit)
    intro
    exact .part (aloof_pure answer)
  sleep time := ⟨_, .part (aloof_modifyWorld (· + time)), rfl⟩
  freeBytes := ⟨aloof_pure _, rfl⟩
  allocate _ _ := ⟨aloof_pure _, rfl⟩

/-- Somebody sends while a chunk goes out, and again while the end marker does: the document and
one "busy" answer go out. -/
theorem documents_never_interleave_with_two_callers :
    let s : Station (Recorded Nat Entry) Empty := ⟨.fresh {}, { world := 0 }⟩
    openPorts.Revisited (crowdedPorts [3, 6]) ∧ s.endpoint.sending = false ∧
      ∃ result t u during answer rest,
        exec (send (crowdedPorts [3, 6]) (.steady [97]) none) s = (.ok result, t) ∧
        exec (send openPorts.journaled (.steady [97]) none) s = (.ok result, u) ∧
        t.world.diary = during ++ answer ∧ u.world.diary = during.filter isCall ++ rest ∧
        rest = [] ∧ Excluded (during ++ answer) ∧
        (Disturbed during →
          ∃ first last, Gives "Transmission busy" "busy" first (answer.filter isCall) last) ∧
        t.world.diary.filterMap told? =
          ([[97], endMarker] ++ Bytes.pieces 20 (Bytes.ofText
            (Reply.inlineError "Transmission busy" "busy")) ++ [endMarker]).map (·, .ok ()) := by
  intro s
  have idle : s.endpoint.sending = false := rfl
  have told : (exec (send (crowdedPorts [3, 6]) (.steady [97]) none)
      s).2.world.diary.filterMap told? =
        ([[97], endMarker] ++ Bytes.pieces 20 (Bytes.ofText
          (Reply.inlineError "Transmission busy" "busy")) ++ [endMarker]).map (·, .ok ()) := by
    decide +kernel
  obtain ⟨-, result, t, u, during, answer, rest, left, right, written, alone, unowed, excluded,
    given, -⟩ := documents_never_interleave (crowdedPorts_revisit [3, 6]) (.steady [97]) none idle
  rw [left] at told
  exact ⟨crowdedPorts_revisit [3, 6], idle, result, t, u, during, answer, rest, left, right,
    written, alone, unowed rfl, excluded, fun disturbed => given (.inr disturbed), told⟩

/-! ## Word that stays -/

theorem Recited.eq_map_of_taken {signals : List Signal} {us : List Utterance}
    (recited : Recited signals us) (taken : ∀ u ∈ us, u.answer = .ok ()) :
    us = signals.map fun signal => ⟨signal, .ok ()⟩ := by
  induction recited with
  | done => rfl
  | refused signal rest error =>
    have impossible := taken _ List.mem_cons_self
    cases impossible
  | taken signal further ih =>
    rw [List.forall_mem_cons] at taken
    rw [ih taken.2, List.map_cons]

/-- On a link that takes everything an inline error is complete. -/
theorem Entry.Gives.whole {message kind : String} {first last : Bool} {entries : List Entry}
    (gives : Gives message kind first entries last)
    (taken : ∀ notified ∈ entries.filterMap told?, notified.2 = .ok ()) :
    ∃ size, 0 < size ∧ entries.filterMap told? =
      (Bytes.pieces size (Bytes.ofText (Reply.inlineError message kind)) ++
        [endMarker]).map (·, .ok ()) := by
  obtain ⟨us, ⟨size, positive, -, recited⟩, told⟩ := gives.told
  rw [told] at taken ⊢
  have whole := recited.eq_map_of_taken fun u member => taken _ (List.mem_map_of_mem member)
  refine ⟨size, positive, ?_⟩
  rw [whole]
  simp [Utterance.told, Signal.bytes]

theorem told_filter_isCall (entries : List Entry) :
    (entries.filter isCall).filterMap told? = entries.filterMap told? := by
  rw [List.filterMap_filter]
  congr 1
  funext entry
  cases entry with
  | call => rfl
  | nested => rfl

/-- Whoever is turned away before the document is finished is answered, in full if the link takes
it. Behind a send word is left exactly if somebody was turned away during the answer. -/
theorem word_left_iff_disturbed_answer {ports : Ports W H} {visited : Ports (Recorded W Entry) H}
    (same : ports.Revisited visited) (document : Document) (activity : Option Activity)
    {s : Station (Recorded W Entry) H} (idle : s.endpoint.sending = false) :
    Returns (send visited document activity) s fun _ t => ∃ during answer,
      t.world.diary = s.world.diary ++ (during ++ answer) ∧ Excluded (during ++ answer) ∧
      (Disturbed during → (∀ notified ∈ answer.filterMap told?, notified.2 = .ok ()) →
        ∃ size, 0 < size ∧ answer.filterMap told? =
          (Bytes.pieces size (Bytes.ofText (Reply.inlineError "Transmission busy" "busy")) ++
            [endMarker]).map (·, .ok ())) ∧
      (t.endpoint.busyOwed = true ↔ Disturbed answer) := by
  obtain ⟨result, t, u, during, answer, rest, left, -, written, -, excluded, given, -, -, word⟩ :=
    same.send_beside document activity idle
  refine ⟨result, t, left, during, answer, written, excluded, ?_, word⟩
  intro disturbed taken
  obtain ⟨first, last, gives⟩ := given (.inr disturbed)
  rw [← told_filter_isCall] at taken ⊢
  exact gives.whole taken

/-- Nobody came during the answer, so no word is left. -/
theorem word_left_iff_disturbed_answer_with_early_callers :
    let s : Station (Recorded Nat Entry) Empty := ⟨.fresh {}, { world := 0 }⟩
    openPorts.Revisited (crowdedPorts [3, 6]) ∧ s.endpoint.sending = false ∧
      Returns (send (crowdedPorts [3, 6]) (.steady [97]) none) s fun _ t => ∃ during answer,
        t.world.diary = during ++ answer ∧ Excluded (during ++ answer) ∧
        (t.endpoint.busyOwed = true ↔ Disturbed answer) ∧ t.endpoint.busyOwed = false := by
  intro s
  have idle : s.endpoint.sending = false := rfl
  have answered : (exec (send (crowdedPorts [3, 6]) (.steady [97]) none) s).2.endpoint.busyOwed =
      false := by
    decide +kernel
  obtain ⟨result, t, run, during, answer, written, excluded, -, word⟩ :=
    word_left_iff_disturbed_answer (crowdedPorts_revisit [3, 6]) (.steady [97]) none idle
  rw [run] at answered
  exact ⟨crowdedPorts_revisit [3, 6], idle, result, t, run, during, answer, written, excluded,
    word, answered⟩

/-- Somebody sends while a chunk goes out, and somebody else while the "busy" answer does. The
link takes everything, both are turned away, and there is one answer. Word is left that nobody
takes. -/
theorem word_left_behind_answer :
    let run := exec (send (crowdedPorts [3, 11]) (.steady [97]) none) ⟨.fresh {}, { world := 0 }⟩
    run.1 = .ok (.ok ()) ∧
      run.2.world.diary.filter (fun entry => !entry.isCall) =
        [.nested (.error .lockTimeout), .nested (.error .lockTimeout)] ∧
      run.2.world.diary.filterMap told? =
        ([[97], endMarker] ++ Bytes.pieces 20 (Bytes.ofText
          (Reply.inlineError "Transmission busy" "busy")) ++ [endMarker]).map (·, .ok ()) ∧
      run.2.endpoint.busyOwed = true := by
  decide +kernel

end CommandLink
