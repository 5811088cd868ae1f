import CommandLink.Proofs.Scratch

/-!
# What a send owes to the sends before it

Documents that were completed, broken off, refused or crashed leave something behind: counts,
what is in the buffer, a request to cancel that came too late. The next document does not
depend on any of it. What sending reads of an endpoint, besides settings and the state of the
negotiation, are the lock and the word of a "busy" answer, and it voids a request to cancel
that was there before it.

The statement is about two endpoints, each in a world and with ports of its own. That their
ports behave in the same way is said for stations that are `Akin`.
-/

namespace CommandLink

open Act

variable {W V H G E α β : Type}

/-! ## Stations that sending cannot tell from each other -/

/-- Stations in related worlds that agree in what sending reads. While the lock is held that
includes whether a request to cancel is waiting. -/
structure Station.Akin (Same : W → V → Prop) (held : Prop) (a : Station W H) (b : Station V G) :
    Prop where
  world : Same a.world b.world
  settings : a.endpoint.settings = b.endpoint.settings
  state : a.endpoint.state = b.endpoint.state
  sending : a.endpoint.sending = b.endpoint.sending
  owed : a.endpoint.busyOwed = b.endpoint.busyOwed
  cancel : held → a.endpoint.cancelRequested = b.endpoint.cancelRequested

open Station

variable {Same : W → V → Prop} {p : Ports W H} {q : Ports V G}

/-- Whoever takes the lock voids the request to cancel, and stations that were akin outside are
akin inside. -/
theorem akin_likeness (units : ∀ v w, Same v w → p.mtu v = q.mtu w) :
    Likeness p q (Akin Same False) (Akin Same True) where
  settings a b there := there.settings
  chunk a b there := by
    change a.endpoint.state.chunkSize _ = b.endpoint.state.chunkSize _
    rw [there.state, units _ _ there.world]
  count change a b there := { there with }
  cancel a b there := ⟨there.cancel trivial, { there with cancel := fun _ => rfl }⟩
  owed a b there := ⟨there.owed, { there with owed := rfl }⟩
  sending a b there := there.sending
  flight change a b there := { there with }
  owe change a b there := { there with owed := rfl }
  lock a b there := { there with sending := rfl, cancel := fun _ => rfl }
  unlock a b there := { there with sending := rfl, cancel := nofun }

/-! ## Journals that grow by the same -/

/-- Related worlds, in which the same was written down since the diaries were `base` and
`other`. -/
def SameSince (Same : W → V → Prop) (base other : List E) (v : Recorded W E) (w : Recorded V E) :
    Prop :=
  Same v.world w.world ∧ ∃ entries, v.diary = base ++ entries ∧ w.diary = other ++ entries

theorem lift_akin {base other : List E} {held : Prop} {Q : α → β → Prop} {f : Act W H α}
    {g : Act V G β} (alike : Alike (Akin Same held) Q f g) :
    Alike (Akin (SameSince Same base other) held) Q (lift f) (lift g) := by
  apply lift_alike _ _ alike
  · intro a b there
    exact { there with world := there.world.1 }
  · intro a b s t there still
    exact { still with world := ⟨still.world, there.world.2⟩ }

theorem akin_enters {base other : List Entry} :
    Enters (Akin (H := H) (G := G) (SameSince Same base other) True) := by
  intro a b there
  refine ⟨there.cancel trivial, fun exchange before after => ?_⟩
  obtain ⟨same, entries, left, right⟩ := there.world
  refine { there with world := ⟨same, entries ++ [.call exchange before after], ?_, ?_⟩ }
  · simp [record, left]
  · simp [record, right]

/-- Ports that behave in the same way also write the same. -/
theorem Ports.SendAlike.journaled {base other : List Entry}
    (alike : p.SendAlike q (Akin Same True)) :
    p.journaled.SendAlike q.journaled (Akin (SameSince Same base other) True) where
  notify bytes := entered_alike akin_enters (lift_akin (alike.notify bytes)) _
  sleep time := entered_alike akin_enters (lift_akin (alike.sleep time)) _
  freeBytes := entered_alike akin_enters (lift_akin alike.freeBytes) _
  allocate pool size := entered_alike akin_enters (lift_akin (alike.allocate pool size)) _

/-- Two runs end in the same way, and the same is written down in them. -/
def Act.Concur (f : Act (Recorded W E) H α) (g : Act (Recorded V E) G α)
    (s : Station (Recorded W E) H) (t : Station (Recorded V E) G) : Prop :=
  (exec f s).1 = (exec g t).1 ∧ ∃ entries,
    (exec f s).2.world.diary = s.world.diary ++ entries ∧
      (exec g t).2.world.diary = t.world.diary ++ entries

theorem Act.Alike.concur {f : Act (Recorded W E) H α} {g : Act (Recorded V E) G α}
    {s : Station (Recorded W E) H} {t : Station (Recorded V E) G} {held : Prop}
    (alike : Alike (Akin (SameSince Same s.world.diary t.world.diary) held) Eq f g)
    (there : Akin (SameSince Same s.world.diary t.world.diary) held s t) : Concur f g s t := by
  rcases alike s t there with
    ⟨x, _, u, v, left, right, rfl, still⟩ | ⟨crash, u, v, left, right, still⟩
  · rw [Concur, left, right]
    exact ⟨rfl, still.world.2⟩
  · rw [Concur, left, right]
    exact ⟨rfl, still.world.2⟩

/-! ## Histories -/

/-- What an endpoint with these settings has been through, and the buffer with it: documents
that were sent over whatever ports and with whatever result, or that crashed with the buffer
in whatever state. Between two of them all may change but the settings and the lock. A request
to cancel may be raised then, and the peer may ask for anything. -/
inductive Past (settings : Settings) : Endpoint H → Scratch → Prop where
  | fresh (scratch) : Past settings (.fresh settings) scratch
  | sent {W : Type} {ports : Ports W H} {document activity scratch last result}
      {s t : Station W H} (before : Past settings s.endpoint scratch)
      (steady : ports.Keep fun s => s.endpoint.settings = settings)
      (run : exec (scratch.send ports document activity) s = (.ok (result, last), t)) :
    Past settings t.endpoint last
  | crashed {W : Type} {ports : Ports W H} {document activity scratch crash} {s t : Station W H}
      (before : Past settings s.endpoint scratch)
      (steady : ports.Keep fun s => s.endpoint.settings = settings)
      (run : exec (scratch.send ports document activity) s = (.error crash, t)) (last) :
    Past settings t.endpoint last
  | between {scratch} {endpoint other : Endpoint H} (before : Past settings endpoint scratch)
      (same : other.settings = endpoint.settings) (lock : other.sending = endpoint.sending) :
    Past settings other scratch

/-- A send leaves the settings as they are, and frees the lock that it took, also when it
crashes. -/
theorem free_behind_send {settings : Settings} (valid : settings.Valid) {ports : Ports W H}
    (steady : ports.Keep fun s => s.endpoint.settings = settings) {document : Document}
    {activity : Option Activity} {scratch : Scratch} {s t : Station W H}
    {outcome : Except Crash (Except SendError Unit × Scratch)}
    (same : s.endpoint.settings = settings) (idle : s.endpoint.sending = false)
    (run : exec (scratch.send ports document activity) s = (outcome, t)) :
    t.endpoint.settings = settings ∧ t.endpoint.sending = false := by
  have plain := exec_of_sameResult (Scratch.send_alike steady valid document activity scratch) same
  rw [exec_map, run] at plain
  have left : t = (exec (send ports document activity) s).2 := congrArg Prod.snd plain
  rw [left]
  constructor
  · exact steady.send_keeps (settings_immune settings) document activity s same
  · rw [exec_send_of_idle idle]
    rfl

namespace Past

variable {settings : Settings} {endpoint : Endpoint H} {scratch : Scratch}

theorem free (valid : settings.Valid) (past : Past settings endpoint scratch) :
    endpoint.settings = settings ∧ endpoint.sending = false := by
  induction past with
  | fresh => exact ⟨rfl, rfl⟩
  | sent _ steady run ih => exact free_behind_send valid steady ih.1 ih.2 run
  | crashed _ steady run _ ih => exact free_behind_send valid steady ih.1 ih.2 run
  | between _ same lock ih => exact ⟨same.trans ih.1, lock.trans ih.2⟩

/-- Every send is one more thing to have been through, however it ends. -/
theorem behind_send {s : Station W H} (past : Past settings s.endpoint scratch)
    {ports : Ports W H} (steady : ports.Keep fun s => s.endpoint.settings = settings)
    (document : Document) (activity : Option Activity) :
    ∃ last, Past settings (exec (scratch.send ports document activity) s).2.endpoint last := by
  cases run : exec (scratch.send ports document activity) s with
  | mk outcome t =>
    cases outcome with
    | ok pair => exact ⟨pair.2, past.sent steady run⟩
    | error crash => exact ⟨scratch, past.crashed steady run scratch⟩

end Past

/-- Two endpoints with the same settings, whatever they have been through and whatever their
buffers hold: as long as they are in the same state of negotiation and owe no "busy" answer, a
document that they send over ports that behave in the same way has the same result, with the
same notifications, pauses and looks at the memory, also when it is sent through the buffer. -/
theorem send_forgets_past {settings : Settings} {fresh : Endpoint H}
    (made : Endpoint.create settings = .ok fresh)
    (units : ∀ v w, Same v w → p.mtu v = q.mtu w)
    (steady : p.Keep fun s => s.endpoint.settings = settings)
    (steadily : q.Keep fun s => s.endpoint.settings = settings)
    (alike : p.SendAlike q (Akin Same True)) {s : Station (Recorded W Entry) H}
    {t : Station (Recorded V Entry) G} {x y : Scratch} (past : Past settings s.endpoint x)
    (other : Past settings t.endpoint y) (world : Same s.world.world t.world.world)
    (state : s.endpoint.state = t.endpoint.state)
    (unowed : s.endpoint.busyOwed = false ∧ t.endpoint.busyOwed = false)
    (document : Document) (activity : Option Activity) :
    Concur (send p.journaled document activity) (send q.journaled document activity) s t ∧
      Concur (Prod.fst <$> x.send p.journaled document activity)
        (Prod.fst <$> y.send q.journaled document activity) s t := by
  obtain ⟨valid, -⟩ := Endpoint.eq_fresh_of_create made
  obtain ⟨settled, idle⟩ := past.free valid
  obtain ⟨settledToo, idleToo⟩ := other.free valid
  -- The requests to cancel may differ: outside the lock nothing is said of them.
  have akin : Akin (SameSince Same s.world.diary t.world.diary) False s t :=
    { world := ⟨world, [], by simp, by simp⟩
      settings := settled.trans settledToo.symm
      state := state
      sending := idle.trans idleToo.symm
      owed := unowed.1.trans unowed.2.symm
      cancel := nofun }
  have plain : Concur (send p.journaled document activity) (send q.journaled document activity)
      s t := by
    have like : Likeness p.journaled q.journaled
        (Akin (SameSince Same s.world.diary t.world.diary) False)
        (Akin (SameSince Same s.world.diary t.world.diary) True) :=
      akin_likeness fun v w same => units _ _ same.1
    exact (like.send_alike alike.journaled document activity).concur akin
  refine ⟨plain, ?_⟩
  -- The buffer does not show, on either side.
  have first := Scratch.send_alike
    (Ports.Keep.journaled (I := fun endpoint => endpoint.settings = settings) steady) valid
    document activity x
  have second := Scratch.send_alike
    (Ports.Keep.journaled (I := fun endpoint => endpoint.settings = settings) steadily) valid
    document activity y
  rw [Concur, exec_of_sameResult first settled, exec_of_sameResult second settledToo]
  exact plain

/-- An endpoint that broke off a document when the peer asked for it, and was asked once more
when nothing went out any more, sends the next one as a fresh endpoint does. -/
theorem send_forgets_past_of_cancelled :
    let asking : Ports Nat Empty :=
      { openPorts with
        sleep := fun _ => modifyEndpoint fun endpoint => { endpoint with cancelRequested := true } }
    let broken := (exec (({} : Scratch).send asking (.steady (List.replicate 30 97)) none)
      ⟨.fresh {}, 7⟩).2
    let s : Station (Recorded Nat Entry) Empty := ⟨.fresh {}, { world := 0 }⟩
    let t : Station (Recorded Nat Entry) Empty :=
      ⟨{ broken.endpoint with cancelRequested := true }, { world := broken.world }⟩
    let next : Document := .steady [123, 125]
    broken.endpoint.counters.cancellations = 1 ∧ Past {} s.endpoint {} ∧
      (exec (send openPorts.journaled next none) t).1 = .ok (.ok ()) ∧
      ∃ last, Past {} t.endpoint last ∧
        Concur (send openPorts.journaled next none) (send openPorts.journaled next none) s t ∧
        Concur (Prod.fst <$> ({} : Scratch).send openPorts.journaled next none)
          (Prod.fst <$> last.send openPorts.journaled next none) s t := by
  intro asking broken s t next
  have made : Endpoint.create {} = .ok (Endpoint.fresh {} : Endpoint Empty) := rfl
  have steady := openPorts_keep fun endpoint => endpoint.settings = {}
  have asked : asking.Keep fun s => s.endpoint.settings = {} :=
    { steady with sleep := fun _ _ there => there }
  -- The clocks differ, and nothing else tells the worlds apart.
  have alike : openPorts.SendAlike openPorts
      (Akin (H := Empty) (G := Empty) (fun _ _ => True) True) :=
    { notify := fun _ => alike_pure rfl
      sleep := fun _ _ _ there => .inl ⟨(), (), _, _, rfl, rfl, rfl, { there with world := trivial }⟩
      freeBytes := alike_pure rfl
      allocate := fun _ _ => alike_pure rfl }
  have past : Past {} s.endpoint {} := .fresh {}
  obtain ⟨last, through⟩ := (Past.fresh {}).behind_send (s := (⟨.fresh {}, 7⟩ : Station Nat Empty))
    asked (.steady (List.replicate 30 97)) none
  have other : Past {} t.endpoint last := through.between rfl rfl
  obtain ⟨cancelled, state, unowed, sent⟩ : broken.endpoint.counters.cancellations = 1 ∧
      s.endpoint.state = t.endpoint.state ∧ t.endpoint.busyOwed = false ∧
      (exec (send openPorts.journaled next none) t).1 = .ok (.ok ()) := by
    decide +kernel
  obtain ⟨plain, buffered⟩ := send_forgets_past made (fun _ _ _ => rfl) steady steady alike past
    other trivial state ⟨rfl, unowed⟩ next none
  exact ⟨cancelled, past, sent, last, other, plain, buffered⟩

end CommandLink
