import CommandLink.Endpoint.Station

/-!
# Running procedures

`exec` runs a procedure on a station. Its equations take a procedure apart into
what its parts do, one after the other.

`Returns` says of a procedure on a station that it comes back, and what is then
known of its result and of the station. `Within R` says that it comes back from
every station, and that the station it leaves stands in `R` to the one it was
given. When `R` is a preorder, a procedure is within `R` as soon as its parts are.

A world that is `Recorded` keeps a diary. What is written there is of no account
to an endpoint; it is for statements about what happened during a run.
-/

namespace CommandLink.Act

variable {W H α β : Type}

/-- The result of a procedure on a station, and the station behind it. -/
def exec (act : Act W H α) (station : Station W H) : Except Crash α × Station W H :=
  act.run.run station

/-! ## Equations -/

theorem exec_bind (act : Act W H α) (next : α → Act W H β) (s : Station W H) :
    exec (act >>= next) s =
      match exec act s with
      | (.ok a, after) => exec (next a) after
      | (.error crash, after) => (.error crash, after) := by
  simp only [exec, ExceptT.run_bind, StateT.run_bind]
  rcases act.run.run s with ⟨_ | _, _⟩ <;> rfl

theorem exec_bind_of_ok {act : Act W H α} {s after : Station W H} {a : α}
    (returned : exec act s = (.ok a, after)) (next : α → Act W H β) :
    exec (act >>= next) s = exec (next a) after := by
  rw [exec_bind, returned]

theorem exec_map (f : α → β) (act : Act W H α) (s : Station W H) :
    exec (f <$> act) s = ((exec act s).1.map f, (exec act s).2) := by
  change exec (act >>= fun a => pure (f a)) s = _
  rw [exec_bind]
  rcases exec act s with ⟨_ | _, _⟩ <;> rfl

@[simp] theorem exec_world (s : Station W H) : exec world s = (.ok s.world, s) := rfl

@[simp] theorem exec_step (change : Endpoint H → α × Endpoint H) (s : Station W H) :
    exec (step change) s =
      (.ok (change s.endpoint).1, { s with endpoint := (change s.endpoint).2 }) := rfl

theorem exec_ensuring (change : Endpoint H → Endpoint H) (act : Act W H α) (s : Station W H) :
    exec (ensuring change act) s =
      ((exec act s).1, { (exec act s).2 with endpoint := change (exec act s).2.endpoint }) := rfl

theorem exec_discard (act : Act W H α) (s : Station W H) :
    exec (discard act) s = ((exec act s).1.map fun _ => (), (exec act s).2) := exec_map _ act s

/-! ## What is known when a procedure comes back -/

/-- A procedure comes back from a station, and leaves what `known` says. -/
def Returns (act : Act W H α) (s : Station W H) (known : α → Station W H → Prop) : Prop :=
  ∃ a after, exec act s = (.ok a, after) ∧ known a after

theorem returns_pure {s : Station W H} {a : α} {known : α → Station W H → Prop}
    (holds : known a s) : Returns (pure a) s known := ⟨a, s, rfl, holds⟩

theorem Returns.bind {act : Act W H α} {next : α → Act W H β} {s : Station W H}
    {between : α → Station W H → Prop} {known : β → Station W H → Prop}
    (first : Returns act s between)
    (second : ∀ a middle, between a middle → Returns (next a) middle known) :
    Returns (act >>= next) s known := by
  obtain ⟨a, middle, returned, there⟩ := first
  obtain ⟨b, after, finished, holds⟩ := second a middle there
  exact ⟨b, after, (exec_bind_of_ok returned next).trans finished, holds⟩

theorem returns_endpoint {next : Endpoint H → Act W H β} {s : Station W H}
    {known : β → Station W H → Prop} (rest : Returns (next s.endpoint) s known) :
    Returns (endpoint >>= next) s known := rest

theorem returns_world {next : W → Act W H β} {s : Station W H} {known : β → Station W H → Prop}
    (rest : Returns (next s.world) s known) : Returns (world >>= next) s known := rest

theorem returns_modifyEndpoint {change : Endpoint H → Endpoint H} {next : Unit → Act W H β}
    {s : Station W H} {known : β → Station W H → Prop}
    (rest : Returns (next ()) { s with endpoint := change s.endpoint } known) :
    Returns (modifyEndpoint change >>= next) s known := rest

theorem returns_step {change : Endpoint H → α × Endpoint H} {next : α → Act W H β}
    {s : Station W H} {known : β → Station W H → Prop}
    (rest : Returns (next (change s.endpoint).1) { s with endpoint := (change s.endpoint).2 }
      known) :
    Returns (step change >>= next) s known := rest

theorem Returns.mono {act : Act W H α} {s : Station W H} {known wanted : α → Station W H → Prop}
    (returns : Returns act s known) (enough : ∀ a after, known a after → wanted a after) :
    Returns act s wanted := by
  obtain ⟨a, after, returned, holds⟩ := returns
  exact ⟨a, after, returned, enough a after holds⟩

/-- What is known in two ways is known of the same result and station. -/
theorem Returns.and {act : Act W H α} {s : Station W H} {known also : α → Station W H → Prop}
    (first : Returns act s known) (second : Returns act s also) :
    Returns act s fun a after => known a after ∧ also a after := by
  obtain ⟨a, after, returned, holds⟩ := first
  obtain ⟨b, other, again, holding⟩ := second
  obtain ⟨same, rfl⟩ := Prod.mk.inj (returned.symm.trans again)
  obtain rfl := Except.ok.inj same
  exact ⟨a, after, returned, holds, holding⟩

theorem Returns.of_exec {act : Act W H α} {s after : Station W H} {a : α}
    {known : α → Station W H → Prop} (returns : Returns act s known)
    (run : exec act s = (.ok a, after)) : known a after := by
  obtain ⟨b, other, again, holds⟩ := returns
  obtain ⟨same, rfl⟩ := Prod.mk.inj (again.symm.trans run)
  obtain rfl := Except.ok.inj same
  exact holds

theorem Returns.discard {act : Act W H α} {s : Station W H} {known : Station W H → Prop}
    (returns : Returns act s fun _ after => known after) :
    Returns (discard act) s fun _ after => known after := by
  obtain ⟨a, after, returned, holds⟩ := returns
  exact ⟨(), after, by rw [exec_discard, returned]; rfl, holds⟩

theorem Returns.ensuring {change : Endpoint H → Endpoint H} {act : Act W H α} {s : Station W H}
    {known : α → Station W H → Prop}
    (returns : Returns act s fun a after =>
      known a { after with endpoint := change after.endpoint }) :
    Returns (ensuring change act) s known := by
  obtain ⟨a, after, returned, holds⟩ := returns
  exact ⟨a, _, by rw [exec_ensuring, returned], holds⟩

/-! ## What stays within a relation -/

/-- A procedure comes back, and what it did is within `R`. -/
def Within (R : Station W H → Station W H → Prop) (act : Act W H α) : Prop :=
  ∀ s, Returns act s fun _ after => R s after

section Within

variable {R : Station W H → Station W H → Prop}

theorem within_pure (refl : ∀ s, R s s) (a : α) : Within R (pure a : Act W H α) :=
  fun s => returns_pure (refl s)

theorem Within.bind (trans : ∀ s t u, R s t → R t u → R s u) {act : Act W H α}
    {next : α → Act W H β} (first : Within R act) (second : ∀ a, Within R (next a)) :
    Within R (act >>= next) := by
  intro s
  refine (first s).bind fun a middle there => ?_
  exact (second a middle).mono fun _ after further => trans s middle after there further

theorem Within.discard {act : Act W H α} (within : Within R act) :
    Within R (discard act) := fun s => (within s).discard

theorem within_modifyEndpoint {change : Endpoint H → Endpoint H}
    (allowed : ∀ s, R s { s with endpoint := change s.endpoint }) :
    Within R (modifyEndpoint change : Act W H Unit) := fun s => ⟨(), _, rfl, allowed s⟩

theorem Within.ensuring (trans : ∀ s t u, R s t → R t u → R s u)
    {change : Endpoint H → Endpoint H} {act : Act W H α}
    (allowed : ∀ s, R s { s with endpoint := change s.endpoint }) (within : Within R act) :
    Within R (ensuring change act) := by
  intro s
  refine Returns.ensuring ((within s).mono fun _ after there => ?_)
  exact trans s after _ there (allowed after)

end Within

end CommandLink.Act

/-! ## Recorded worlds -/

namespace CommandLink

/-- A world with a diary of what happened in it. -/
structure Recorded (W E : Type) where
  world : W
  diary : List E := []

variable {W H E : Type}

/-- The station with another endpoint, and with entries added to its diary. -/
def Station.record (s : Station (Recorded W E) H) (entries : List E) (endpoint : Endpoint H) :
    Station (Recorded W E) H :=
  ⟨endpoint, { s.world with diary := s.world.diary ++ entries }⟩

@[simp] theorem Station.record_nil (s : Station (Recorded W E) H) (endpoint : Endpoint H) :
    s.record [] endpoint = { s with endpoint } := by
  simp [record]

/-- Write into the diary. -/
def Act.note (entries : List E) : Act (Recorded W E) H Unit :=
  Act.modifyWorld fun world => { world with diary := world.diary ++ entries }

theorem Act.returns_note {α : Type} {entries : List E} {next : Unit → Act (Recorded W E) H α}
    {s : Station (Recorded W E) H} {known : α → Station (Recorded W E) H → Prop}
    (rest : Act.Returns (next ()) (s.record entries s.endpoint) known) :
    Act.Returns (Act.note entries >>= next) s known := rest

end CommandLink
