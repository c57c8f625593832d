import DeployTrigger.Attempt

/-!
Logged work under a bound on its steps. Work is stable if a larger bound only lets it finish; it
settles to what it does from some bound on. A sequence of stable work settles stage by stage
(`Settles.bind`, `Settles.of_bind`).
-/
namespace DeployTrigger.Deploy
variable {α β : Type}

theorem outcome_bind_of_ok {x : Deploy α} {a : α} {events : List Log.Event}
    (h : x.outcome = ⟨.ok a, events⟩) (f : α → Deploy β) :
    (x >>= f).outcome = ⟨(f a).outcome.value, events ++ (f a).outcome.events⟩ := by
  change (ExceptT.run x >>= _ : Log.Logged _) = _
  have hx : ExceptT.run x = ⟨.ok a, events⟩ := h
  rw [hx]
  rfl

theorem outcome_bind_of_error {x : Deploy α} {e : Failure} {events : List Log.Event}
    (h : x.outcome = ⟨.error e, events⟩) (f : α → Deploy β) :
    (x >>= f).outcome = ⟨.error e, events⟩ := by
  change (ExceptT.run x >>= _ : Log.Logged _) = _
  have hx : ExceptT.run x = ⟨.error e, events⟩ := h
  rw [hx]
  change (⟨.error e, events ++ []⟩ : Log.Logged (Except Failure β)) = _
  rw [List.append_nil]

theorem bind_pure_eq (x : Deploy α) : x >>= pure = x := by
  obtain ⟨v, events, hx⟩ : ∃ v events, x.outcome = ⟨v, events⟩ := ⟨_, _, rfl⟩
  change (x >>= pure).outcome = x.outcome
  cases v with
  | error e => rw [outcome_bind_of_error hx, hx]
  | ok a =>
    rw [outcome_bind_of_ok hx, hx]
    exact congrArg (Log.Logged.mk _) (List.append_nil events)

/-- Events are logged one after the other. -/
theorem outcome_forM_emit (events : List Log.Event) :
    (events.forM emit).outcome = ⟨.ok (), events⟩ := by
  induction events with
  | nil => rfl
  | cons e events ih =>
    have he : (emit e).outcome = ⟨.ok (), [e]⟩ := rfl
    change (emit e >>= fun _ => events.forM emit).outcome = _
    rw [outcome_bind_of_ok he, ih]
    rfl

/-- With a larger bound the work does the same, unless it gave up. -/
def Stable (work : Nat → Deploy α) : Prop :=
  ∀ n k, n ≤ k → (work n).outcome.value = .error .unfinished ∨ work k = work n

/-- From some bound on, the work ends with a result and logs certain events. -/
def Settles (work : Nat → Deploy α) (r : Except DeployError α) (events : List Log.Event) : Prop :=
  ∃ n, ∀ bound, n ≤ bound → (work bound).outcome = ⟨r.mapError .error, events⟩

theorem Settles.unique {work : Nat → Deploy α} {r r' : Except DeployError α}
    {events events' : List Log.Event} (h : Settles work r events) (h' : Settles work r' events') :
    r = r' ∧ events = events' := by
  obtain ⟨n, hn⟩ := h
  obtain ⟨n', hn'⟩ := h'
  have heq := (hn (max n n') (Nat.le_max_left _ _)).symm.trans (hn' _ (Nat.le_max_right _ _))
  cases r <;> cases r' <;> cases heq <;> exact ⟨rfl, rfl⟩

theorem Stable.outcome_eq {work : Nat → Deploy α} (hw : Stable work) {n bound : Nat}
    (hle : n ≤ bound) {r : Except DeployError α} {events : List Log.Event}
    (h : (work n).outcome = ⟨r.mapError .error, events⟩) :
    (work bound).outcome = ⟨r.mapError .error, events⟩ := by
  obtain hu | he := hw n bound hle
  · rw [h] at hu
    cases r <;> cases hu
  · rw [he, h]

/-- Stable work settles to whatever it ends with under some bound. -/
theorem Stable.settles {work : Nat → Deploy α} (hw : Stable work) {n : Nat}
    {r : Except DeployError α} {events : List Log.Event}
    (h : (work n).outcome = ⟨r.mapError .error, events⟩) : Settles work r events :=
  ⟨n, fun _ hle => hw.outcome_eq hle h⟩

theorem stable_const (x : Deploy α) : Stable fun _ => x := fun _ _ _ => .inr rfl

theorem settles_const_iff {x : Deploy α} {r : Except DeployError α} {events : List Log.Event} :
    Settles (fun _ => x) r events ↔ x.outcome = ⟨r.mapError .error, events⟩ :=
  ⟨fun ⟨n, hn⟩ => hn n (Nat.le_refl n), fun h => ⟨0, fun _ _ => h⟩⟩

theorem Stable.bind {work : Nat → Deploy α} {f : Nat → α → Deploy β} (hw : Stable work)
    (hf : ∀ a, Stable fun n => f n a) : Stable fun n => work n >>= f n := by
  intro n k hle
  obtain ⟨v, events, hx⟩ : ∃ v events, (work n).outcome = ⟨v, events⟩ := ⟨_, _, rfl⟩
  obtain hu | he := hw n k hle
  · rw [hx] at hu
    cases hu
    exact .inl (by rw [outcome_bind_of_error hx])
  · cases v with
    | error e =>
      refine .inr ?_
      have hx' : (work k).outcome = ⟨.error e, events⟩ := by rw [he, hx]
      exact (outcome_bind_of_error hx' (f k)).trans (outcome_bind_of_error hx (f n)).symm
    | ok a =>
      obtain hu | hfe := hf a n k hle
      · exact .inl (by rw [outcome_bind_of_ok hx]; exact hu)
      · refine .inr ?_
        have hx' : (work k).outcome = ⟨.ok a, events⟩ := by rw [he, hx]
        have hfe' : f k a = f n a := hfe
        refine (outcome_bind_of_ok hx' (f k)).trans (Eq.trans ?_ (outcome_bind_of_ok hx (f n)).symm)
        rw [hfe']

theorem Settles.bind {work : Nat → Deploy α} {f : Nat → α → Deploy β} {a : α}
    {r : Except DeployError β} {events events' : List Log.Event}
    (hw : Settles work (.ok a) events) (hf : Settles (fun n => f n a) r events') :
    Settles (fun n => work n >>= f n) r (events ++ events') := by
  obtain ⟨n, hn⟩ := hw
  obtain ⟨n', hn'⟩ := hf
  refine ⟨max n n', fun bound hle => ?_⟩
  rw [outcome_bind_of_ok (hn bound (by omega)), hn' bound (by omega)]

theorem Settles.bind_error {work : Nat → Deploy α} {e : DeployError} {events : List Log.Event}
    (hw : Settles work (.error e) events) (f : Nat → α → Deploy β) :
    Settles (fun n => work n >>= f n) (.error e) events := by
  obtain ⟨n, hn⟩ := hw
  exact ⟨n, fun bound hle => outcome_bind_of_error (hn bound hle) (f bound)⟩

/-- If a sequence settles, its first stage does: to the error of the whole, or to a value from
which the rest settles. -/
theorem Settles.of_bind {work : Nat → Deploy α} {f : Nat → α → Deploy β} (hw : Stable work)
    {r : Except DeployError β} {events : List Log.Event}
    (h : Settles (fun n => work n >>= f n) r events) :
    (∃ e, Settles work (.error e) events ∧ r = .error e) ∨
      ∃ a before after, Settles work (.ok a) before ∧ Settles (fun n => f n a) r after ∧
        events = before ++ after := by
  obtain ⟨n, hn⟩ := h
  have hfirst := hn n (Nat.le_refl n)
  obtain ⟨v, before, hx⟩ : ∃ v before, (work n).outcome = ⟨v, before⟩ := ⟨_, _, rfl⟩
  cases v with
  | error e =>
    rw [outcome_bind_of_error hx] at hfirst
    cases r <;> cases hfirst
    exact .inl ⟨_, hw.settles hx, rfl⟩
  | ok a =>
    rw [outcome_bind_of_ok hx] at hfirst
    injection hfirst with hvalue hevents
    refine .inr ⟨a, before, _, hw.settles (r := .ok a) hx, ⟨n, fun bound hle => ?_⟩, hevents.symm⟩
    have hbound : (work bound).outcome = ⟨.ok a, before⟩ := hw.outcome_eq hle (r := .ok a) hx
    -- Both runs log `before` first, so what the rest logs is the same as well.
    have hrest := hn bound hle
    rw [outcome_bind_of_ok hbound, ← hevents] at hrest
    injection hrest with hvalue' hevents'
    have hsame := List.append_cancel_left hevents'
    rw [← hvalue', ← hsame]

end DeployTrigger.Deploy
