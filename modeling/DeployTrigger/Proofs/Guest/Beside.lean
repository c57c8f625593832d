import DeployTrigger.Proofs.Guest.Tandem

/-!
Whole executions side by side. An execution that ends has another one beside it, in the module with
silenced calls, which ends alike (`Alongside.beside`); and it ends if that one does
(`Alongside.ends`).
-/
namespace DeployTrigger.Guest
open Deploy Machine

namespace Machine
variable {m m' : Module} {c c' d d' : Machine} {o : Outcome} {s s' : Store}
  {booked : List Booking}

theorem Ends.of_leads (hl : Leads m c d) (h : Ends m d o s) : Ends m c o s := by
  induction hl with
  | refl => exact h
  | head hs _ ih => exact (ih h).head hs

/-- From a machine on the way, no more steps are left than there were. -/
theorem Leads.run_of_run (hl : Leads m c d) {n : Nat} (h : c.run m n = (o, s))
    (ho : o ≠ .unfinished) : ∃ k ≤ n, d.run m k = (o, s) := by
  induction hl generalizing n with
  | refl => exact ⟨n, Nat.le_refl n, h⟩
  | head hs _ ih =>
    cases n with
    | zero =>
      cases h
      exact absurd rfl ho
    | succ n =>
      rw [run, hs] at h
      obtain ⟨k, hk, hrun⟩ := ih h
      exact ⟨k, Nat.le_succ_of_le hk, hrun⟩

namespace Pace

theorem step (h : Pace m m' c c' booked d d') : c.step m = .go d := by
  cases h <;> assumption

theorem leads (h : Pace m m' c c' booked d d') :
    ∃ e', c'.step m' = .go e' ∧ Leads m' e' d' := by
  cases h with
  | quiet _ hs' hl => exact ⟨_, hs', hl⟩
  | kept _ _ _ hs' => exact ⟨_, hs', .refl _⟩
  | silenced _ _ _ _ hs' => exact ⟨_, hs', .refl _⟩

theorem events (h : Pace m m' c c' booked d d') :
    d.store.events = c.store.events ++ booked.map Booking.event := by
  simp only [Store.events]
  cases h with
  | quiet _ _ _ hlog => simp [hlog]
  | kept _ _ _ _ hlog => simp [hlog]
  | silenced _ _ _ _ _ hlog => simp [hlog]

theorem events_heard (h : Pace m m' c c' booked d d') :
    d'.store.events = c'.store.events ++ heard booked := by
  simp only [Store.events]
  cases h with
  | quiet _ _ _ _ hlog' => simp [hlog', heard]
  | kept _ _ _ _ _ hlog' => simp [hlog', heard]
  | silenced _ _ _ _ _ _ hlog' => simp [hlog', heard]

end Pace

/-- Two executions side by side, from where they are to how they end, and the events logged on the
way. -/
inductive Beside (m m' : Module) :
    Machine → Machine → List Booking → Outcome → Store → Store → Prop where
  | value {c c' : Machine} {v : UInt64} (h : Alongside c c') (hs : c.step m = .done v c.store)
      (hs' : c'.step m' = .done v c'.store) : Beside m m' c c' [] (.value v) c.store c'.store
  | stopped {c c' : Machine} {why : Stop} (h : Alongside c c') (hs : c.step m = .stop why c.store)
      (hs' : c'.step m' = .stop why c'.store) :
      Beside m m' c c' [] (.stopped why) c.store c'.store
  | onward {c c' d d' : Machine} {booked rest : List Booking} {o : Outcome} {s s' : Store}
      (h : Alongside c c') (hp : Pace m m' c c' booked d d')
      (hrest : Beside m m' d d' rest o s s') : Beside m m' c c' (booked ++ rest) o s s'

namespace Beside

theorem ends (h : Beside m m' c c' booked o s s') : Ends m c o s := by
  induction h with
  | value _ hs => exact .value (.refl _) hs
  | stopped _ hs => exact .stopped (.refl _) hs
  | onward _ hp _ ih => exact ih.head hp.step

theorem ends_silenced (h : Beside m m' c c' booked o s s') : Ends m' c' o s' := by
  induction h with
  | value _ _ hs' => exact .value (.refl _) hs'
  | stopped _ _ hs' => exact .stopped (.refl _) hs'
  | onward _ hp _ ih =>
    obtain ⟨e', hs', hl⟩ := hp.leads
    exact (Ends.of_leads hl ih).head hs'

theorem state (h : Beside m m' c c' booked o s s') : s'.toState = s.toState := by
  induction h with
  | value h => exact h.state
  | stopped h => exact h.state
  | onward _ _ _ ih => exact ih

theorem events (h : Beside m m' c c' booked o s s') :
    s.events = c.store.events ++ booked.map Booking.event := by
  induction h with
  | value | stopped => simp
  | onward _ hp _ ih => rw [ih, hp.events, List.map_append, List.append_assoc]

theorem events_heard (h : Beside m m' c c' booked o s s') :
    s'.events = c'.store.events ++ heard booked := by
  induction h with
  | value | stopped => simp [heard]
  | onward _ hp _ ih => rw [ih, hp.events_heard, heard_append, List.append_assoc]

end Beside

theorem Alongside.beside_value (hm : m.Silenced m') (h : Alongside c c') {v : UInt64}
    (hs : c.step m = .done v s) : ∃ s', Beside m m' c c' [] (.value v) s s' := by
  cases h.step hm with
  | value hv hv' =>
    cases hv.symm.trans hs
    exact ⟨_, .value h hv hv'⟩
  | stopped hv => cases hv.symm.trans hs
  | onward hp => cases hp.step.symm.trans hs

theorem Alongside.beside_stopped (hm : m.Silenced m') (h : Alongside c c') {why : Stop}
    (hs : c.step m = .stop why s) : ∃ s', Beside m m' c c' [] (.stopped why) s s' := by
  cases h.step hm with
  | value hv => cases hv.symm.trans hs
  | stopped hv hv' =>
    cases hv.symm.trans hs
    exact ⟨_, .stopped h hv hv'⟩
  | onward hp => cases hp.step.symm.trans hs

theorem Alongside.beside_of_leads (hm : m.Silenced m') (hl : Leads m c d)
    (hd : ∀ {d'}, Alongside d d' → ∃ booked s', Beside m m' d d' booked o s s')
    (h : Alongside c c') : ∃ booked s', Beside m m' c c' booked o s s' := by
  induction hl generalizing c' with
  | refl => exact hd h
  | head hs _ ih =>
    cases h.step hm with
    | value hv => cases hv.symm.trans hs
    | stopped hv => cases hv.symm.trans hs
    | onward hp hnext =>
      cases hp.step.symm.trans hs
      obtain ⟨rest, s', hrest⟩ := ih hd hnext
      exact ⟨_, s', .onward h hp hrest⟩

/-- An execution that ends has another one beside it. -/
theorem Alongside.beside (hm : m.Silenced m') (h : Alongside c c') (he : Ends m c o s) :
    ∃ booked s', Beside m m' c c' booked o s s' := by
  cases he with
  | value hl hs => exact beside_of_leads hm hl (fun h => ⟨_, h.beside_value hm hs⟩) h
  | stopped hl hs => exact beside_of_leads hm hl (fun h => ⟨_, h.beside_stopped hm hs⟩) h

/-- An execution does not go on for ever if it ends with silenced calls. -/
theorem Alongside.ends (hm : m.Silenced m') (h : Alongside c c') {o' : Outcome} {s' : Store}
    (he : Ends m' c' o' s') : ∃ o s, Ends m c o s := by
  have ho : o' ≠ .unfinished := fun hu => (hu ▸ he).not_unfinished
  obtain ⟨n, hn⟩ := run_of_ends he
  have hrun := hn n (Nat.le_refl n)
  clear hn he
  -- The bound of the second run falls, as each step of the first is one of the second at least.
  induction n using Nat.strongRecOn generalizing c c' with
  | ind n ih =>
    cases h.step hm with
    | value hs => exact ⟨_, _, .value (.refl c) hs⟩
    | stopped hs => exact ⟨_, _, .stopped (.refl c) hs⟩
    | onward hp hnext =>
      obtain ⟨e', hs', hl⟩ := hp.leads
      cases n with
      | zero =>
        cases hrun
        exact absurd rfl ho
      | succ n =>
        rw [Machine.run, hs'] at hrun
        obtain ⟨k, hk, hrest⟩ := hl.run_of_run hrun ho
        obtain ⟨o, s, hends⟩ := ih k (Nat.lt_succ_of_le hk) hnext hrest
        exact ⟨o, s, hends.head hp.step⟩

end Machine
end DeployTrigger.Guest
