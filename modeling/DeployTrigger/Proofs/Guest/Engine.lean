import DeployTrigger.Guest.Session
import DeployTrigger.Proofs.Settling

/-!
Work on an engine against work without one. A thread does on the state of its instance what a
machine does that holds this state (`Thread.run_eq`); work on an engine mirrors other work if it
logs the same, ends alike and leaves the states of earlier instances alone. Sequences of work that
mirrors other work mirror its sequence (`Mirrors.bind`).
-/
namespace DeployTrigger.Guest

@[simp] theorem Thread.machine_ofMachine (c : Machine) :
    (Thread.ofMachine c).machine c.store.toState = c := rfl

/-- Steps that look their state up are steps of the machine that holds it. -/
theorem Thread.run_eq {m : Module} {i : Nat} (fuel : Nat) (t : Thread) {e : Engine}
    (h : i < e.states.size) :
    t.run m i fuel e =
      ((t.machine (e.state i)).run m fuel,
        e.put i ((t.machine (e.state i)).run m fuel).2.toState) := by
  -- The state written back by one step is the one that the next step looks up.
  induction fuel generalizing t e with
  | zero =>
    simp only [Thread.run, Machine.run]
    change _ = (_, e.put i (e.state i))
    rw [Engine.put_state]
  | succ fuel ih =>
    simp only [Thread.run, Machine.run]
    cases hs : (t.machine (e.state i)).step m with
    | go c =>
      have hsize : i < (e.put i c.store.toState).states.size := by rwa [Engine.size_put]
      simp only
      rw [ih _ hsize, Engine.state_put h, Thread.machine_ofMachine, Engine.put_put]
    | done v s => rfl
    | stop why s => rfl

namespace Hosted
variable {α β : Type} {e e' : Engine} {events : List Log.Event}

theorem outcome_bind (x : Hosted α) (f : α → Hosted β) (e : Engine) :
    (x >>= f).outcome e = (x.outcome e).bind fun p => ExceptT.bindCont f p.1 p.2 := rfl

theorem outcome_bind_of_ok {x : Hosted α} {a : α} (h : x.outcome e = ⟨(.ok a, e'), events⟩)
    (f : α → Hosted β) :
    (x >>= f).outcome e =
      ⟨((f a).outcome e').value, events ++ ((f a).outcome e').events⟩ := by
  rw [outcome_bind, h]
  rfl

theorem outcome_bind_of_error {x : Hosted α} {failure : Failure}
    (h : x.outcome e = ⟨(.error failure, e'), events⟩) (f : α → Hosted β) :
    (x >>= f).outcome e = ⟨(.error failure, e'), events⟩ := by
  rw [outcome_bind, h]
  change (⟨(.error failure, e'), events ++ []⟩ : Log.Logged (Except Failure β × Engine)) = _
  rw [List.append_nil]

/-- The work gives a value and logs nothing; afterwards the engine is another one. -/
def Gives (x : Hosted α) (e : Engine) (a : α) (e' : Engine) : Prop :=
  x.outcome e = ⟨(.ok a, e'), []⟩

theorem outcome_ofDeploy (x : Deploy α) (e : Engine) :
    (ofDeploy x).outcome e = ⟨(x.outcome.value, e), x.outcome.events⟩ := by
  change (⟨(x.outcome.value, e), x.outcome.events ++ []⟩ : Log.Logged _) = _
  rw [List.append_nil]

end Hosted

/-- The first `n` instances have the same states on both engines. -/
def Engine.Agree (n : Nat) (e e' : Engine) : Prop := ∀ i < n, e'.states[i]? = e.states[i]?

theorem Engine.Agree.refl (n : Nat) (e : Engine) : e.Agree n e := fun _ _ => rfl

theorem Engine.Agree.trans {n : Nat} {e e' e'' : Engine} (h : e.Agree n e') (h' : e'.Agree n e'') :
    e.Agree n e'' := fun i hi => (h' i hi).trans (h i hi)

/-- Both end with related values or with one failure. -/
inductive Alike {α β : Type} (R : α → β → Prop) : Except Failure α → Except Failure β → Prop where
  | ok {a : α} {b : β} (h : R a b) : Alike R (.ok a) (.ok b)
  | error (failure : Failure) : Alike R (.error failure) (.error failure)

theorem Alike.eq {α : Type} {v w : Except Failure α} (h : Alike (fun a b => a = b) v w) : v = w := by
  cases h with
  | ok h => rw [h]
  | error failure => rfl

/-- Work on an engine does what other work does, and leaves the first `n` instances alone. -/
structure Mirrors {α β : Type} (n : Nat) (e : Engine) (x : Hosted α) (y : Deploy β)
    (R : Engine → α → β → Prop) : Prop where
  events : (x.outcome e).events = y.outcome.events
  alike : Alike (R (x.outcome e).value.2) (x.outcome e).value.1 y.outcome.value
  agree : e.Agree n (x.outcome e).value.2

namespace Mirrors
variable {α β γ δ : Type} {n : Nat} {e : Engine} {x : Hosted α} {y : Deploy β}
  {R : Engine → α → β → Prop}

theorem bind {f : α → Hosted γ} {g : β → Deploy δ} {S : Engine → γ → δ → Prop}
    (hx : Mirrors n e x y R)
    (hf : ∀ e' a b, R e' a b → Mirrors n e' (f a) (g b) S) :
    Mirrors n e (x >>= f) (y >>= g) S := by
  obtain ⟨hevents, halike, hagree⟩ := hx
  obtain ⟨v, e', events, hrun⟩ : ∃ v e' events, x.outcome e = ⟨(v, e'), events⟩ := ⟨_, _, _, rfl⟩
  obtain ⟨w, events', hdeploy⟩ : ∃ w events', y.outcome = ⟨w, events'⟩ := ⟨_, _, rfl⟩
  rw [hrun, hdeploy] at hevents halike
  rw [hrun] at hagree
  cases hevents
  -- The second part starts on the engine that the first one leaves, after a failure not at all.
  cases halike with
  | error failure =>
    have hx := Hosted.outcome_bind_of_error hrun f
    have hy := Deploy.outcome_bind_of_error hdeploy g
    refine ⟨by rw [hx, hy], ?_, by rw [hx]; exact hagree⟩
    rw [hx, hy]
    exact .error failure
  | @ok a b h =>
    have hx := Hosted.outcome_bind_of_ok hrun f
    have hy := Deploy.outcome_bind_of_ok hdeploy g
    obtain ⟨hevents, halike, hagree'⟩ := hf e' a b h
    refine ⟨by rw [hx, hy, hevents], ?_, ?_⟩
    · rw [hx, hy]
      exact halike
    · rw [hx]
      exact hagree.trans hagree'

/-- Work that logs nothing may come in front. -/
theorem after {f : γ → Hosted α} {z : Hosted γ} {c : γ} {e' : Engine}
    (hz : z.Gives e c e') (hagree : e.Agree n e') (hx : Mirrors n e' (f c) y R) :
    Mirrors n e (z >>= f) y R := by
  have hrun := Hosted.outcome_bind_of_ok hz f
  obtain ⟨hevents, halike, hagree'⟩ := hx
  refine ⟨by rw [hrun, hevents, List.nil_append], ?_, ?_⟩
  · rw [hrun]
    exact halike
  · rw [hrun]
    exact hagree.trans hagree'

theorem pure {a : α} {b : β} (h : R e a b) : Mirrors n e (pure a) (pure b) R :=
  ⟨rfl, .ok h, .refl n e⟩

theorem fail (error : DeployError) : Mirrors n e (Hosted.fail error) (Deploy.fail error) R :=
  ⟨rfl, .error _, .refl n e⟩

theorem bind_pure {f : α → γ} {S : Engine → γ → β → Prop} (hx : Mirrors n e x y R)
    (h : ∀ e' a b, R e' a b → S e' (f a) b) :
    Mirrors n e (x >>= fun a => Pure.pure (f a)) y S := by
  rw [← Deploy.bind_pure_eq y]
  exact hx.bind fun e' a b hr => .pure (h e' a b hr)

theorem ofDeploy {R : Engine → β → β → Prop} (h : ∀ b, y.outcome.value = .ok b → R e b b) :
    Mirrors n e (.ofDeploy y) y R := by
  refine ⟨?_, ?_, ?_⟩
  · rw [Hosted.outcome_ofDeploy]
  · rw [Hosted.outcome_ofDeploy]
    cases hv : y.outcome.value with
    | error failure => exact .error failure
    | ok b => exact .ok (h b hv)
  · rw [Hosted.outcome_ofDeploy]
    exact .refl n e

theorem same (y : Deploy β) : Mirrors n e (.ofDeploy y) y fun e' a b => e' = e ∧ a = b :=
  ofDeploy fun _ _ => ⟨rfl, rfl⟩

theorem answer_eq {x : Hosted α} {y : Deploy α} (h : Mirrors n e x y fun _ a b => a = b)
    (toAnswer : Except Failure α → Answer) :
    (x.answer toAnswer e).1 = ⟨toAnswer y.outcome.value, y.outcome.events⟩ := by
  rw [← Alike.eq h.alike, ← h.events]
  rfl

end Mirrors
end DeployTrigger.Guest
