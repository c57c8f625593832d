import DeployTrigger.Proofs.Guest.Hosting

/-!
Everything that work logs. What holds of all events of two pieces of work holds of those of their
sequence (`Logs.bind`); what a module logs, in its start function or when it is called, are events
of the log function (`Sandbox.logs_describing`).
-/
namespace DeployTrigger
open Log Deploy

variable {ε ε' α β : Type} {p : Log.Event → Prop}

/-- All events of the work have a property. -/
def Logs (p : Log.Event → Prop) (x : ExceptT ε Logged α) : Prop := ∀ e ∈ x.run.events, p e

namespace Logs

theorem of_silent {x : ExceptT ε Logged α} (h : x.run.events = []) : Logs p x := by
  intro e he
  rw [h] at he
  cases he

theorem bind {x : ExceptT ε Logged α} {f : α → ExceptT ε Logged β} (hx : Logs p x)
    (hf : ∀ a, x.run.value = .ok a → Logs p (f a)) : Logs p (x >>= f) := by
  intro e he
  change e ∈ (x.run >>= ExceptT.bindCont f : Logged (Except ε β)).events at he
  rw [Logged.events_bind] at he
  obtain he | he := List.mem_append.mp he
  · exact hx e he
  · cases hv : x.run.value with
    | error failure =>
      rw [hv] at he
      cases he
    | ok a =>
      rw [hv] at he
      exact hf a hv e he

theorem emit {e : Log.Event} (h : p e) : Logs p (Deploy.emit e) := by
  intro e' he
  obtain rfl := List.mem_singleton.mp he
  exact h

theorem forM_emit {events : List Log.Event} (h : ∀ e ∈ events, p e) :
    Logs p (events.forM Deploy.emit) := by
  have hevents : (events.forM Deploy.emit).run.events = events :=
    congrArg Logged.events (outcome_forM_emit events)
  intro e he
  exact h e (hevents ▸ he)

end Logs

namespace Guest
variable {m : Module} {c d : Machine} {s : Store}

/-- A fresh instance has logged nothing. -/
theorem Module.log_of_value {n : Nat} (h : (m.instantiate n).outcome.value = .ok s) :
    s.log = [] := by
  obtain ⟨detail, hi⟩ | ⟨hostFuncs, memory, hi⟩ := m.instantiate_cases
  · rw [hi] at h
    cases h
  · rw [hi] at h
    rw [value_started h]

theorem Sandbox.describing_of_not_publishes {s : Sandbox} (h : ¬ s.publishes) :
    s.describing = fun _ => pure none := by
  funext n
  exact if_pos (Decidable.not_not.mp h)

theorem Sandbox.describing_stable (s : Sandbox) : Stable s.describing := by
  by_cases h : s.publishes
  · exact stable_describing h
  · rw [describing_of_not_publishes h]
    exact stable_const _

theorem Sandbox.log_of_entering {s : Sandbox} {name : String} {type : FuncType} {n : Nat}
    {x : Store × Func} (h : (s.entering name type n).outcome.value = .ok x) : x.1.log = [] := by
  rw [entering_eq] at h
  obtain ⟨v, events, hi⟩ : ∃ v events, (s.module.instantiate n).outcome = ⟨v, events⟩ :=
    ⟨_, _, rfl⟩
  cases v with
  | error failure =>
    rw [outcome_bind_of_error hi] at h
    cases h
  | ok store =>
    rw [outcome_bind_of_ok hi, outcome_found] at h
    have hlog := Module.log_of_value (congrArg Logged.value hi)
    split at h
    · cases h
    · cases h
    · cases h
      exact hlog

/-- The events of a store that are those of the log function. -/
def Store.Logs (p : Log.Event → Prop) (s : Store) : Prop := ∀ e ∈ s.log, p e

variable (hp : ∀ (s : Store) (r : Location), p (s.logEvent r))
include hp

theorem Machine.logs_step (h : c.step m = .go d) (hc : c.store.Logs p) : d.store.Logs p := by
  have he := step_effect m c
  rw [h] at he
  cases he with
  | quiet hs | wrote _ hs | grew _ hs | setGlobal _ _ hs =>
    rw [hs]
    exact hc
  | logged r hs =>
    rw [hs]
    intro e he
    obtain rfl | he := List.mem_cons.mp he
    · exact hp c.store r
    · exact hc e he

theorem Func.logs_run (f : Func) (fuel : Nat) (arguments : List UInt64) (h : s.Logs p) :
    (f.run m fuel arguments s).2.Logs p := Machine.run_keeps (Machine.logs_step hp) fuel h

omit hp in
theorem Module.logs_started (hostFuncs : List HostFunc) {ended : Outcome × Store}
    (h : ended.2.Logs p) : Logs p (m.started hostFuncs ended) := by
  rw [started]
  refine (Logs.forM_emit fun e he => h e (List.mem_reverse.mp he)).bind fun _ _ => .of_silent ?_
  split
  · rfl
  · rfl
  · split <;> rfl

theorem Module.logs_instantiate (m : Module) (fuel : Nat) : Logs p (m.instantiate fuel) := by
  obtain ⟨detail, h⟩ | ⟨hostFuncs, memory, h⟩ := m.instantiate_cases
  · rw [h]
    exact .of_silent rfl
  · rw [h]
    refine logs_started hostFuncs ?_
    rw [runStart]
    cases m.startFunc? with
    | none => exact List.forall_mem_nil p
    | some f => exact f.logs_run hp fuel [] (List.forall_mem_nil p)

theorem Sandbox.logs_calling {s : Sandbox} {f : Func} {arguments : List UInt64} {store : Store}
    (h : store.Logs p) (n : Nat) : Logs p (s.calling f arguments store n) := by
  have hrun := f.logs_run (m := s.module) hp n arguments h
  change Logs p (finished (f.run s.module n arguments store))
  rw [finished]
  refine (Logs.forM_emit fun e he => hrun e (List.mem_reverse.mp he)).bind fun _ _ => .of_silent ?_
  split <;> rfl

theorem Sandbox.logs_entering (s : Sandbox) (name : String) (type : FuncType) (n : Nat) :
    Logs p (s.entering name type n) := by
  rw [entering_eq]
  refine (s.module.logs_instantiate hp n).bind fun store _ => .of_silent ?_
  change (s.found name type store).outcome.events = []
  rw [outcome_found]
  split <;> rfl

/-- Describing itself logs nothing; what is logged is what the module logs. -/
theorem Sandbox.logs_describing (s : Sandbox) (n : Nat) : Logs p (s.describing n) := by
  by_cases hs : s.publishes
  · rw [describing_of_publishes hs]
    refine (s.logs_entering hp schemasExport .word n).bind fun x hx => ?_
    have hlog : x.1.Logs p := by
      intro e he
      rw [log_of_entering hx] at he
      cases he
    refine (logs_calling hp hlog n).bind fun y _ => .of_silent ?_
    cases schemasAt s.limits y.2 (.unpack y.1) <;> rfl
  · rw [describing_of_not_publishes hs]
    exact .of_silent rfl

end Guest
end DeployTrigger
