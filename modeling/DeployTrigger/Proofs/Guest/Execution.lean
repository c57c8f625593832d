import DeployTrigger.Guest.Machine

/-!
Executions of guest code without a bound on their steps. One step either leaves the store alone,
changes its memory or a global, logs one event, or ends the execution (`step_effect`); an execution that ends
does so within every large enough number of steps (`run_of_ends`), and what a bounded run ends with
is how the execution ends (`ends_of_run`).
-/
namespace DeployTrigger.Guest

/-- The store with one more logged range. -/
def Store.withLogged (s : Store) (r : Location) : Store := { s with log := s.logEvent r :: s.log }

namespace Machine

/-- The machine is about to call the abort function with a packed location. -/
def CallsAbort (c : Machine) (w : UInt64) : Prop :=
  c.control = .value w ∧ ∃ rest, c.stack = .abort :: rest

/-- What a step may come to: what it does to the store, or how it ends the execution. -/
inductive Effect (c : Machine) : Next → Prop where
  | quiet {d : Machine} (h : d.store = c.store) : Effect c (.go d)
  | wrote {d : Machine} {a : Nat} {bs : Bytes} {memory : Memory}
      (hw : c.store.memory.write? a bs = some memory)
      (h : d.store = { c.store with memory := memory }) : Effect c (.go d)
  | grew {d : Machine} {n : Nat} {memory : Memory} (hg : c.store.memory.grow? n = some memory)
      (h : d.store = { c.store with memory := memory }) : Effect c (.go d)
  | setGlobal {d : Machine} (i : Nat) (v : UInt64)
      (h : d.store = { c.store with globals := c.store.globals.set i v }) : Effect c (.go d)
  | logged {d : Machine} (r : Location) (h : d.store = c.store.withLogged r) : Effect c (.go d)
  | done (v : UInt64) : Effect c (.done v c.store)
  | trap (t : Trap) : Effect c (.stop (.trap t) c.store)
  | abort {w : UInt64} (h : c.CallsAbort w) :
      Effect c (.stop (.abort (c.store.abortReason (.unpack w))) c.store)

variable {m : Module} {c d e : Machine}

theorem effect_evalStep (c : Machine) (e : Expr) : c.Effect (c.evalStep e) := by
  cases e <;> exact .quiet rfl

theorem effect_stmtStep (c : Machine) (rest : List Stmt) (s : Stmt) :
    c.Effect (c.stmtStep rest s) := by
  cases s with
  | trap => exact .trap _
  | _ => exact .quiet rfl

theorem effect_load (c : Machine) (stack : List Pending) (v : UInt64) (width : Nat) :
    c.Effect (c.load stack v width) := by
  simp only [load]
  split
  · exact .quiet rfl
  · exact .trap _

theorem effect_save (c : Machine) (stack : List Pending) (a v : UInt64) (width : Nat) :
    c.Effect (c.save stack a v width) := by
  simp only [save]
  split
  · rename_i hw
    exact .wrote hw rfl
  · exact .trap _

theorem effect_growMemory (c : Machine) (stack : List Pending) (v : UInt64) :
    c.Effect (c.growMemory stack v) := by
  simp only [growMemory]
  split
  · rename_i hg
    exact .grew hg rfl
  · exact .quiet rfl

theorem effect_enter (m : Module) (c : Machine) (stack : List Pending) (func : Nat) (v : UInt64) :
    c.Effect (c.enter m stack func v) := by
  simp only [enter]
  split
  · exact .trap _
  · split
    · exact .trap _
    · exact .quiet rfl

theorem effect_valueStep {v : UInt64} {p : Pending} {stack : List Pending}
    (hc : c.control = .value v) (hs : c.stack = p :: stack) :
    c.Effect (c.valueStep m v stack p) := by
  cases p with
  | right op a =>
    simp only [valueStep]
    split
    · exact .quiet rfl
    · exact .trap _
  | load8 => exact effect_load c stack v 1
  | load64 => exact effect_load c stack v 8
  | grow => exact effect_growMemory c stack v
  | argument f => exact effect_enter m c stack f v
  | logLength p => exact .logged _ rfl
  | abort => exact .abort ⟨hc, stack, hs⟩
  | storeValue wide a => exact effect_save c stack a v _
  | setGlobal i => exact .setGlobal i v rfl
  | loop e b =>
    simp only [valueStep]
    split <;> exact .quiet rfl
  | _ => exact .quiet rfl

/-- Everything that one step can do. -/
theorem step_effect (m : Module) (c : Machine) : c.Effect (c.step m) := by
  cases hc : c.control with
  | eval e =>
    simp only [step, hc]
    exact effect_evalStep c e
  | value v =>
    cases hs : c.stack with
    | nil =>
      simp only [step, hc, hs]
      exact .done v
    | cons p stack =>
      simp only [step, hc, hs]
      exact effect_valueStep hc hs
  | run block =>
    cases block with
    | cons s rest =>
      simp only [step, hc]
      exact effect_stmtStep c rest s
    | nil =>
      simp only [step, hc]
      split <;> exact .quiet rfl
  | leave v =>
    simp only [step, hc]
    split
    · exact .done v
    · exact .quiet rfl
    · exact .quiet rfl

theorem step_of_callsAbort {w : UInt64} (h : c.CallsAbort w) :
    c.step m = .stop (.abort (c.store.abortReason (.unpack w))) c.store := by
  obtain ⟨hc, rest, hs⟩ := h
  simp only [step, hc, hs]
  rfl

/-- Only a call of the abort function ends an execution with an abort. -/
theorem callsAbort_of_step {r : ModuleError} {s : Store} (h : c.step m = .stop (.abort r) s) :
    ∃ w, c.CallsAbort w ∧ r = c.store.abortReason (.unpack w) ∧ s = c.store := by
  have he := step_effect m c
  rw [h] at he
  cases he with
  | abort hw => exact ⟨_, hw, rfl, rfl⟩

/-- Whether host functions see the memory does not change while the guest runs. -/
theorem visible_step (h : c.step m = .go d) : d.store.visible = c.store.visible := by
  have he := step_effect m c
  rw [h] at he
  cases he with
  | quiet hs => rw [hs]
  | wrote _ hs => rw [hs]
  | grew _ hs => rw [hs]
  | setGlobal _ _ hs => rw [hs]
  | logged _ hs => rw [hs]; rfl

/-- One machine leads to another by steps. -/
inductive Leads (m : Module) : Machine → Machine → Prop where
  | refl (c : Machine) : Leads m c c
  | head {c d e : Machine} (hs : c.step m = .go d) (h : Leads m d e) : Leads m c e

theorem Leads.trans (h : Leads m c d) {e : Machine} (h' : Leads m d e) : Leads m c e := by
  induction h with
  | refl => exact h'
  | head hs _ ih => exact .head hs (ih h')

theorem Leads.visible (h : Leads m c d) : d.store.visible = c.store.visible := by
  induction h with
  | refl c => rfl
  | head hs _ ih => rw [ih, visible_step hs]

/-- Steps that are behind a machine are taken off the bound of its run. -/
theorem Leads.run_eq (h : Leads m c d) : ∃ k, ∀ fuel, c.run m (fuel + k) = d.run m fuel := by
  induction h with
  | refl c => exact ⟨0, fun _ => rfl⟩
  | head hs _ ih =>
    obtain ⟨k, hk⟩ := ih
    refine ⟨k + 1, fun fuel => ?_⟩
    rw [← hk fuel, ← Nat.add_assoc, run, hs]

/-- The execution of a machine comes to an end, with a value or with a stop. -/
inductive Ends (m : Module) (c : Machine) : Outcome → Store → Prop where
  | value {d : Machine} {v : UInt64} {s : Store} (h : Leads m c d) (hs : d.step m = .done v s) :
      Ends m c (.value v) s
  | stopped {d : Machine} {why : Stop} {s : Store} (h : Leads m c d)
      (hs : d.step m = .stop why s) : Ends m c (.stopped why) s

theorem Ends.head {o : Outcome} {s : Store} (hs : c.step m = .go d) (h : Ends m d o s) :
    Ends m c o s := by
  cases h with
  | value h he => exact .value (.head hs h) he
  | stopped h he => exact .stopped (.head hs h) he

theorem run_of_ends {o : Outcome} {s : Store} (h : Ends m c o s) :
    ∃ n, ∀ fuel, n ≤ fuel → c.run m fuel = (o, s) := by
  have hlast : ∀ {d : Machine}, Leads m c d → (∀ fuel, d.run m (fuel + 1) = (o, s)) →
      ∃ n, ∀ fuel, n ≤ fuel → c.run m fuel = (o, s) := by
    intro d hl hd
    obtain ⟨k, hk⟩ := hl.run_eq
    refine ⟨k + 1, fun fuel hle => ?_⟩
    have hfuel : fuel = fuel - (k + 1) + 1 + k := by omega
    rw [hfuel, hk, hd]
  cases h with
  | value hl hs => exact hlast hl fun fuel => by rw [run, hs]
  | stopped hl hs => exact hlast hl fun fuel => by rw [run, hs]

theorem ends_of_run {fuel : Nat} {o : Outcome} {s : Store} (h : c.run m fuel = (o, s))
    (ho : o ≠ .unfinished) : Ends m c o s := by
  induction fuel generalizing c with
  | zero =>
    cases h
    exact absurd rfl ho
  | succ fuel ih =>
    cases hs : c.step m with
    | go d =>
      rw [run, hs] at h
      exact (ih h).head hs
    | done v s' =>
      rw [run, hs] at h
      cases h
      exact .value (.refl c) hs
    | stop why s' =>
      rw [run, hs] at h
      cases h
      exact .stopped (.refl c) hs

theorem Ends.not_unfinished {s : Store} (h : Ends m c .unfinished s) : False := by
  cases h

/-- What every step keeps of the store, a run keeps, also one that gives up. -/
theorem run_keeps {P : Store → Prop}
    (hstep : ∀ {c d : Machine}, c.step m = .go d → P c.store → P d.store) (fuel : Nat)
    (hc : P c.store) : P (c.run m fuel).2 := by
  induction fuel generalizing c with
  | zero => exact hc
  | succ fuel ih =>
    have he := step_effect m c
    rw [run]
    cases hs : c.step m with
    | go d => exact ih (hstep hs hc)
    | done v s =>
      rw [hs] at he
      cases he
      exact hc
    | stop why s =>
      rw [hs] at he
      cases he <;> exact hc

/-- A run within fewer steps gives up, or ends as within more of them. -/
theorem run_stable {n k : Nat} (h : n ≤ k) :
    (c.run m n).1 = .unfinished ∨ c.run m k = c.run m n := by
  induction n generalizing c k with
  | zero => exact .inl rfl
  | succ n ih =>
    obtain ⟨k, rfl⟩ : ∃ k', k = k' + 1 := ⟨k - 1, by omega⟩
    cases hs : c.step m with
    | go d =>
      simp only [run, hs]
      exact ih (by omega)
    | done v s => simp [run, hs]
    | stop why s => simp [run, hs]

end Machine
end DeployTrigger.Guest
