import DeployTrigger.Proofs.Guest.Calls
import DeployTrigger.Proofs.Guest.Engine

/-!
The calls of a sandbox on an engine. Each does what the call does that has an instance of its own,
whatever states the engine holds, and leaves them as they are (`mirrors_invoke`,
`mirrors_schemas`).
-/
namespace DeployTrigger.Guest
open Deploy

/-- An instance that came after the first `n` holds what a store holds when nothing is logged. -/
structure Engine.Holds (n : Nat) (e : Engine) (i : Nat) (store : Store) : Prop where
  fresh : n ≤ i
  lt : i < e.states.size
  log : store.log = []
  state : store.toState = e.state i

variable {m : Module} {n i : Nat} {e : Engine} {store : Store}

theorem Engine.agree_put (h : n ≤ i) (state : State) : e.Agree n (e.put i state) :=
  fun _ hj => states_put_of_ne (Nat.ne_of_lt (Nat.lt_of_lt_of_le hj h)) state

theorem Engine.agree_add (h : n ≤ e.states.size) (state : State) : e.Agree n (e.add state) :=
  fun _ hj => states_add_of_lt (Nat.lt_of_lt_of_le hj h) state

theorem Engine.holds_put (h : n ≤ i) (hlt : i < e.states.size) (state : State)
    (visible : Bool) : (e.put i state).Holds n i ⟨state, visible, []⟩ where
  fresh := h
  lt := by rwa [size_put]
  log := rfl
  state := (state_put hlt state).symm

theorem Engine.holds_add (h : n ≤ e.states.size) (state : State) (visible : Bool) :
    (e.add state).Holds n e.states.size ⟨state, visible, []⟩ where
  fresh := h
  lt := by simp [add]
  log := rfl
  state := (state_add e state).symm

theorem gives_run (h : e.Holds n i store) (fuel : Nat) (f : Func) (arguments : List UInt64) :
    (Hosted.run m fuel i f arguments store.visible).Gives e (f.run m fuel arguments store)
      (e.put i (f.run m fuel arguments store).2.toState) := by
  have hstore : store = ⟨e.state i, store.visible, []⟩ := by
    rw [← h.state, ← h.log]
  have hrun := Thread.run_eq (m := m) fuel (f.thread arguments store.visible) h.lt
  have hmachine : (f.thread arguments store.visible).machine (e.state i) =
      f.machine arguments store := by
    rw [hstore]
    rfl
  rw [hmachine] at hrun
  change (⟨(Except.ok ((f.thread arguments store.visible).run m i fuel e).1,
    ((f.thread arguments store.visible).run m i fuel e).2), []⟩ : Log.Logged _) = _
  rw [hrun]
  rfl

theorem gives_runStartOn (h : e.Holds n i store) (hvisible : store.visible = false) (fuel : Nat) :
    (m.runStartOn fuel i).Gives e (m.runStart fuel store)
      (e.put i (m.runStart fuel store).2.toState) := by
  rw [Module.runStartOn, Module.runStart]
  cases m.startFunc? with
  | some f =>
    have hrun := gives_run (m := m) h fuel f []
    rwa [hvisible] at hrun
  | none =>
    have hstore : store = ⟨e.state i, false, []⟩ := by
      rw [← h.state, ← h.log, ← hvisible]
    have hput : e.put i store.toState = e := by rw [h.state, Engine.put_state]
    simp only [hput]
    rw [hstore]
    rfl

/-- The memory with a piece of data. -/
def loaded (memory : Memory) (piece : Nat × Bytes) : Deploy Memory :=
  match memory.load? piece.1 piece.2 with
  | some memory => pure memory
  | none => Deploy.fail (.instantiation (InstantiationError.stopped (.trap .outOfBounds)).message)

/-- Data is copied in a sequence of pieces, each of which may fail. -/
theorem foldlM_loaded (m : Module) :
    m.data.foldlM loaded m.blankMemory =
      match m.initialMemory with
      | .ok memory => pure memory
      | .error error => Deploy.fail (.instantiation error.message) := by
  rw [Module.initialMemory]
  generalize m.blankMemory = memory
  induction m.data generalizing memory with
  | nil => rfl
  | cons piece data ih =>
    obtain ⟨start, bytes⟩ := piece
    rw [List.foldlM_cons, List.foldlM_cons, loaded]
    dsimp only
    cases memory.load? start bytes with
    | none => rfl
    | some memory => exact ih memory

theorem instantiate_eq (m : Module) (fuel : Nat) :
    m.instantiate fuel =
      match m.link with
      | .error e => Deploy.fail (.instantiation (InstantiationError.link e).message)
      | .ok hostFuncs => m.data.foldlM loaded m.blankMemory >>= fun memory =>
          m.started hostFuncs (m.runStart fuel (m.blankStore memory)) := by
  rw [Module.instantiate, foldlM_loaded]
  cases m.link with
  | error e => rfl
  | ok hostFuncs => cases m.initialMemory <;> rfl

theorem mirrors_load {memory : Memory} (h : e.Holds n i (m.blankStore memory))
    (piece : Nat × Bytes) :
    Mirrors n e (Hosted.load i piece) (loaded memory piece)
      fun e' _ memory => e'.Holds n i (m.blankStore memory) := by
  have hstate : (Hosted.state i).Gives e (m.blankStore memory).toState e := by
    rw [h.state]
    rfl
  refine .after hstate (.refl _ _) ?_
  rw [loaded]
  change Mirrors n e (match memory.load? piece.1 piece.2 with | some memory => _ | none => _) _ _
  cases memory.load? piece.1 piece.2 with
  | none => exact .fail _
  | some memory =>
    exact ⟨rfl, .ok (Engine.holds_put h.fresh h.lt _ false), Engine.agree_put h.fresh _⟩

theorem mirrors_forM_load (data : List (Nat × Bytes)) {memory : Memory}
    (h : e.Holds n i (m.blankStore memory)) :
    Mirrors n e (data.forM (Hosted.load i)) (data.foldlM loaded memory)
      fun e' _ memory => e'.Holds n i (m.blankStore memory) := by
  induction data generalizing e memory with
  | nil => exact .pure h
  | cons piece data ih =>
    rw [List.foldlM_cons]
    exact (mirrors_load h piece).bind fun e' _ memory h' => ih h'

theorem value_started {hostFuncs : List HostFunc} {ended : Outcome × Store}
    (h : (m.started hostFuncs ended).outcome.value = .ok store) :
    store = ⟨ended.2.toState, true, []⟩ := by
  obtain ⟨o, s⟩ := ended
  rw [Module.started, outcome_bind_of_ok (outcome_forM_emit s.events)] at h
  cases o with
  | unfinished => cases h
  | stopped why => cases h
  | value v =>
    dsimp only at h
    split at h
    · cases h
    · cases h
      rfl

theorem mirrors_instantiate (m : Module) (fuel : Nat) (h : n ≤ e.states.size) :
    Mirrors n e (m.instantiateOn fuel) (m.instantiate fuel)
      fun e' i store => e'.Holds n i store ∧ store.visible = true := by
  rw [instantiate_eq, Module.instantiateOn]
  cases m.link with
  | error error => exact .fail _
  | ok hostFuncs =>
    have hadd := Engine.holds_add h ⟨m.blankMemory, m.initialGlobals⟩ false
    refine .after (z := Hosted.allocate _) rfl (Engine.agree_add h _) ?_
    refine (mirrors_forM_load m.data hadd).bind fun e' _ memory hloaded => ?_
    refine .after (gives_runStartOn hloaded rfl fuel) (Engine.agree_put hloaded.fresh _) ?_
    refine Mirrors.bind_pure (.ofDeploy fun store hstore => ?_) fun e' a store hr => hr
    rw [value_started hstore]
    exact ⟨Engine.holds_put hloaded.fresh hloaded.lt _ true, rfl⟩

namespace Sandbox
variable {s : Sandbox}

theorem mirrors_enter (s : Sandbox) (name : String) (type : FuncType) (h : n ≤ e.states.size) :
    Mirrors n e (s.enterOn name type) (s.enter name type)
      fun e' x y => (e'.Holds n x.1 y.1 ∧ y.1.visible = true) ∧ x.2 = y.2 := by
  refine (mirrors_instantiate s.module s.fuel h).bind fun e' i store hstore => ?_
  refine (Mirrors.same s.requireMemory).bind ?_
  rintro _ _ _ ⟨rfl, -⟩
  refine (Mirrors.same (s.requireFunc name type)).bind ?_
  rintro _ f _ ⟨rfl, rfl⟩
  exact .pure ⟨hstore, rfl⟩

theorem value_finished {ended : Outcome × Store} {r : UInt64 × Memory}
    (h : (finished ended).outcome.value = .ok r) : r.2 = ended.2.memory := by
  obtain ⟨o, s⟩ := ended
  cases o with
  | unfinished =>
    rw [outcome_finished_unfinished] at h
    cases h
  | stopped why =>
    rw [outcome_finished_stopped] at h
    cases h
  | value v =>
    rw [outcome_finished_value] at h
    cases h
    rfl

theorem mirrors_call (s : Sandbox) (f : Func) (arguments : List UInt64) (h : e.Holds n i store)
    (hvisible : store.visible = true) :
    Mirrors n e (s.callOn f arguments i) (s.call f arguments store)
      fun e' v r => v = r.1 ∧ (e'.state i).memory = r.2 := by
  have hrun := gives_run (m := s.module) h s.fuel f arguments
  rw [hvisible] at hrun
  refine .after hrun (Engine.agree_put h.fresh _) ?_
  refine Mirrors.bind_pure (.ofDeploy fun r hr => ?_) fun e' a r hr => hr
  refine ⟨rfl, ?_⟩
  rw [Engine.state_put h.lt, value_finished hr]

theorem mirrors_invoke (s : Sandbox) (entrypoint : String) (t : Timestamp)
    (h : n ≤ e.states.size) :
    Mirrors n e (s.invokeOn entrypoint t) (s.invoke entrypoint t) fun _ a b => a = b := by
  refine (s.mirrors_enter entrypoint .wordToWord h).bind ?_
  rintro e ⟨i, f⟩ ⟨store, _⟩ ⟨⟨hstore, hvisible⟩, rfl⟩
  refine (Mirrors.same (emit (invokingEvent entrypoint t))).bind ?_
  rintro _ _ _ ⟨rfl, -⟩
  refine (s.mirrors_call f [t.millis] hstore hvisible).bind ?_
  rintro e packed ⟨_, memory⟩ ⟨rfl, hmemory⟩
  refine (Mirrors.same (emit (returnedEvent entrypoint (.unpack packed)))).bind ?_
  rintro _ _ _ ⟨rfl, -⟩
  refine .after (z := Hosted.state i) rfl (.refl _ _) ?_
  rw [hmemory]
  exact .ofDeploy fun _ _ => rfl

theorem mirrors_schemas (s : Sandbox) (h : n ≤ e.states.size) :
    Mirrors n e s.schemasOn s.schemas fun _ a b => a = b := by
  rw [schemasOn, schemas]
  split
  · exact .pure rfl
  · refine (s.mirrors_enter schemasExport .word h).bind ?_
    rintro e ⟨i, f⟩ ⟨store, _⟩ ⟨⟨hstore, hvisible⟩, rfl⟩
    refine (s.mirrors_call f [] hstore hvisible).bind ?_
    rintro e packed ⟨_, memory⟩ ⟨rfl, hmemory⟩
    refine .after (z := Hosted.state i) rfl (.refl _ _) ?_
    rw [hmemory]
    exact .ofDeploy fun _ _ => rfl

end Sandbox
end DeployTrigger.Guest
