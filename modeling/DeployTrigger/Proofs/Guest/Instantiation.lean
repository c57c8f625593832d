import DeployTrigger.Guest.Instance
import DeployTrigger.Proofs.Guest.Execution
import DeployTrigger.Proofs.Settling

/-!
Instantiation without a bound on the steps of the start function, and the exports of an instance. An
instance that there is shows its memory to host functions.
-/
namespace DeployTrigger.Guest
open Deploy Machine

variable {m : Module}

theorem Module.exportsMemory_eq_ok_iff :
    m.exportsMemory = .ok () ↔ m.export? memoryExport = some .memory := by
  rw [exportsMemory]
  cases m.export? memoryExport with
  | none => simp
  | some kind => cases kind <;> simp

theorem Module.exportedFunc_eq_ok_iff {name : String} {type : FuncType} {f : Func} :
    m.exportedFunc name type = .ok f ↔
      ∃ i, m.export? name = some (.func i) ∧ m.funcs[i]? = some f ∧ f.type = type := by
  rw [exportedFunc]
  cases m.export? name with
  | none => simp
  | some kind =>
    cases kind with
    | memory | global => simp
    | func i =>
      cases hf : m.funcs[i]? with
      | none => simp [hf]
      | some g =>
        simp only [Option.some.injEq, ExportKind.func.injEq, exists_eq_left', hf]
        split
        · rename_i ht
          constructor
          · intro h
            cases h
            exact ⟨rfl, ht⟩
          · rintro ⟨rfl, _⟩
            rfl
        · rename_i ht
          constructor
          · intro h
            cases h
          · rintro ⟨rfl, ht'⟩
            exact absurd ht' ht

/-- Work that depends on a run and gives up with it is stable. -/
theorem stable_of_run {α : Type} {r : Nat → Outcome × Store} {g : Outcome × Store → Deploy α}
    (hr : ∀ n k, n ≤ k → (r n).1 = .unfinished ∨ r k = r n)
    (hg : ∀ s, (g (.unfinished, s)).outcome.value = .error .unfinished) :
    Stable fun n => g (r n) := by
  intro n k hle
  obtain hu | he := hr n k hle
  · left
    have hpair : r n = (.unfinished, (r n).2) := by rw [← hu]
    change (g (r n)).outcome.value = _
    rw [hpair]
    exact hg _
  · exact .inr (congrArg g he)

theorem Module.outcome_started_unfinished (m : Module) (hostFuncs : List HostFunc) (s : Store) :
    (m.started hostFuncs (.unfinished, s)).outcome.value = .error .unfinished := by
  rw [started, outcome_bind_of_ok (outcome_forM_emit s.events)]
  rfl

/-- Instantiation fails for a reason that no start function has a part in, or runs one. -/
theorem Module.instantiate_cases (m : Module) :
    (∃ detail, m.instantiate = fun _ => Deploy.fail (.instantiation detail)) ∨
      ∃ hostFuncs memory,
        m.instantiate = fun n => m.started hostFuncs (m.runStart n (m.blankStore memory)) := by
  cases hl : m.link with
  | error e =>
    refine .inl ⟨(InstantiationError.link e).message, ?_⟩
    funext n
    rw [instantiate, hl]
  | ok hostFuncs =>
    cases hm : m.initialMemory with
    | error e =>
      refine .inl ⟨e.message, ?_⟩
      funext n
      rw [instantiate, hl]
      simp only [hm]
    | ok memory =>
      refine .inr ⟨hostFuncs, memory, ?_⟩
      funext n
      rw [instantiate, hl]
      simp only [hm]

theorem Module.stable_instantiate (m : Module) : Stable m.instantiate := by
  obtain ⟨detail, h⟩ | ⟨hostFuncs, memory, h⟩ := m.instantiate_cases
  · rw [h]
    exact stable_const _
  · rw [h]
    refine stable_of_run (fun n k hle => ?_) (m.outcome_started_unfinished hostFuncs)
    rw [runStart, runStart]
    cases m.startFunc? with
    | none => exact .inr rfl
    | some f => exact run_stable hle

/-- An instance that there is shows its memory to host functions; else the failure is one of the
instantiation. -/
theorem Module.value_instantiate (m : Module) (n : Nat) :
    (m.instantiate n).outcome.value = .error .unfinished ∨
      (∃ detail, (m.instantiate n).outcome.value = .error (.error (.instantiation detail))) ∨
      ∃ store : Store, (m.instantiate n).outcome.value = .ok store ∧ store.visible = true := by
  obtain ⟨detail, h⟩ | ⟨hostFuncs, memory, h⟩ := m.instantiate_cases
  · rw [h]
    exact .inr (.inl ⟨detail, rfl⟩)
  simp only [h]
  cases m.runStart n (m.blankStore memory) with
  | mk o s =>
    rw [started, outcome_bind_of_ok (outcome_forM_emit s.events)]
    cases o with
    | unfinished => exact .inl rfl
    | stopped why => exact .inr (.inl ⟨_, rfl⟩)
    | value v =>
      dsimp only
      split
      · exact .inr (.inl ⟨_, rfl⟩)
      · exact .inr (.inr ⟨_, rfl, rfl⟩)

theorem Module.visible_of_instantiated {store : Store} {events : List Log.Event}
    (h : Settles m.instantiate (.ok store) events) : store.visible = true := by
  obtain ⟨n, hn⟩ := h
  have hv := m.value_instantiate n
  rw [hn n (Nat.le_refl n)] at hv
  obtain hv | ⟨_, hv⟩ | ⟨store', hv, hvis⟩ := hv
  · cases hv
  · cases hv
  · cases hv
    exact hvis

theorem Module.instantiation_of_error {e : DeployError} {events : List Log.Event}
    (h : Settles m.instantiate (.error e) events) : ∃ detail, e = .instantiation detail := by
  obtain ⟨n, hn⟩ := h
  have hv := m.value_instantiate n
  rw [hn n (Nat.le_refl n)] at hv
  obtain hv | ⟨detail, hv⟩ | ⟨_, hv, _⟩ := hv
  · cases hv
  · cases hv
    exact ⟨detail, rfl⟩
  · cases hv

end DeployTrigger.Guest
