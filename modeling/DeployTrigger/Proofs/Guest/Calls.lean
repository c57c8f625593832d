import DeployTrigger.Guest.Sandbox
import DeployTrigger.Proofs.Guest.Instantiation

/-!
The two calls of a sandbox without a bound on their steps. Both enter a fresh instance of the module
first (`Entry`); from there on the execution of the exported function decides what they settle to.
-/
namespace DeployTrigger.Guest
open Deploy Machine

namespace Sandbox

theorem outcome_finished_unfinished (s : Store) :
    (finished (.unfinished, s)).outcome.value = .error .unfinished := by
  rw [finished, outcome_bind_of_ok (outcome_forM_emit s.events)]
  rfl

theorem outcome_finished_value (v : UInt64) (s : Store) :
    (finished (.value v, s)).outcome = ⟨.ok (v, s.memory), s.events⟩ := by
  rw [finished, outcome_bind_of_ok (outcome_forM_emit s.events)]
  change (⟨.ok (v, s.memory), s.events ++ []⟩ : Log.Logged (Except Failure _)) = _
  rw [List.append_nil]

theorem outcome_finished_stopped (why : Stop) (s : Store) :
    (finished (.stopped why, s)).outcome = ⟨.error (.error why.toDeployError), s.events⟩ := by
  rw [finished, outcome_bind_of_ok (outcome_forM_emit s.events)]
  change (⟨.error (.error why.toDeployError), s.events ++ []⟩ :
    Log.Logged (Except Failure _)) = _
  rw [List.append_nil]

/-- The sandbox with another bound on the steps of a call. -/
def within (s : Sandbox) (n : Nat) : Sandbox := { s with fuel := n }

/-- The way into an exported function, under a bound on the steps of the start function. -/
def entering (s : Sandbox) (name : String) (type : FuncType) (n : Nat) : Deploy (Store × Func) :=
  (s.within n).enter name type

/-- The call of a function, under a bound on its steps. -/
def calling (s : Sandbox) (f : Func) (arguments : List UInt64) (store : Store) (n : Nat) :
    Deploy (UInt64 × Memory) :=
  (s.within n).call f arguments store

/-- The call of an entrypoint, under a bound on its steps. -/
def invoking (s : Sandbox) (name : String) (t : Timestamp) (n : Nat) : Deploy Address :=
  (s.within n).invoke name t

/-- The call of the schemas function, under a bound on its steps. -/
def describing (s : Sandbox) (n : Nat) : Deploy (Option String) := (s.within n).schemas

variable {s : Sandbox} {name : String} {type : FuncType} {t : Timestamp}

theorem stable_calling (s : Sandbox) (f : Func) (arguments : List UInt64) (store : Store) :
    Stable (s.calling f arguments store) :=
  stable_of_run (fun _ _ hle => run_stable hle) outcome_finished_unfinished

theorem stable_entering (s : Sandbox) (name : String) (type : FuncType) :
    Stable (s.entering name type) :=
  s.module.stable_instantiate.bind fun _ _ _ _ => .inr rfl

theorem stable_invoking (s : Sandbox) (name : String) (t : Timestamp) :
    Stable (s.invoking name t) :=
  (s.stable_entering name .wordToWord).bind fun x =>
    (stable_const _).bind fun _ =>
      (s.stable_calling x.2 [t.millis] x.1).bind fun _ _ _ _ => .inr rfl

/-- The module has an export for its schemas, whatever it is. -/
def publishes (s : Sandbox) : Prop := ¬ s.module.exports.all (·.1 ≠ schemasExport) = true

theorem describing_of_publishes (h : s.publishes) :
    s.describing = fun n => s.entering schemasExport .word n >>= fun x =>
      s.calling x.2 [] x.1 n >>= fun y =>
        some <$> settle (schemasAt s.limits y.2 (.unpack y.1)) := by
  funext n
  exact if_neg h

theorem stable_describing (h : s.publishes) : Stable s.describing := by
  rw [describing_of_publishes h]
  exact (s.stable_entering schemasExport .word).bind fun x =>
    (s.stable_calling x.2 [] x.1).bind fun _ => stable_const _

variable {f : Func} {arguments : List UInt64} {store after : Store}

theorem settles_calling_of_value {v : UInt64}
    (h : Ends s.module (f.machine arguments store) (.value v) after) :
    Settles (s.calling f arguments store) (.ok (v, after.memory)) after.events := by
  obtain ⟨n, hn⟩ := run_of_ends h
  refine ⟨n, fun bound hle => ?_⟩
  change (finished (Machine.run s.module bound (f.machine arguments store))).outcome = _
  rw [hn bound hle]
  exact outcome_finished_value v after

theorem settles_calling_of_stopped {why : Stop}
    (h : Ends s.module (f.machine arguments store) (.stopped why) after) :
    Settles (s.calling f arguments store) (.error why.toDeployError) after.events := by
  obtain ⟨n, hn⟩ := run_of_ends h
  refine ⟨n, fun bound hle => ?_⟩
  change (finished (Machine.run s.module bound (f.machine arguments store))).outcome = _
  rw [hn bound hle]
  exact outcome_finished_stopped why after

theorem ends_of_settles_calling {r : Except DeployError (UInt64 × Memory)}
    {events : List Log.Event} (h : Settles (s.calling f arguments store) r events) :
    ∃ o after, Ends s.module (f.machine arguments store) o after := by
  obtain ⟨n, hn⟩ := h
  have hlast : (finished (Machine.run s.module n (f.machine arguments store))).outcome = _ :=
    hn n (Nat.le_refl n)
  cases hr : Machine.run s.module n (f.machine arguments store) with
  | mk o after =>
    refine ⟨o, after, ends_of_run hr ?_⟩
    rintro rfl
    have hu := outcome_finished_unfinished after
    rw [hr] at hlast
    rw [hlast] at hu
    cases r <;> cases hu

/-- A call that gets as far as its function: the fresh instance, what was logged on the way to it,
and the exported function. -/
structure Entry (s : Sandbox) (name : String) (type : FuncType) where
  store : Store
  logged : List Log.Event
  func : Func
  instantiated : Settles s.module.instantiate (.ok store) logged
  memory : s.module.exportsMemory = .ok ()
  exported : s.module.exportedFunc name type = .ok func

/-- The function at its beginning. -/
def Entry.machine (x : s.Entry name type) (arguments : List UInt64) : Machine :=
  x.func.machine arguments x.store

/-- Why the way into an exported function ends before the function. -/
inductive EntryFailure (s : Sandbox) (name : String) (type : FuncType) :
    DeployError → List Log.Event → Prop where
  | instantiation {detail : String} {events : List Log.Event}
      (h : Settles s.module.instantiate (.error (.instantiation detail)) events) :
      EntryFailure s name type (.instantiation detail) events
  | memory {store : Store} {events : List Log.Event} {e : ExportError}
      (h : Settles s.module.instantiate (.ok store) events)
      (hm : s.module.exportsMemory = .error e) :
      EntryFailure s name type (.missingExport (memoryExport ++ ": " ++ e.message)) events
  | function {store : Store} {events : List Log.Event} {e : ExportError}
      (h : Settles s.module.instantiate (.ok store) events)
      (hm : s.module.exportsMemory = .ok ()) (hf : s.module.exportedFunc name type = .error e) :
      EntryFailure s name type (.missingExport (name ++ ": " ++ e.message)) events

/-- The exports of a fresh instance that a call needs. -/
def found (s : Sandbox) (name : String) (type : FuncType) (store : Store) :
    Deploy (Store × Func) := do
  s.requireMemory
  let f ← s.requireFunc name type
  pure (store, f)

theorem entering_eq (s : Sandbox) (name : String) (type : FuncType) :
    s.entering name type = fun n => s.module.instantiate n >>= s.found name type := rfl

theorem outcome_found (s : Sandbox) (name : String) (type : FuncType) (store : Store) :
    (s.found name type store).outcome =
      match s.module.exportsMemory, s.module.exportedFunc name type with
      | .error e, _ => ⟨.error (.error (.missingExport (memoryExport ++ ": " ++ e.message))), []⟩
      | .ok (), .error e => ⟨.error (.error (.missingExport (name ++ ": " ++ e.message))), []⟩
      | .ok (), .ok f => ⟨.ok (store, f), []⟩ := by
  unfold found requireMemory requireFunc
  cases s.module.exportsMemory with
  | error e => rfl
  | ok u => cases s.module.exportedFunc name type <;> rfl

theorem settles_entering_of_found {r : Except DeployError (Store × Func)}
    {events : List Log.Event} (h : Settles s.module.instantiate (.ok store) events)
    (hr : (s.found name type store).outcome = ⟨r.mapError .error, []⟩) :
    Settles (s.entering name type) r events := by
  rw [entering_eq, ← List.append_nil events]
  exact h.bind (settles_const_iff.mpr hr)

theorem settles_entering (x : s.Entry name type) :
    Settles (s.entering name type) (.ok (x.store, x.func)) x.logged := by
  refine settles_entering_of_found x.instantiated ?_
  rw [outcome_found, x.memory, x.exported]
  rfl

theorem settles_entering_of_failure {e : DeployError} {events : List Log.Event}
    (h : EntryFailure s name type e events) :
    Settles (s.entering name type) (.error e) events := by
  cases h with
  | instantiation h => exact h.bind_error _
  | memory h hm =>
    refine settles_entering_of_found h ?_
    rw [outcome_found, hm]
    rfl
  | function h hm hf =>
    refine settles_entering_of_found h ?_
    rw [outcome_found, hm, hf]
    rfl

/-- The way into an exported function gets there, or ends with a failure. -/
theorem entry_of_settles {r : Except DeployError (Store × Func)} {events : List Log.Event}
    (h : Settles (s.entering name type) r events) :
    (∃ e, EntryFailure s name type e events ∧ r = .error e) ∨
      ∃ x : s.Entry name type, r = .ok (x.store, x.func) ∧ events = x.logged := by
  rw [entering_eq] at h
  obtain ⟨e, he, rfl⟩ | ⟨store, before, after, hs, hf, rfl⟩ := h.of_bind s.module.stable_instantiate
  · obtain ⟨detail, rfl⟩ := Module.instantiation_of_error he
    exact .inl ⟨_, .instantiation he, rfl⟩
  · rw [settles_const_iff, outcome_found] at hf
    cases hm : s.module.exportsMemory with
    | error e =>
      rw [hm] at hf
      cases r <;> cases hf
      rw [List.append_nil]
      exact .inl ⟨_, .memory hs hm, rfl⟩
    | ok u =>
      cases hx : s.module.exportedFunc name type with
      | error e =>
        rw [hm, hx] at hf
        cases r <;> cases hf
        rw [List.append_nil]
        exact .inl ⟨_, .function hs hm hx, rfl⟩
      | ok f =>
        rw [hm, hx] at hf
        cases r <;> cases hf
        exact .inr ⟨⟨store, before, f, hs, hm, hx⟩, rfl, List.append_nil _⟩

/-- The start function comes to an end in front of every failure. -/
theorem EntryFailure.settles_instantiate {e : DeployError} {events : List Log.Event}
    (h : EntryFailure s name type e events) : ∃ r, Settles s.module.instantiate r events := by
  cases h with
  | instantiation h => exact ⟨_, h⟩
  | memory h _ => exact ⟨_, h⟩
  | function h _ _ => exact ⟨_, h⟩

/-- An instance whose start function ends leads to the exported function or to a failure. -/
theorem entryFailure_or_entry (name : String) (type : FuncType) {r : Except DeployError Store}
    {events : List Log.Event} (h : Settles s.module.instantiate r events) :
    (∃ e, EntryFailure s name type e events) ∨ Nonempty (s.Entry name type) := by
  cases r with
  | error e =>
    obtain ⟨detail, rfl⟩ := Module.instantiation_of_error h
    exact .inl ⟨_, .instantiation h⟩
  | ok store =>
    cases hm : s.module.exportsMemory with
    | error e => exact .inl ⟨_, .memory h hm⟩
    | ok u =>
      cases hf : s.module.exportedFunc name type with
      | error e => exact .inl ⟨_, .function h hm hf⟩
      | ok f => exact .inr ⟨⟨store, events, f, h, hm, hf⟩⟩

theorem outcome_settle {α : Type} (r : Except DeployError α) :
    (settle r).outcome = ⟨r.mapError .error, []⟩ := by
  cases r <;> rfl

/-- The event in front of what an entrypoint logs. -/
theorem invoking_eq (s : Sandbox) (name : String) (t : Timestamp) :
    s.invoking name t = fun n => s.entering name .wordToWord n >>= fun x =>
      emit (invokingEvent name t) >>= fun _ => s.calling x.2 [t.millis] x.1 n >>= fun y =>
        emit (returnedEvent name (.unpack y.1)) >>= fun _ =>
          settle (addressAt s.limits y.2 (.unpack y.1)) := rfl

theorem settles_emit (e : Log.Event) : Settles (fun _ => emit e) (.ok ()) [e] :=
  settles_const_iff.mpr rfl

theorem Entry.settles_invoking_of_value (x : s.Entry name .wordToWord) {p : UInt64}
    (h : Ends s.module (x.machine [t.millis]) (.value p) after) :
    Settles (s.invoking name t) (addressAt s.limits after.memory (.unpack p))
      (x.logged ++ invokingEvent name t ::
        (after.events ++ [returnedEvent name (.unpack p)])) := by
  have hcheck : Settles (fun _ => settle (addressAt s.limits after.memory (.unpack p)))
      (addressAt s.limits after.memory (.unpack p)) [] := settles_const_iff.mpr (outcome_settle _)
  rw [invoking_eq]
  exact (settles_entering x).bind ((settles_emit _).bind
    ((settles_calling_of_value h).bind ((settles_emit _).bind hcheck)))

theorem Entry.settles_invoking_of_stopped (x : s.Entry name .wordToWord) {why : Stop}
    (h : Ends s.module (x.machine [t.millis]) (.stopped why) after) :
    Settles (s.invoking name t) (.error why.toDeployError)
      (x.logged ++ invokingEvent name t :: after.events) := by
  rw [invoking_eq]
  exact (settles_entering x).bind ((settles_emit _).bind
    ((settles_calling_of_stopped h).bind_error _))

theorem settles_invoking_of_failure {e : DeployError} {events : List Log.Event}
    (h : EntryFailure s name .wordToWord e events) :
    Settles (s.invoking name t) (.error e) events :=
  (settles_entering_of_failure h).bind_error _

/-- The call of an entrypoint settles before the function or by the end of its execution. -/
theorem entry_of_settles_invoking {r : Except DeployError Address} {events : List Log.Event}
    (h : Settles (s.invoking name t) r events) :
    (∃ e, EntryFailure s name .wordToWord e events ∧ r = .error e) ∨
      ∃ (x : s.Entry name .wordToWord) (o : Outcome) (after : Store),
        Ends s.module (x.machine [t.millis]) o after := by
  rw [invoking_eq] at h
  obtain ⟨e, he, rfl⟩ | ⟨y, before, rest, hy, hrest, rfl⟩ :=
    h.of_bind (s.stable_entering name .wordToWord)
  · obtain ⟨e', he', heq⟩ | ⟨x, heq, _⟩ := entry_of_settles he
    · cases heq
      exact .inl ⟨e, he', rfl⟩
    · cases heq
  · obtain ⟨_, _, heq⟩ | ⟨x, heq, rfl⟩ := entry_of_settles hy
    · cases heq
    · cases heq
      refine .inr ⟨x, ?_⟩
      obtain ⟨e, he, _⟩ | ⟨_, _, _, _, hcall, _⟩ := hrest.of_bind (stable_const _)
      · rw [settles_const_iff] at he
        cases he
      · obtain ⟨_, he, _⟩ | ⟨_, _, _, hv, _, _⟩ := hcall.of_bind (s.stable_calling _ _ _)
        · exact ends_of_settles_calling he
        · exact ends_of_settles_calling hv

/-- There is only one way into an exported function. -/
theorem Entry.unique (x y : s.Entry name type) : x.store = y.store ∧ x.func = y.func := by
  have heq := ((settles_entering x).unique (settles_entering y)).1
  injection heq with heq
  injection heq with hstore hfunc
  exact ⟨hstore, hfunc⟩

theorem Entry.ends_of_settles_invoking (x : s.Entry name .wordToWord)
    {r : Except DeployError Address} {events : List Log.Event}
    (h : Settles (s.invoking name t) r events) :
    ∃ (o : Outcome) (after : Store), Ends s.module (x.machine [t.millis]) o after := by
  obtain ⟨e, he, _⟩ | ⟨y, o, after, hends⟩ := entry_of_settles_invoking h
  · cases ((settles_entering_of_failure he).unique (settles_entering x)).1
  · obtain ⟨hstore, hfunc⟩ := x.unique y
    refine ⟨o, after, ?_⟩
    rwa [Entry.machine, hstore, hfunc]

theorem Entry.publishes (x : s.Entry schemasExport .word) : s.publishes := by
  intro hall
  obtain ⟨i, hi, _⟩ := Module.exportedFunc_eq_ok_iff.mp x.exported
  obtain ⟨before, rest, heq, _⟩ := List.lookup_eq_some_iff.mp hi
  rw [heq, List.all_append, List.all_cons] at hall
  simp at hall

theorem Entry.settles_describing_of_value (x : s.Entry schemasExport .word) {p : UInt64}
    (h : Ends s.module (x.machine []) (.value p) after) :
    Settles s.describing ((schemasAt s.limits after.memory (.unpack p)).map some)
      (x.logged ++ after.events) := by
  have hcheck : Settles (fun _ => some <$> settle (schemasAt s.limits after.memory (.unpack p)))
      ((schemasAt s.limits after.memory (.unpack p)).map some) [] := by
    rw [settles_const_iff]
    cases schemasAt s.limits after.memory (.unpack p) <;> rfl
  rw [describing_of_publishes x.publishes]
  refine (settles_entering x).bind ?_
  rw [← List.append_nil after.events]
  exact (settles_calling_of_value h).bind hcheck

theorem Entry.settles_describing_of_stopped (x : s.Entry schemasExport .word) {why : Stop}
    (h : Ends s.module (x.machine []) (.stopped why) after) :
    Settles s.describing (.error why.toDeployError) (x.logged ++ after.events) := by
  rw [describing_of_publishes x.publishes]
  exact (settles_entering x).bind ((settles_calling_of_stopped h).bind_error _)

/-- The call of the schemas function settles by the end of its execution. -/
theorem Entry.ends_of_settles_describing (x : s.Entry schemasExport .word)
    {r : Except DeployError (Option String)} {events : List Log.Event}
    (h : Settles s.describing r events) :
    ∃ (o : Outcome) (after : Store), Ends s.module (x.machine []) o after := by
  rw [describing_of_publishes x.publishes] at h
  obtain ⟨_, he, _⟩ | ⟨_, _, _, hy, hrest, _⟩ := h.of_bind (s.stable_entering schemasExport .word)
  · cases (he.unique (settles_entering x)).1
  · cases (hy.unique (settles_entering x)).1
    obtain ⟨_, he, _⟩ | ⟨_, _, _, hv, _, _⟩ := hrest.of_bind (s.stable_calling _ _ _)
    · exact ends_of_settles_calling he
    · exact ends_of_settles_calling hv

end Sandbox

/-- A small module: a page of memory with bytes from address 16 on, and one entrypoint. -/
def Module.holding (bytes : Bytes) (entrypoint : String) (body : List Stmt) : Module where
  name := none
  memory := some ⟨1, none, some memoryExport⟩
  globals := []
  data := [(16, bytes)]
  imports := [HostFunc.abort.toImport]
  funcs := [⟨[entrypoint], .wordToWord, 0, body⟩]
  start := none

end DeployTrigger.Guest
