import DeployTrigger.Program
import DeployTrigger.Proofs.Guest.Calls

/-!
What the program does before the clock is read. It ends with the settings and the deployer of the
module they ask for, or with a report, or breaks down, and there is one condition for each of these
(`preparation`).
-/
namespace DeployTrigger

theorem Log.Logged.value_run_bind {ε α β : Type} (x : ExceptT ε Logged α)
    (f : α → ExceptT ε Logged β) :
    (x >>= f).run.value = x.run.value.bind fun a => (f a).run.value := by
  change ((x.run >>= ExceptT.bindCont f : Logged (Except ε β))).value = _
  rw [value_bind]
  cases x.run.value <;> rfl

/-- The file at a path is compiled to a module. -/
def World.Holds (w : World) (compiler : Guest.Compiler) (path : Bytes) (m : Guest.Module) : Prop :=
  ∃ file, w.read path = .ok file ∧ compiler.module file = .ok m

namespace Guest.Compiler
variable {compiler : Compiler} {file : Bytes}

/-- The compiler that knows one file and refuses all others. -/
def knowing (file : Bytes) (m : Module) : Compiler := .checking fun found =>
  if found = file then .ok m else .error "unknown module"

theorem module_knowing {m : Module} (hv : m.isValid = true) :
    (knowing file m).module file = .ok m := module_checking (if_pos rfl) hv

theorem value_compile_of_ok {m : Module} (h : compiler.module file = .ok m) :
    (compiler.compile file).outcome.value = .ok ⟨m, compiler.valid h, {}, defaultFuel⟩ := by
  unfold compile
  split
  · rename_i text herror
    cases h.symm.trans herror
  · rename_i m' hm
    cases h.symm.trans hm
    rfl

theorem value_compile_of_error {text : String} (h : compiler.module file = .error text) :
    (compiler.compile file).outcome.value = .error (.error (.invalidModule text)) := by
  unfold compile
  split
  · rename_i text' herror
    cases h.symm.trans herror
    rfl
  · rename_i m hm
    cases h.symm.trans hm

end Guest.Compiler

namespace ModuleDeployer
variable {compiler : Guest.Compiler} {w : World} {path file : Bytes} {limits : Limits}

theorem value_load_of_unreadable {e : IoError} (h : w.read path = .error e) :
    (load compiler w path limits).outcome.value = .error (.error (.unreadable e)) := by
  simp only [load, h]
  rfl

theorem value_load_of_read (h : w.read path = .ok file) :
    (load compiler w path limits).outcome.value =
      (compiler.compile file).outcome.value.map fun s => ofSandbox { s with limits := limits } := by
  simp only [load, h, Deploy.outcome, Log.Logged.value_run_bind]
  cases (compiler.compile file).run.value <;> rfl

/-- A file is loaded as the module that it is compiled to, under the given limits. -/
theorem load_cases (compiler : Guest.Compiler) (w : World) (path : Bytes) (limits : Limits) :
    (∃ s : Guest.Sandbox, w.Holds compiler path s.module ∧ s.limits = limits ∧
      (load compiler w path limits).outcome.value = .ok (ofSandbox s)) ∨
    ((∀ s : Guest.Sandbox, ¬ w.Holds compiler path s.module) ∧
      ∃ e, (load compiler w path limits).outcome.value = .error (.error e)) := by
  cases h : w.read path with
  | error e =>
    refine .inr ⟨fun s ⟨file, hfile, _⟩ => ?_, _, value_load_of_unreadable h⟩
    rw [h] at hfile
    cases hfile
  | ok file =>
    cases hm : compiler.module file with
    | ok m =>
      refine .inl ⟨⟨m, compiler.valid hm, limits, Guest.defaultFuel⟩, ⟨file, h, hm⟩, rfl, ?_⟩
      rw [value_load_of_read h, Guest.Compiler.value_compile_of_ok hm]
      rfl
    | error text =>
      refine .inr ⟨fun s ⟨file', hfile, hs⟩ => ?_, .invalidModule text, ?_⟩
      · rw [h] at hfile
        cases hfile
        cases hm.symm.trans hs
      · rw [value_load_of_read h, Guest.Compiler.value_compile_of_error hm]
        rfl

end ModuleDeployer

namespace Program
open CommandLine (Options)

/-- The settings before those of the command line: the ones in the file, or else the defaults. -/
def baseSettings (w : World) (o : Options) : Except (Fault IoError) Config :=
  match o.config with
  | some file => Config.ofFile w file
  | none => .ok {}

/-- Settings with those of the command line in place of them. -/
def effective (o : Options) (base : Config) : Config :=
  { base with
    entrypoint := o.entrypoint.getD base.entrypoint
    timeout := (o.timeout.map Duration.ofSeconds).or base.timeout }

/-- Everything that is needed in front of the clock is there: settings, and at the expanded path a
module, which is run under the limits of the settings. -/
structure Prepared (compiler : Guest.Compiler) (w : World) (o : Options) (base : Config)
    (s : Guest.Sandbox) : Prop where
  settings : baseSettings w o = .ok base
  module : ∃ path, expandPath w o.module = .ok path ∧ w.Holds compiler (utf8 path) s.module
  limits : s.limits = base.limits

/-- The settings or the path of the module break the program down. -/
inductive Breaks (w : World) (o : Options) : Prop where
  | settings (h : baseSettings w o = .error .breakdown)
  | path {base : Config} (h : baseSettings w o = .ok base)
      (hp : expandPath w o.module = .error .breakdown)

/-- The ways of the preparation. -/
inductive Preparation (compiler : Guest.Compiler) (w : World) (o : Options) :
    Except Ending (Config × ModuleDeployer) → Prop where
  | broken (h : Breaks w o) : Preparation compiler w o (.error .breakdown)
  | failed {report : Report} (hb : ¬ Breaks w o) (h : ∀ base s, ¬ Prepared compiler w o base s) :
      Preparation compiler w o (.error (.failure report))
  | prepared {base : Config} {s : Guest.Sandbox} (h : Prepared compiler w o base s) :
      Preparation compiler w o (.ok (effective o base, ⟨s, (effective o base).entrypoint⟩))

variable {compiler : Guest.Compiler} {w : World} {o : Options} {base base' : Config}
  {s s' : Guest.Sandbox}

theorem settings_eq (w : World) (o : Options) :
    o.settings w = (baseSettings w o).map (effective o) := by
  unfold Options.settings baseSettings
  cases o.config with
  | none => rfl
  | some file => cases Config.ofFile w file <;> rfl

theorem value_prepare (compiler : Guest.Compiler) (w : World) (o : Options) :
    (prepare compiler w o).run.value =
      ((o.settings w).mapError Ending.ofFault).bind fun config =>
        ((expandPath w o.module).mapError Ending.ofFault).bind fun path =>
          ((ModuleDeployer.load compiler w (utf8 path) config.limits).outcome.value.mapError
            Ending.ofFailure).bind fun d => .ok (config, { d with entrypoint := config.entrypoint }) := by
  simp only [prepare, Log.Logged.value_run_bind]
  rfl

theorem not_breaks (h : baseSettings w o ≠ .error .breakdown)
    (hp : ∀ base, baseSettings w o = .ok base → expandPath w o.module ≠ .error .breakdown) :
    ¬ Breaks w o := by
  intro hb
  cases hb with
  | settings hs => exact h hs
  | path hs hpath => exact hp _ hs hpath

theorem Prepared.not_breaks (h : Prepared compiler w o base s) : ¬ Breaks w o := by
  obtain ⟨path, hpath, _⟩ := h.module
  exact Program.not_breaks (by simp [h.settings]) (by simp [hpath])

theorem preparation (compiler : Guest.Compiler) (w : World) (o : Options) :
    Preparation compiler w o (prepare compiler w o).run.value := by
  rw [value_prepare, settings_eq]
  cases hbase : baseSettings w o with
  | error fault =>
    cases fault with
    | breakdown => exact .broken (.settings hbase)
    | error e =>
      refine .failed (not_breaks (by simp [hbase]) (by simp [hbase])) fun base s hp => ?_
      have h := hp.settings
      rw [hbase] at h
      cases h
  | ok base =>
    cases hpath : expandPath w o.module with
    | error fault =>
      cases fault with
      | breakdown => exact .broken (.path hbase hpath)
      | error e =>
        refine .failed (not_breaks (by simp [hbase]) (by simp [hpath])) fun base s hp => ?_
        obtain ⟨path, h, _⟩ := hp.module
        rw [hpath] at h
        cases h
    | ok path =>
      -- Loading takes no steps of the guest, so there is a deployer or an error to report.
      change Preparation compiler w o
        (((ModuleDeployer.load compiler w (utf8 path) base.limits).outcome.value.mapError
          Ending.ofFailure).bind _)
      obtain ⟨s, hs, hlimits, hload⟩ | ⟨hnone, e, hload⟩ :=
        ModuleDeployer.load_cases compiler w (utf8 path) base.limits
      · rw [hload]
        exact .prepared ⟨hbase, ⟨path, hpath, hs⟩, hlimits⟩
      · rw [hload]
        refine .failed (not_breaks (by simp [hbase]) (by simp [hpath])) fun base s hp => ?_
        obtain ⟨path', h, hs⟩ := hp.module
        obtain rfl := Except.ok.inj (hpath.symm.trans h)
        exact hnone s hs

/-- What is prepared is settled by the files and the options, but for a bound on steps. -/
theorem Prepared.unique (h : Prepared compiler w o base s) (h' : Prepared compiler w o base' s') :
    base = base' ∧ ∀ n, s.within n = s'.within n := by
  have hbase := h.settings.symm.trans h'.settings
  obtain ⟨path, hpath, file, hfile, hm⟩ := h.module
  obtain ⟨path', hpath', file', hfile', hm'⟩ := h'.module
  obtain rfl := Except.ok.inj (hpath.symm.trans hpath')
  obtain rfl := Except.ok.inj (hfile.symm.trans hfile')
  have hmodule := Except.ok.inj (hm.symm.trans hm')
  obtain rfl := Except.ok.inj hbase
  refine ⟨rfl, fun n => ?_⟩
  have hlimits := h.limits.trans h'.limits.symm
  cases s
  cases s'
  cases hmodule
  cases hlimits
  rfl

end Program
end DeployTrigger
