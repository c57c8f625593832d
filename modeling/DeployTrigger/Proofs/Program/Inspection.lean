import DeployTrigger.Proofs.CommandLine.Selection
import DeployTrigger.Proofs.Guest.Events
import DeployTrigger.Proofs.Program.Refinement

/-!
The program as it is seen from outside, for arguments that ask for the schemas of the module. The
document is printed iff the module describes itself, nothing is deployed, and neither the clock nor
what a deployment would go by makes a difference (`session_inspects`).
-/
namespace DeployTrigger
open Deploy

/-- Events of a deployment: of the trigger, or of a call of an entrypoint. -/
inductive Deploys : Log.Event → Prop where
  | trigger {e : Log.Event} (h : e.source = .trigger) : Deploys e
  | calling (entrypoint : String) (t : Timestamp) :
      Deploys (ModuleDeployer.callingEvent entrypoint t)
  | invoking (entrypoint : String) (t : Timestamp) :
      Deploys (Guest.Sandbox.invokingEvent entrypoint t)

theorem not_deploys {e : Log.Event} (ht : e.source ≠ .trigger)
    (hc : (e.source, e.level) ≠ (.deployer, .debug)) (hi : (e.source, e.level) ≠ (.host, .trace)) :
    ¬ Deploys e := by
  intro h
  cases h with
  | trigger h => exact ht h
  | calling => exact hc rfl
  | invoking => exact hi rfl

theorem not_deploys_logEvent (s : Guest.Store) (r : Location) : ¬ Deploys (s.logEvent r) := by
  rw [Guest.Store.logEvent]
  split <;> exact not_deploys nofun nofun nofun

theorem not_deploys_compiledEvent (m : Guest.Module) :
    ¬ Deploys (Guest.Compiler.compiledEvent m) :=
  not_deploys nofun nofun nofun

theorem not_deploys_loadedEvent (path file : Bytes) :
    ¬ Deploys (ModuleDeployer.loadedEvent path file) :=
  not_deploys nofun nofun nofun

theorem not_deploys_compile (compiler : Guest.Compiler) (file : Bytes) :
    Logs (¬ Deploys ·) (compiler.compile file) := by
  rw [Guest.Compiler.compile]
  split
  · exact .of_silent rfl
  · exact Logs.bind (.emit (not_deploys_compiledEvent _)) fun _ _ => .of_silent rfl

/-- Loading a module does not call it. -/
theorem ModuleDeployer.not_deploys_load (compiler : Guest.Compiler) (w : World) (path : Bytes)
    (limits : Limits) : Logs (¬ Deploys ·) (load compiler w path limits) := by
  cases h : w.read path with
  | error e =>
    simp only [load, h]
    exact .of_silent rfl
  | ok file =>
    simp only [load, h]
    refine Logs.bind (.emit (not_deploys_loadedEvent path file)) fun _ _ => ?_
    exact (not_deploys_compile compiler file).bind fun _ _ => .of_silent rfl

namespace Program
open CommandLine (Options)

theorem not_deploys_prepare (compiler : Guest.Compiler) (w : World) (o : Options) :
    Logs (¬ Deploys ·) (prepare compiler w o) := by
  have hemit : ∀ level message, Logs (¬ Deploys ·) (Work.emit level message) := by
    intro level message e he
    obtain rfl := List.mem_singleton.mp he
    exact not_deploys nofun nofun nofun
  have hload : ∀ path limits,
      Logs (¬ Deploys ·) (Work.ofDeploy (ModuleDeployer.load compiler w path limits)) := by
    intro path limits e he
    change e ∈ (ModuleDeployer.load compiler w path limits).outcome.events ++ [] at he
    rw [List.append_nil] at he
    exact ModuleDeployer.not_deploys_load compiler w path limits e he
  rw [prepare]
  refine (hemit _ _).bind fun _ _ => (hemit _ _).bind fun _ _ => ?_
  refine (Logs.of_silent rfl).bind fun _ _ => (hemit _ _).bind fun _ _ => ?_
  exact (Logs.of_silent rfl).bind fun _ _ => (hload _ _).bind fun _ _ => .of_silent rfl

/-- The module describes itself within a bound on its steps. -/
def Describes (s : Guest.Sandbox) (steps : Nat) (document : String) : Prop :=
  (s.describing steps).outcome.value = .ok (some document)

/-- The ways of the program that asks for the schemas, with what is seen of each. -/
inductive Inspection (compiler : Guest.Compiler) (w : World) (o : Options) (steps : Nat) :
    Session → Prop where
  | broken {log : List Log.Event} (h : BreaksDown w o) :
      Inspection compiler w o steps ⟨some 101, [], log, Ending.breakdown.message⟩
  | unprepared {log : List Log.Event} {report : Report} (hb : ¬ BreaksDown w o)
      (h : ∀ base s, ¬ Prepared compiler w o base s) :
      Inspection compiler w o steps ⟨some 1, [], log, report.text⟩
  | endless {log : List Log.Event} {base : Config} {s : Guest.Sandbox} (hb : ¬ BreaksDown w o)
      (hp : Prepared compiler w o base s)
      (h : (s.describing steps).outcome.value = .error .unfinished) :
      Inspection compiler w o steps ⟨none, [], log, ""⟩
  | undescribed {log : List Log.Event} {report : Report} {base : Config} {s : Guest.Sandbox}
      (hb : ¬ BreaksDown w o) (hp : Prepared compiler w o base s) (hn : ∀ doc, ¬ Describes s steps doc) :
      Inspection compiler w o steps ⟨some 1, [], log, report.text⟩
  | described {log : List Log.Event} {base : Config} {s : Guest.Sandbox} {doc : String}
      (hb : ¬ BreaksDown w o) (hp : Prepared compiler w o base s) (h : Describes s steps doc) :
      Inspection compiler w o steps ⟨some 0, utf8 (doc ++ "\n"), log, ""⟩

section Session
variable {compiler : Guest.Compiler} {w : World} {args : List Bytes} {o : Options} {steps : Nat}

/-- Behind the preparation the program does what describing the module comes to. -/
theorem inspection_publish {base : Config} {s : Guest.Sandbox} (hb : ¬ BreaksDown w o)
    (hp : Prepared compiler w o base s) (entrypoint : String) (log : List Log.Event) :
    let r := publish ⟨s.within steps, entrypoint⟩
    Inspection compiler w o steps ⟨r.ending.code, r.output, log, r.ending.message⟩ := by
  intro r
  have hr : r = publish ⟨s.within steps, entrypoint⟩ := rfl
  have hd : ModuleDeployer.schemas ⟨s.within steps, entrypoint⟩ = s.describing steps := rfl
  rw [publish, hd] at hr
  cases hv : (s.describing steps).outcome.value with
  | error failure =>
    rw [hv] at hr
    cases failure with
    | unfinished =>
      rw [hr]
      exact .endless hb hp hv
    | error e =>
      rw [hr]
      exact .undescribed hb hp fun doc h => by cases hv.symm.trans h
  | ok description =>
    rw [hv] at hr
    cases description with
    | none =>
      rw [hr]
      exact .undescribed hb hp fun doc h => by cases hv.symm.trans h
    | some doc =>
      rw [hr]
      exact .described hb hp hv

theorem inspection_session (h : Options.ofArguments args = .ok o) (hs : o.schemas = true)
    (compiler : Guest.Compiler) (w : World) (system : Clock) (pace : Pace) :
    Inspection compiler w o pace.steps (session compiler w system args pace) := by
  simp only [session, h]
  cases hf : filter? w o.verbosity with
  | none => exact .broken (.inl hf)
  | some filter =>
    have hprep := preparation compiler w o
    simp only [run, Outcome.seenThrough]
    generalize (prepare compiler w o).run.value = v at hprep ⊢
    cases hprep with
    | broken hb => exact .broken (.inr hb)
    | failed hb hnone => exact .unprepared (by simp [BreaksDown, hf, hb]) hnone
    | prepared hp =>
      simp only [hs, if_true]
      exact inspection_publish (by simp [BreaksDown, hf, hp.not_breaks]) hp _ _

end Session

section View
variable {compiler : Guest.Compiler} {w : World} {o : Options} {steps : Nat} {r : Session}
  {base : Config} {s : Guest.Sandbox}

theorem Inspection.breakdown_iff (h : Inspection compiler w o steps r) :
    r.code = some 101 ↔ BreaksDown w o := by
  cases h with
  | broken h => exact iff_of_true rfl h
  | unprepared hb | endless hb | undescribed hb | described hb => exact iff_of_false (by simp) hb

theorem Inspection.output_of_failure (h : Inspection compiler w o steps r) (hzero : r.code ≠ some 0) :
    r.output = [] := by
  cases h with
  | described => exact absurd rfl hzero
  | _ => rfl

theorem Inspection.failed (h : Inspection compiler w o steps r) (hb : ¬ BreaksDown w o)
    (hzero : r.code ≠ some 0) (hends : r.code ≠ none) :
    r.code = some 1 ∧ ∃ rest, r.message = "Error: " ++ rest := by
  cases h with
  | broken h => exact absurd h hb
  | unprepared | undescribed => exact ⟨rfl, _, String.append_assoc⟩
  | endless => exact absurd rfl hends
  | described => exact absurd rfl hzero

theorem Inspection.unprepared_of (h : Inspection compiler w o steps r) (hb : ¬ BreaksDown w o)
    (hn : ∀ base s, ¬ Prepared compiler w o base s) : r.code = some 1 := by
  cases h with
  | broken h => exact absurd h hb
  | unprepared => rfl
  | endless _ hp | undescribed _ hp | described _ hp => exact absurd hp (hn _ _)

/-- A document that is printed is the one that the module settles to. -/
theorem Inspection.published (h : Inspection compiler w o steps r) (hzero : r.code = some 0) :
    ∃ base s doc events, Prepared compiler w o base s ∧ Settles s.describing (.ok (some doc)) events ∧
      r.output = utf8 (doc ++ "\n") := by
  cases h with
  | @described log base s doc hb hp hd =>
    have hrun : (s.describing steps).outcome =
        ⟨.ok (some doc), (s.describing steps).outcome.events⟩ := by
      rw [← hd]
    exact ⟨base, s, doc, _, hp, s.describing_stable.settles hrun, rfl⟩
  | _ => cases hzero

theorem Prepared.describing_eq {base' : Config} {s' : Guest.Sandbox} (h : Prepared compiler w o base s)
    (h' : Prepared compiler w o base' s') : s'.describing = s.describing := by
  obtain ⟨-, hwithin⟩ := h.unique h'
  funext n
  simp only [Guest.Sandbox.describing, hwithin]

section Ready
variable (hb : ¬ BreaksDown w o) (hp : Prepared compiler w o base s)
include hb hp

theorem Inspection.success_of_describes (h : Inspection compiler w o steps r) {doc : String}
    (hd : Describes s steps doc) : r.code = some 0 ∧ r.output = utf8 (doc ++ "\n") := by
  cases h with
  | broken h => exact absurd h hb
  | unprepared _ hnone => exact absurd hp (hnone _ _)
  | endless _ hp' h =>
    rw [hp.describing_eq hp'] at h
    cases hd.symm.trans h
  | undescribed _ hp' hn =>
    rw [Describes, ← hp.describing_eq hp'] at hd
    exact absurd hd (hn doc)
  | described _ hp' h =>
    rw [Describes, hp.describing_eq hp'] at h
    cases hd.symm.trans h
    exact ⟨rfl, rfl⟩

theorem Inspection.failure_of_settled (h : Inspection compiler w o steps r)
    {d : Except DeployError (Option String)} (hne : ∀ doc, d ≠ .ok (some doc))
    (hd : (s.describing steps).outcome.value = d.mapError .error) : r.code = some 1 := by
  cases h with
  | broken h => exact absurd h hb
  | unprepared | undescribed => rfl
  | endless _ hp' h =>
    rw [hp.describing_eq hp', hd] at h
    cases d <;> cases h
  | described _ hp' h =>
    rw [Describes, hp.describing_eq hp', hd] at h
    cases d with
    | error e => cases h
    | ok description =>
      cases h
      exact absurd rfl (hne _)

end Ready
end View

/-- What is seen of an inspection, however the call of the module goes. -/
structure Inspects (compiler : Guest.Compiler) (w : World) (o : Options) (view : Pace → Session) :
    Prop where
  breakdown_iff (pace : Pace) : (view pace).code = some 101 ↔ BreaksDown w o
  /-- The document is the one that the module settles to, under the limits of the settings. -/
  published (pace : Pace) (h : (view pace).code = some 0) : ∃ base s doc events,
    Prepared compiler w o base s ∧ Settles s.describing (.ok (some doc)) events ∧
      (view pace).output = utf8 (doc ++ "\n")
  /-- Such a document is printed, if the module is given the steps for it. -/
  completed {base : Config} {s : Guest.Sandbox} {doc : String} {events : List Log.Event}
    (hb : ¬ BreaksDown w o) (hp : Prepared compiler w o base s)
    (hd : Settles s.describing (.ok (some doc)) events) :
    ∃ n, ∀ pace : Pace, n ≤ pace.steps → (view pace).code = some 0 ∧
      (view pace).output = utf8 (doc ++ "\n")
  unprepared (pace : Pace) (hb : ¬ BreaksDown w o) (hn : ∀ base s, ¬ Prepared compiler w o base s) :
    (view pace).code = some 1
  undescribed {base : Config} {s : Guest.Sandbox} {d : Except DeployError (Option String)}
    {events : List Log.Event} (hb : ¬ BreaksDown w o) (hp : Prepared compiler w o base s)
    (hd : Settles s.describing d events) (hne : ∀ doc, d ≠ .ok (some doc)) :
    ∃ n, ∀ pace : Pace, n ≤ pace.steps → (view pace).code = some 1
  failed (pace : Pace) (hb : ¬ BreaksDown w o) (hzero : (view pace).code ≠ some 0)
    (hends : (view pace).code ≠ none) :
    (view pace).code = some 1 ∧ ∃ rest, (view pace).message = "Error: " ++ rest
  silent (pace : Pace) (hzero : (view pace).code ≠ some 0) : (view pace).output = []

theorem inspects_session {args : List Bytes} {o : Options}
    (hargs : Options.ofArguments args = .ok o) (hs : o.schemas = true) (compiler : Guest.Compiler)
    (w : World) (system : Clock) :
    Inspects compiler w o fun pace => session compiler w system args pace where
  breakdown_iff pace := (inspection_session hargs hs compiler w system pace).breakdown_iff
  published pace := (inspection_session hargs hs compiler w system pace).published
  completed hb hp hd := by
    obtain ⟨n, hn⟩ := hd
    refine ⟨n, fun pace hle => ?_⟩
    exact (inspection_session hargs hs compiler w system pace).success_of_describes hb hp
      (congrArg Log.Logged.value (hn pace.steps hle))
  unprepared pace := (inspection_session hargs hs compiler w system pace).unprepared_of
  undescribed hb hp hd hne := by
    obtain ⟨n, hn⟩ := hd
    refine ⟨n, fun pace hle => ?_⟩
    exact (inspection_session hargs hs compiler w system pace).failure_of_settled hb hp hne
      (congrArg Log.Logged.value (hn pace.steps hle))
  failed pace := (inspection_session hargs hs compiler w system pace).failed
  silent pace := (inspection_session hargs hs compiler w system pace).output_of_failure

section Independence
variable {compiler : Guest.Compiler} {w : World} {system : Clock} {args args' : List Bytes}
  {o o' : Options} {pace : Pace}

/-- The settings in the file and the module, as far as they are there. -/
def loaded (compiler : Guest.Compiler) (w : World) (o : Options) :
    Except Ending (Config × Guest.Sandbox) :=
  ((baseSettings w o).mapError Ending.ofFault).bind fun base =>
    ((expandPath w o.module).mapError Ending.ofFault).bind fun path =>
      ((ModuleDeployer.load compiler w (utf8 path) base.limits).outcome.value.mapError Ending.ofFailure).map
        fun d => (base, d.sandbox)

theorem value_prepare_eq (compiler : Guest.Compiler) (w : World) (o : Options) :
    (prepare compiler w o).run.value = (loaded compiler w o).map fun p =>
      (effective o p.1, ⟨p.2, (effective o p.1).entrypoint⟩) := by
  rw [value_prepare, settings_eq, loaded]
  cases baseSettings w o with
  | error fault => rfl
  | ok base =>
    cases expandPath w o.module with
    | error fault => rfl
    | ok path =>
      change ((ModuleDeployer.load compiler w (utf8 path) base.limits).outcome.value.mapError _).bind _ =
        (((ModuleDeployer.load compiler w (utf8 path) base.limits).outcome.value.mapError _).map _).map _
      cases (ModuleDeployer.load compiler w (utf8 path) base.limits).outcome.value <;> rfl

theorem loaded_congr (hconfig : o'.config = o.config) (hmodule : o'.module = o.module) :
    loaded compiler w o' = loaded compiler w o := by
  simp only [loaded, baseSettings, hconfig, hmodule]

/-- The end and the output of the program that asks for the schemas. -/
theorem run_of_schemas (hs : o.schemas = true) (compiler : Guest.Compiler) (w : World)
    (system : Clock) (pace : Pace) :
    (run compiler w system o pace).ending = (match loaded compiler w o with
      | .error ending => ending
      | .ok (_, s) => (publish ⟨s.within pace.steps, ""⟩).ending) ∧
    (run compiler w system o pace).output = (match loaded compiler w o with
      | .error _ => []
      | .ok (_, s) => (publish ⟨s.within pace.steps, ""⟩).output) := by
  simp only [run, value_prepare_eq, hs]
  cases loaded compiler w o <;> exact ⟨rfl, rfl⟩

theorem session_of_schemas (h : Options.ofArguments args = .ok o)
    (h' : Options.ofArguments args' = .ok o') (hs : o.schemas = true) (hs' : o'.schemas = true)
    (hsame : loaded compiler w o' = loaded compiler w o) (hverbosity : o'.verbosity = o.verbosity) (system : Clock) :
    (session compiler w system args' pace).code = (session compiler w system args pace).code ∧
      (session compiler w system args' pace).output = (session compiler w system args pace).output ∧
      (session compiler w system args' pace).message = (session compiler w system args pace).message := by
  obtain ⟨hending, houtput⟩ := run_of_schemas hs compiler w system pace
  obtain ⟨hending', houtput'⟩ := run_of_schemas hs' compiler w system pace
  rw [hsame, ← hending] at hending'
  rw [hsame, ← houtput] at houtput'
  simp only [session, h, h', hverbosity]
  -- The logs may differ, as the settings are logged with what was given for a deployment.
  cases filter? w o.verbosity with
  | none => exact ⟨rfl, rfl, rfl⟩
  | some filter =>
    simp only [Outcome.seenThrough, hending', houtput', and_self]

theorem session_timeless (h : Options.ofArguments args = .ok o) (hs : o.schemas = true)
    (compiler : Guest.Compiler) (w : World) (system system' : Clock) (pace : Pace) :
    session compiler w system' args pace = session compiler w system args pace := by
  simp only [session, h, run, hs, if_true]

theorem events_publish (d : ModuleDeployer) : (publish d).events = d.schemas.outcome.events := by
  simp only [publish]
  split <;> rfl

theorem not_deploys_run (hs : o.schemas = true) (compiler : Guest.Compiler) (w : World)
    (system : Clock) (pace : Pace) : ∀ e ∈ (run compiler w system o pace).events, ¬ Deploys e := by
  have hprepare := not_deploys_prepare compiler w o
  intro e he
  simp only [run, hs, if_true] at he
  split at he
  · exact hprepare e he
  · obtain he | he := List.mem_append.mp he
    · exact hprepare e he
    · rw [events_publish] at he
      exact Guest.Sandbox.logs_describing (p := (¬ Deploys ·)) not_deploys_logEvent _ pace.steps e he

end Independence

/-- What holds of a program that asks for the schemas, whatever the clock and however the call of the
module goes. -/
structure InspectionLaw (compiler : Guest.Compiler) (w : World) (args : List Bytes) (o : Options) :
    Prop where
  inspects (system : Clock) : Inspects compiler w o fun pace => session compiler w system args pace
  timeless (system system' : Clock) (pace : Pace) :
    session compiler w system' args pace = session compiler w system args pace
  /-- Nothing is deployed, also not if the log does not show it. -/
  idle (system : Clock) (pace : Pace) : ∀ e ∈ (run compiler w system o pace).events, ¬ Deploys e
  /-- What a deployment would go by makes no difference. -/
  independent {args' : List Bytes} {o' : Options} (hargs' : Options.ofArguments args' = .ok o')
    (h : CommandLine.SameBut [.instant, .entrypoint, .timeout] args args') (system : Clock)
    (pace : Pace) :
    (session compiler w system args' pace).code = (session compiler w system args pace).code ∧
      (session compiler w system args' pace).output = (session compiler w system args pace).output ∧
      (session compiler w system args' pace).message = (session compiler w system args pace).message

/-- Asking for the schemas never deploys: unless the program breaks down, it prints the document of
the module, or it prints nothing and fails. -/
theorem session_inspects {args : List Bytes} {o : Options}
    (hargs : Options.ofArguments args = .ok o) (hs : o.schemas = true) (compiler : Guest.Compiler)
    (w : World) : InspectionLaw compiler w args o where
  inspects := inspects_session hargs hs compiler w
  timeless := session_timeless hargs hs compiler w
  idle := not_deploys_run hs compiler w
  independent {args' o'} hargs' h system pace := by
    have hsame := Options.sameBut_of_accepted h hargs hargs'
    have hs' := (hsame.schemas (by decide)).trans hs
    have hloaded : loaded compiler w o' = loaded compiler w o :=
      loaded_congr (hsame.config (by decide)) hsame.module
    exact session_of_schemas hargs hargs' hs hs' hloaded (hsame.verbosity (by decide)) system

/-- A module that describes itself. -/
def greeter : Guest.Sandbox where
  module := {
    name := none
    memory := some ⟨1, none, some Guest.memoryExport⟩
    globals := []
    data := [(16, [104, 105])]
    imports := []
    funcs := [⟨[Guest.schemasExport], .word, 0, [.result (.const (Kit.pack 16 2))]⟩]
    start := none }
  valid := by decide
  limits := {}
  fuel := 8

/-- Its file. -/
def greeterFile : Bytes := utf8 (
  "(module (memory (export \"memory\") 1) (data (i32.const 16) \"hi\") " ++
  "(func (export \"schemas\") (result i64) (i64.const 68719476738)))")

/-- What a compiler makes of this file. -/
def greeterCompiler : Guest.Compiler := .knowing greeterFile greeter.module

/-- The file in the home directory. -/
def greeterWorld : World where
  files := World.filesAt [(utf8 "/home/me/m.wat", .ok greeterFile)]
  env := [("HOME", utf8 "/home/me")]
  accountHome := none

/-- The document is printed, with or without an instant to deploy at. -/
theorem greeting_published :
    let view := fun args pace => session greeterCompiler greeterWorld (.fixed .epoch) args pace
    ∃ pace,
      ((view [utf8 "~/m.wat", utf8 "--schemas"] pace).code = some 0 ∧
        (view [utf8 "~/m.wat", utf8 "--schemas"] pace).output = utf8 "hi\n") ∧
      (view [utf8 "~/m.wat", utf8 "--at", utf8 "2023-11-14T22:13:20Z", utf8 "--schemas"] pace).output =
        utf8 "hi\n" := by
  intro view
  let o : Options := { plain (utf8 "~/m.wat") with schemas := true }
  have hargs : Options.ofArguments ([utf8 "~/m.wat"] ++ [utf8 "--schemas"]) = .ok o := rfl
  have law : InspectionLaw greeterCompiler greeterWorld ([utf8 "~/m.wat"] ++ [utf8 "--schemas"]) o :=
    session_inspects hargs rfl greeterCompiler greeterWorld
  have hp : Prepared greeterCompiler greeterWorld o {} greeter :=
    ⟨rfl, ⟨"/home/me/m.wat", expandPath_eq_expandTilde (by decide), greeterFile, rfl,
      Guest.Compiler.module_knowing greeter.valid⟩, rfl⟩
  have hb : ¬ BreaksDown greeterWorld o := by
    rintro (hfilter | hbreaks)
    · exact absurd hfilter (by decide)
    · exact hp.not_breaks hbreaks
  have hd : Settles greeter.describing (.ok (some "hi")) [] :=
    greeter.describing_stable.settles (n := 8) rfl
  obtain ⟨n, hn⟩ := (law.inspects (.fixed .epoch)).completed hb hp hd
  have hcompleted := hn ⟨n, none⟩ (Nat.le_refl n)
  have hplain : CommandLine.Argument.ofBytes (utf8 "2023-11-14T22:13:20Z") =
      .plain (utf8 "2023-11-14T22:13:20Z") := rfl
  have hbefore : CommandLine.TakesSwitch [utf8 "~/m.wat"] :=
    ⟨{ module := some (utf8 "~/m.wat") }, rfl, rfl, fun ⟨_, hj⟩ => nomatch hj⟩
  obtain ⟨i, hi⟩ : ∃ i, Rfc3339.read "2023-11-14T22:13:20Z" = .ok i := ⟨_, rfl⟩
  have hargs' := Options.ofArguments_instant (.inl rfl) hplain hi hbefore hargs rfl
  have hsame : CommandLine.SameBut [.instant, .entrypoint, .timeout]
      ([utf8 "~/m.wat"] ++ [utf8 "--schemas"]) _ :=
    CommandLine.sameBut_instant (by decide) (.inl rfl) hplain hbefore rfl
  have hindependent := law.independent hargs' hsame (.fixed .epoch) ⟨n, none⟩
  exact ⟨⟨n, none⟩, hcompleted, hindependent.2.1.trans hcompleted.2⟩

/-- Not every failure is reported: here, too, the name of a variable can break the program down. -/
theorem inspection_breaks_down :
    ¬ ∀ (compiler : Guest.Compiler) (w : World) (system : Clock) (args : List Bytes) (o : Options)
      (pace : Pace), Options.ofArguments args = .ok o → o.schemas = true →
      (session compiler w system args pace).code ≠ none →
      (session compiler w system args pace).code = some 0 ∨
        (session compiler w system args pace).code = some 1 := by
  intro h
  let o : Options := { plain (utf8 "$é") with schemas := true }
  let args := [utf8 "--schemas", utf8 "$é"]
  have hargs : Options.ofArguments args = .ok o := rfl
  have hpath : expandPath .bare (utf8 "$é") = .error .breakdown :=
    @expandPath_of_wide_name .bare [] [] 'é' List.not_mem_nil (by decide) (by decide)
  have hcode : (session greeterCompiler .bare (.fixed .epoch) args).code = some 101 :=
    (inspection_session hargs rfl greeterCompiler .bare _ {}).breakdown_iff.mpr
      (.inr (.path rfl hpath))
  have hends := h greeterCompiler .bare (.fixed .epoch) _ _ {} hargs rfl (by simp [hcode])
  simp [hcode] at hends

end Program
end DeployTrigger
