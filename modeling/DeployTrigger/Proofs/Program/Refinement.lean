import DeployTrigger.Proofs.Guest.Invocation
import DeployTrigger.Proofs.PathExpansion
import DeployTrigger.Proofs.Program.Preparation
import DeployTrigger.Proofs.Trigger.ReportLines

/-!
The program as it is seen from outside, for arguments that ask for a deployment. It is a run of the
trigger with the module at the given path: each way of the run has its exit code, its output and its
report (`way_session`), and beyond these there is only the breakdown.
-/
namespace DeployTrigger

namespace ModuleDeployer
variable {d : ModuleDeployer} {timeout : Option Duration} {delays : Supply (Option Duration)}
  {time : Timestamp}

theorem value_deploy (d : ModuleDeployer) (time : Timestamp) :
    (d.deploy time).outcome.value = (d.sandbox.invoke d.entrypoint time).outcome.value :=
  Log.Logged.value_run_bind _ _

/-- A module resolves if its entrypoint gives an address and the call does not take too long. -/
theorem resolves_iff {a : Address} :
    (⟨d.toDeployer, timeout⟩ : Trigger (Supply (Option Duration))).Resolves time delays a ↔
      (d.sandbox.invoke d.entrypoint time).outcome.value = .ok a ∧
        Attempt.Meets timeout delays.next.1 := by
  rw [← value_deploy]
  exact Attempt.within_ofOutcome_eq_ok_iff

/-- A call that takes too long fails, whatever it would give. -/
theorem fails_of_exceeds {limit : Duration} (h : Attempt.Exceeds limit delays.next.1) :
    (⟨d.toDeployer, some limit⟩ : Trigger (Supply (Option Duration))).Fails time delays
      (.timeout limit) :=
  Attempt.within_eq_error_iff.mp (Attempt.within_ofOutcome_of_exceeds h _)

end ModuleDeployer

namespace Program
open CommandLine (Options)
open Trigger (header addressLine)

/-- The program breaks down, on the filter of its log or in front of the clock. -/
def BreaksDown (w : World) (o : Options) : Prop := filter? w o.verbosity = none ∨ Breaks w o

/-- The call of the entrypoint gives an address within a bound on its steps. -/
def Gives (o : Options) (base : Config) (s : Guest.Sandbox) (time : Timestamp) (steps : Nat)
    (a : Address) : Prop :=
  (s.invoking (effective o base).entrypoint time steps).outcome.value = .ok a

/-- The ways of the program, with what is seen of each. -/
inductive Way (compiler : Guest.Compiler) (w : World) (system : Clock) (o : Options) (pace : Pace) :
    Session → Prop where
  | broken {log : List Log.Event} (h : BreaksDown w o) :
      Way compiler w system o pace ⟨some 101, [], log, Ending.breakdown.message⟩
  | unprepared {log : List Log.Event} {report : Report} (hb : ¬ BreaksDown w o)
      (h : ∀ base s, ¬ Prepared compiler w o base s) :
      Way compiler w system o pace ⟨some 1, [], log, report.text⟩
  | refused {log : List Log.Event} {report : Report} {e : ClockBeforeEpoch} (hb : ¬ BreaksDown w o)
      (h : Timestamp.ofInstant (o.clock system).read.1 = .error e) :
      Way compiler w system o pace ⟨some 1, [], log, report.text⟩
  | late {log : List Log.Event} {base : Config} {s : Guest.Sandbox} {time : Timestamp}
      {limit : Duration} (hb : ¬ BreaksDown w o) (hp : Prepared compiler w o base s)
      (h : Timestamp.ofInstant (o.clock system).read.1 = .ok time)
      (hl : (effective o base).timeout = some limit) (he : Attempt.Exceeds limit pace.delay) :
      Way compiler w system o pace
        ⟨some 1, utf8 (header time), log, (Report.ofTriggerError (.deploy (.timeout limit))).text⟩
  | endless {log : List Log.Event} {base : Config} {s : Guest.Sandbox} {time : Timestamp}
      (hb : ¬ BreaksDown w o) (hp : Prepared compiler w o base s)
      (h : Timestamp.ofInstant (o.clock system).read.1 = .ok time)
      (hm : Attempt.Meets (effective o base).timeout pace.delay)
      (hn : ∀ a, ¬ Gives o base s time pace.steps a) :
      Way compiler w system o pace ⟨none, utf8 (header time), log, ""⟩
  | undeployed {log : List Log.Event} {report : Report} {base : Config} {s : Guest.Sandbox}
      {time : Timestamp} (hb : ¬ BreaksDown w o) (hp : Prepared compiler w o base s)
      (h : Timestamp.ofInstant (o.clock system).read.1 = .ok time)
      (hm : Attempt.Meets (effective o base).timeout pace.delay)
      (hn : ∀ a, ¬ Gives o base s time pace.steps a) :
      Way compiler w system o pace ⟨some 1, utf8 (header time), log, report.text⟩
  | deployed {log : List Log.Event} {base : Config} {s : Guest.Sandbox} {time : Timestamp}
      {a : Address} (hb : ¬ BreaksDown w o) (hp : Prepared compiler w o base s)
      (h : Timestamp.ofInstant (o.clock system).read.1 = .ok time)
      (hm : Attempt.Meets (effective o base).timeout pace.delay)
      (ha : Gives o base s time pace.steps a) :
      Way compiler w system o pace
        ⟨some 0, utf8 (header time) ++ utf8 (addressLine a), log, ""⟩

section Deploy
variable {d : ModuleDeployer} {timeout delay : Option Duration} {clock : Clock} {time : Timestamp}

theorem deploy_of_refused {e : ClockBeforeEpoch} (h : Timestamp.ofInstant clock.read.1 = .error e) :
    deploy d timeout clock delay = ⟨.failure (.ofTriggerError (.clock e)), [], []⟩ := by
  simp only [deploy, Trigger.run_of_refused h]
  rfl

theorem deploy_of_resolves (h : Timestamp.ofInstant clock.read.1 = .ok time) {a : Address}
    (hm : Attempt.Meets timeout delay)
    (ha : (d.sandbox.invoke d.entrypoint time).outcome.value = .ok a) :
    (deploy d timeout clock delay).ending = .success ∧
      (deploy d timeout clock delay).output = utf8 (header time) ++ utf8 (addressLine a) := by
  have hr : ((⟨d.toDeployer, timeout⟩ : Trigger _).run clock (.always delay) .unbounded).result =
      some (.ok a) :=
    Trigger.result_of_resolves Sink.unfailing_unbounded h (ModuleDeployer.resolves_iff.mpr ⟨ha, hm⟩)
  refine ⟨?_, Trigger.written_run_of_ok Sink.unfailing_unbounded h hr⟩
  simp only [deploy, hr]

theorem deploy_of_not_resolves (h : Timestamp.ofInstant clock.read.1 = .ok time)
    (hn : ∀ a, (d.sandbox.invoke d.entrypoint time).outcome.value ≠ .ok a) :
    ((deploy d timeout clock delay).ending = .unfinished ∨
        ∃ report, (deploy d timeout clock delay).ending = .failure report) ∧
      (deploy d timeout clock delay).output = utf8 (header time) := by
  have hr : ∀ a, ((⟨d.toDeployer, timeout⟩ : Trigger _).run clock (.always delay) .unbounded).result ≠
      some (.ok a) := fun a ha =>
    hn a (ModuleDeployer.resolves_iff.mp (Trigger.resolves_of_result h ha)).1
  refine ⟨?_, Trigger.written_run_of_not_ok Sink.unfailing_unbounded h hr⟩
  cases hresult : ((⟨d.toDeployer, timeout⟩ : Trigger _).run clock (.always delay) .unbounded).result with
  | none => exact .inl (by simp only [deploy, hresult])
  | some result =>
    cases result with
    | ok a => exact absurd hresult (hr a)
    | error e => exact .inr ⟨.ofTriggerError e, by simp only [deploy, hresult]⟩

theorem deploy_of_exceeds (h : Timestamp.ofInstant clock.read.1 = .ok time) {limit : Duration}
    (he : Attempt.Exceeds limit delay) :
    (deploy d (some limit) clock delay).ending =
        .failure (.ofTriggerError (.deploy (.timeout limit))) ∧
      (deploy d (some limit) clock delay).output = utf8 (header time) := by
  have hr : ((⟨d.toDeployer, some limit⟩ : Trigger _).run clock (.always delay) .unbounded).result =
      some (.error (.deploy (.timeout limit))) :=
    Trigger.result_of_fails Sink.unfailing_unbounded h (ModuleDeployer.fails_of_exceeds he)
  refine ⟨by simp only [deploy, hr], ?_⟩
  exact Trigger.written_run_of_not_ok Sink.unfailing_unbounded h fun a ha => by cases hr.symm.trans ha

end Deploy
section Session
variable {compiler : Guest.Compiler} {w : World} {system : Clock} {args : List Bytes} {o : Options}
  {pace : Pace}

/-- Behind the preparation the program goes the way of its trigger. -/
theorem way_deploy {base : Config} {s : Guest.Sandbox} (hb : ¬ BreaksDown w o)
    (hp : Prepared compiler w o base s) (log : List Log.Event) :
    let d : ModuleDeployer := ⟨s.within pace.steps, (effective o base).entrypoint⟩
    let r := deploy d (effective o base).timeout (o.clock system) pace.delay
    Way compiler w system o pace ⟨r.ending.code, r.output, log, r.ending.message⟩ := by
  intro d r
  cases h : Timestamp.ofInstant (o.clock system).read.1 with
  | error e =>
    have hr : r = ⟨.failure (.ofTriggerError (.clock e)), [], []⟩ := deploy_of_refused h
    rw [hr]
    exact .refused hb h
  | ok time =>
    obtain hm | ⟨limit, hl, he⟩ := Attempt.meets_or_exceeds (effective o base).timeout pace.delay
    · by_cases ha : ∃ a, Gives o base s time pace.steps a
      · obtain ⟨a, ha⟩ := ha
        obtain ⟨hending, houtput⟩ : r.ending = .success ∧
            r.output = utf8 (header time) ++ utf8 (addressLine a) := deploy_of_resolves h hm ha
        rw [hending, houtput]
        exact .deployed hb hp h hm ha
      · have hn : ∀ a, ¬ Gives o base s time pace.steps a := fun a h => ha ⟨a, h⟩
        obtain ⟨hending | ⟨report, hending⟩, houtput⟩ :
            (r.ending = .unfinished ∨ ∃ report, r.ending = .failure report) ∧
              r.output = utf8 (header time) := deploy_of_not_resolves h hn
        · rw [hending, houtput]
          exact .endless hb hp h hm hn
        · rw [hending, houtput]
          exact .undeployed hb hp h hm hn
    · have hr : r = deploy d (some limit) (o.clock system) pace.delay := by rw [← hl]
      obtain ⟨hending, houtput⟩ := deploy_of_exceeds (d := d) h he
      rw [hr, hending, houtput]
      exact .late hb hp h hl he

theorem way_session (h : Options.ofArguments args = .ok o) (hs : o.schemas = false)
    (compiler : Guest.Compiler) (w : World) (system : Clock) (pace : Pace) :
    Way compiler w system o pace (session compiler w system args pace) := by
  simp only [session, h]
  cases hf : filter? w o.verbosity with
  | none => exact .broken (.inl hf)
  | some filter =>
    have hprep := preparation compiler w o
    simp only [run, Outcome.seenThrough]
    generalize (prepare compiler w o).run.value = v at hprep ⊢
    cases hprep with
    | broken hb => exact .broken (.inr hb)
    | failed hb hnone => exact .unprepared (by simp [BreaksDown, hf, hb]) hnone
    | prepared hp =>
      simp only [hs]
      exact way_deploy (by simp [BreaksDown, hf, hp.not_breaks]) hp _

end Session

section View
variable {compiler : Guest.Compiler} {w : World} {system : Clock} {o : Options} {pace : Pace}
  {r : Session} {time : Timestamp}

theorem nil_ne_report {a : Address} : [] ≠ utf8 (header time) ++ utf8 (addressLine a) := by
  intro heq
  have hlines := Trigger.lines_header_addressLine time a
  rw [← heq] at hlines
  have hnil : Lines [] [] := ⟨rfl, nofun⟩
  exact absurd (congrArg List.length (hnil.unique hlines)) (by simp)

theorem header_ne_report {time' : Timestamp} {a : Address} :
    utf8 (header time') ≠ utf8 (header time) ++ utf8 (addressLine a) := by
  intro heq
  have hlines := Trigger.lines_header_addressLine time a
  rw [← heq] at hlines
  exact absurd (congrArg List.length ((Trigger.lines_header time').unique hlines)) (by simp)

theorem Way.breakdown_iff (h : Way compiler w system o pace r) :
    r.code = some 101 ↔ BreaksDown w o := by
  cases h with
  | broken h => exact iff_of_true rfl h
  | unprepared hb | refused hb | late hb | endless hb | undeployed hb | deployed hb =>
    exact iff_of_false (by simp) hb

theorem Way.output_of_breaksDown (h : Way compiler w system o pace r) (hb : BreaksDown w o) :
    r.output = [] := by
  cases h with
  | broken => rfl
  | unprepared hn | refused hn | late hn | endless hn | undeployed hn | deployed hn =>
    exact absurd hb hn

theorem Way.output_of_not_prepared (h : Way compiler w system o pace r)
    (hn : ∀ base s time, Prepared compiler w o base s →
      Timestamp.ofInstant (o.clock system).read.1 ≠ .ok time) : r.output = [] := by
  cases h with
  | broken | unprepared | refused => rfl
  | late _ hp ht | endless _ hp ht | undeployed _ hp ht | deployed _ hp ht =>
    exact absurd ht (hn _ _ _ hp)

theorem Way.success_iff (h : Way compiler w system o pace r) :
    r.code = some 0 ↔ ∃ time a, r.output = utf8 (header time) ++ utf8 (addressLine a) := by
  cases h with
  | deployed => exact iff_of_true rfl ⟨_, _, rfl⟩
  -- What the other ways print has fewer lines, so it is no report with an address.
  | broken | unprepared | refused =>
    exact iff_of_false (by simp) fun ⟨_, _, heq⟩ => nil_ne_report heq
  | late | endless | undeployed =>
    exact iff_of_false (by simp) fun ⟨_, _, heq⟩ => header_ne_report heq

theorem Way.failed (h : Way compiler w system o pace r) (hb : ¬ BreaksDown w o)
    (hzero : r.code ≠ some 0) (hends : r.code ≠ none) :
    r.code = some 1 ∧
    (r.output = [] ∨ ∃ time, Timestamp.ofInstant (o.clock system).read.1 = .ok time ∧
      r.output = utf8 (header time)) ∧
    ∃ rest, r.message = "Error: " ++ rest := by
  cases h with
  | broken h => exact absurd h hb
  | unprepared | refused => exact ⟨rfl, .inl rfl, _, String.append_assoc⟩
  | endless => exact absurd rfl hends
  | late _ _ ht | undeployed _ _ ht => exact ⟨rfl, .inr ⟨_, ht, rfl⟩, _, String.append_assoc⟩
  | deployed => exact absurd rfl hzero

/-- An address that is printed is the one that the entrypoint settles to, in time. -/
theorem Way.deployed_of_success (h : Way compiler w system o pace r) (hzero : r.code = some 0) :
    ∃ base s time a events, Prepared compiler w o base s ∧
      Timestamp.ofInstant (o.clock system).read.1 = .ok time ∧
      Attempt.Meets (effective o base).timeout pace.delay ∧
      Deploy.Settles (s.invoking (effective o base).entrypoint time) (.ok a) events ∧
      r.output = utf8 (header time) ++ utf8 (addressLine a) := by
  cases h with
  | @deployed log base s time a hb hp ht hm ha =>
    have hrun : (s.invoking (effective o base).entrypoint time pace.steps).outcome =
        ⟨.ok a, (s.invoking (effective o base).entrypoint time pace.steps).outcome.events⟩ := by
      rw [← ha]
    exact ⟨base, s, time, a, _, hp, ht, hm, (s.stable_invoking _ _).settles hrun, rfl⟩
  | _ => cases hzero

section Unique
variable {base base' : Config} {s s' : Guest.Sandbox}

theorem Prepared.gives_iff {steps : Nat} {a : Address} (h : Prepared compiler w o base s)
    (h' : Prepared compiler w o base' s') :
    Gives o base s time steps a ↔ Gives o base' s' time steps a := by
  obtain ⟨rfl, hwithin⟩ := h.unique h'
  simp only [Gives, Guest.Sandbox.invoking, hwithin]

theorem Prepared.meets_iff {delay : Option Duration} (h : Prepared compiler w o base s)
    (h' : Prepared compiler w o base' s') :
    Attempt.Meets (effective o base).timeout delay ↔
      Attempt.Meets (effective o base').timeout delay := by
  rw [(h.unique h').1]

end Unique

section Ready
variable {base : Config} {s : Guest.Sandbox} (hb : ¬ BreaksDown w o)
  (hp : Prepared compiler w o base s)
  (ht : Timestamp.ofInstant (o.clock system).read.1 = .ok time)
include hb hp ht

theorem Way.starts_with_header (h : Way compiler w system o pace r) :
    utf8 (header time) <+: r.output := by
  cases h with
  | broken h => exact absurd h hb
  | unprepared _ hnone => exact absurd hp (hnone _ _)
  | refused _ he =>
    rw [ht] at he
    cases he
  | late _ _ ht' | endless _ _ ht' | undeployed _ _ ht' =>
    obtain rfl := Except.ok.inj (ht.symm.trans ht')
    exact List.prefix_rfl
  | deployed _ _ ht' =>
    obtain rfl := Except.ok.inj (ht.symm.trans ht')
    exact List.prefix_append _ _

theorem Way.success_of_gives (h : Way compiler w system o pace r) {a : Address}
    (hm : Attempt.Meets (effective o base).timeout pace.delay)
    (ha : Gives o base s time pace.steps a) :
    r.code = some 0 ∧ r.output = utf8 (header time) ++ utf8 (addressLine a) := by
  cases h with
  | broken h => exact absurd h hb
  | unprepared _ hnone => exact absurd hp (hnone _ _)
  | refused _ he =>
    rw [ht] at he
    cases he
  | late _ hp' _ hl he => exact absurd he (((hp.meets_iff hp').mp hm).not_exceeds hl)
  | endless _ hp' ht' _ hn | undeployed _ hp' ht' _ hn =>
    obtain rfl := Except.ok.inj (ht.symm.trans ht')
    exact absurd ((hp.gives_iff hp').mp ha) (hn a)
  | deployed _ hp' ht' _ ha' =>
    obtain rfl := Except.ok.inj (ht.symm.trans ht')
    obtain rfl := Except.ok.inj (((hp.gives_iff hp').mp ha).symm.trans ha')
    exact ⟨rfl, rfl⟩

theorem Way.failure_of_late (h : Way compiler w system o pace r) {limit : Duration}
    (hl : (effective o base).timeout = some limit) (he : Attempt.Exceeds limit pace.delay) :
    r.code = some 1 ∧ r.output = utf8 (header time) ∧
      r.message = (Report.ofTriggerError (.deploy (.timeout limit))).text := by
  cases h with
  | broken h => exact absurd h hb
  | unprepared _ hnone => exact absurd hp (hnone _ _)
  | refused _ he =>
    rw [ht] at he
    cases he
  | late _ hp' ht' hl' =>
    obtain rfl := Except.ok.inj (ht.symm.trans ht')
    rw [(hp.unique hp').1] at hl
    obtain rfl := Option.some.inj (hl.symm.trans hl')
    exact ⟨rfl, rfl, rfl⟩
  | endless _ hp' _ hm | undeployed _ hp' _ hm | deployed _ hp' _ hm =>
    exact absurd he (((hp'.meets_iff hp).mp hm).not_exceeds hl)

end Ready
end View

/-- What is seen of a deployment, however the call of the module goes. -/
structure Refines (compiler : Guest.Compiler) (w : World) (system : Clock) (o : Options)
    (view : Pace → Session) : Prop where
  breakdown_iff (pace : Pace) : (view pace).code = some 101 ↔ BreaksDown w o
  broken (pace : Pace) (h : BreaksDown w o) : (view pace).output = []
  /-- Without settings, module or timestamp nothing is printed. -/
  silent (pace : Pace) (h : ∀ base s time, Prepared compiler w o base s →
    Timestamp.ofInstant (o.clock system).read.1 ≠ .ok time) : (view pace).output = []
  announced {base : Config} {s : Guest.Sandbox} {time : Timestamp} (pace : Pace)
    (hb : ¬ BreaksDown w o) (hp : Prepared compiler w o base s)
    (h : Timestamp.ofInstant (o.clock system).read.1 = .ok time) :
    utf8 (header time) <+: (view pace).output
  success_iff (pace : Pace) : (view pace).code = some 0 ↔
    ∃ time a, (view pace).output = utf8 (header time) ++ utf8 (addressLine a)
  /-- The address is that of the entrypoint, by the name and under the limits of the settings. -/
  deployed (pace : Pace) (h : (view pace).code = some 0) : ∃ base s time a events,
    Prepared compiler w o base s ∧ Timestamp.ofInstant (o.clock system).read.1 = .ok time ∧
    Attempt.Meets (effective o base).timeout pace.delay ∧
    Deploy.Settles (s.invoking (o.entrypoint.getD base.entrypoint) time) (.ok a) events ∧
    (view pace).output = utf8 (header time) ++ utf8 (addressLine a)
  /-- An address that the entrypoint gives is printed, if it is given the steps for it and does not
  take too long. -/
  completed {base : Config} {s : Guest.Sandbox} {time : Timestamp} {a : Address}
    {events : List Log.Event} (hb : ¬ BreaksDown w o) (hp : Prepared compiler w o base s)
    (h : Timestamp.ofInstant (o.clock system).read.1 = .ok time)
    (ha : Deploy.Settles (s.invoking (o.entrypoint.getD base.entrypoint) time) (.ok a) events) :
    ∃ n, ∀ pace : Pace, n ≤ pace.steps → Attempt.Meets (effective o base).timeout pace.delay →
      (view pace).code = some 0 ∧
      (view pace).output = utf8 (header time) ++ utf8 (addressLine a)
  /-- A call that takes too long fails, whatever it would give. -/
  late {base : Config} {s : Guest.Sandbox} {time : Timestamp} {limit : Duration} (pace : Pace)
    (hb : ¬ BreaksDown w o) (hp : Prepared compiler w o base s)
    (h : Timestamp.ofInstant (o.clock system).read.1 = .ok time)
    (hl : (effective o base).timeout = some limit) (he : Attempt.Exceeds limit pace.delay) :
    (view pace).code = some 1 ∧ (view pace).output = utf8 (header time) ∧
      (view pace).message = (Report.ofTriggerError (.deploy (.timeout limit))).text
  failed (pace : Pace) (hb : ¬ BreaksDown w o) (hzero : (view pace).code ≠ some 0)
    (hends : (view pace).code ≠ none) :
    (view pace).code = some 1 ∧
    ((view pace).output = [] ∨ ∃ time, Timestamp.ofInstant (o.clock system).read.1 = .ok time ∧
      (view pace).output = utf8 (header time)) ∧
    ∃ rest, (view pace).message = "Error: " ++ rest

/-- Unless it breaks down, the program does what its trigger does: it prints the report of the trigger
and ends well iff that report has an address, which is the one that the module gives. -/
theorem session_refines {args : List Bytes} {o : Options} (hargs : Options.ofArguments args = .ok o)
    (hs : o.schemas = false) (compiler : Guest.Compiler) (w : World) (system : Clock) :
    Refines compiler w system o fun pace => session compiler w system args pace where
  breakdown_iff pace := (way_session hargs hs compiler w system pace).breakdown_iff
  broken pace := (way_session hargs hs compiler w system pace).output_of_breaksDown
  silent pace := (way_session hargs hs compiler w system pace).output_of_not_prepared
  announced pace hb hp ht :=
    (way_session hargs hs compiler w system pace).starts_with_header hb hp ht
  success_iff pace := (way_session hargs hs compiler w system pace).success_iff
  deployed pace := (way_session hargs hs compiler w system pace).deployed_of_success
  completed hb hp ht ha := by
    obtain ⟨n, hn⟩ := ha
    refine ⟨n, fun pace hle hm => ?_⟩
    exact (way_session hargs hs compiler w system pace).success_of_gives hb hp ht hm
      (congrArg Log.Logged.value (hn pace.steps hle))
  late pace hb hp ht := (way_session hargs hs compiler w system pace).failure_of_late hb hp ht
  failed pace := (way_session hargs hs compiler w system pace).failed

/-- The options of a bare module path. -/
def plain (module : Bytes) : Options := ⟨module, none, none, none, none, false, 0⟩

section Answering

/-- A module file whose entrypoint gives the address `hi`. -/
def answeringFile : Bytes := utf8 (
  "(module (import \"env\" \"abort\" (func (param i64))) (memory (export \"memory\") 1) " ++
  "(data (i32.const 16) \"hi\") " ++
  "(func (export \"deploy\") (param i64) (result i64) (i64.const 68719476738)))")

/-- What a compiler makes of this file. -/
def answeringCompiler : Guest.Compiler := .knowing answeringFile Guest.Sandbox.answering.module

/-- The file at an absolute path, and the directives for the log, if any. -/
def answeringWorld (directives : Option String) : World where
  files := World.filesAt [(utf8 "/srv/m.wat", .ok answeringFile)]
  env := directives.toList.map fun d => (filterVariable, utf8 d)
  accountHome := none

variable {directives : Option String} {o : Options}

theorem prepared_answering (hmodule : o.module = utf8 "/srv/m.wat") (hconfig : o.config = none) :
    Prepared answeringCompiler (answeringWorld directives) o {} Guest.Sandbox.answering where
  settings := by
    rw [baseSettings, hconfig]
  module := by
    refine ⟨"/srv/m.wat", ?_, answeringFile, rfl, ?_⟩
    · rw [hmodule]
      exact expandPath_of_no_dollar (by simp) (by simp)
    · exact Guest.Compiler.module_knowing Guest.Sandbox.answering.valid
  limits := rfl

theorem not_breaksDown_answering (hmodule : o.module = utf8 "/srv/m.wat") (hconfig : o.config = none)
    (hfilter : filter? (answeringWorld directives) o.verbosity ≠ none) :
    ¬ BreaksDown (answeringWorld directives) o := by
  rintro (h | h)
  · exact hfilter h
  · exact (prepared_answering hmodule hconfig).not_breaks h

theorem ofInstant_epoch (h : o.instant = none) :
    Timestamp.ofInstant (o.clock (.fixed .epoch)).read.1 = .ok ⟨0⟩ := by
  have hclock : o.clock (.fixed .epoch) = .fixed .epoch := by
    rw [Options.clock, h]
    rfl
  rw [hclock]
  rfl

theorem value_answering :
    (Guest.Sandbox.answering.invoking "deploy" ⟨0⟩ 8).outcome.value = .ok ⟨[104, 105]⟩ := rfl

end Answering

/-- The module deploys in time, and not if its call takes two seconds. -/
theorem answering_deploys :
    let args := [utf8 "/srv/m.wat", utf8 "-e", utf8 "deploy", utf8 "-t", utf8 "1"]
    let view := fun pace => session answeringCompiler (answeringWorld none) (.fixed .epoch) args pace
    (∃ steps, (view ⟨steps, none⟩).code = some 0 ∧
      (view ⟨steps, none⟩).output = utf8 (header ⟨0⟩) ++ utf8 (addressLine ⟨[104, 105]⟩)) ∧
    ∀ steps, (view ⟨steps, some (.ofSeconds 2)⟩).code = some 1 ∧
      (view ⟨steps, some (.ofSeconds 2)⟩).output = utf8 (header ⟨0⟩) := by
  intro args view
  let o : Options := { plain (utf8 "/srv/m.wat") with entrypoint := some "deploy", timeout := some 1 }
  have hrefines : Refines answeringCompiler (answeringWorld none) (.fixed .epoch) o view :=
    session_refines rfl rfl answeringCompiler (answeringWorld none) (.fixed .epoch)
  have hp : Prepared answeringCompiler (answeringWorld none) o {} Guest.Sandbox.answering :=
    prepared_answering rfl rfl
  have hb : ¬ BreaksDown (answeringWorld none) o := not_breaksDown_answering rfl rfl (by decide)
  have htime : Timestamp.ofInstant (o.clock (.fixed .epoch)).read.1 = .ok ⟨0⟩ := ofInstant_epoch rfl
  constructor
  · have ha : Deploy.Settles (Guest.Sandbox.answering.invoking "deploy" ⟨0⟩) (.ok ⟨[104, 105]⟩) _ :=
      (Guest.Sandbox.answering.stable_invoking _ _).settles (n := 8) rfl
    obtain ⟨n, hn⟩ := hrefines.completed hb hp htime ha
    exact ⟨n, hn ⟨n, none⟩ (Nat.le_refl n) (Attempt.meets_none _)⟩
  · intro steps
    have he : Attempt.Exceeds (.ofSeconds 1) (some (.ofSeconds 2)) := ⟨_, rfl, by decide⟩
    obtain ⟨hcode, houtput, _⟩ := hrefines.late ⟨steps, some (.ofSeconds 2)⟩ hb hp htime rfl he
    exact ⟨hcode, houtput⟩

/-- Not every failure is reported: the program can break down on the name of a variable. -/
theorem not_only_reported_failures :
    ¬ ∀ (compiler : Guest.Compiler) (w : World) (system : Clock) (args : List Bytes) (o : Options)
      (pace : Pace), Options.ofArguments args = .ok o → o.schemas = false →
      (session compiler w system args pace).code ≠ none →
      (session compiler w system args pace).code = some 0 ∨
        (session compiler w system args pace).code = some 1 := by
  intro h
  have hargs : Options.ofArguments [utf8 "$é"] = .ok (plain (utf8 "$é")) := rfl
  have hpath : expandPath .bare (utf8 "$é") = .error .breakdown :=
    @expandPath_of_wide_name .bare [] [] 'é' List.not_mem_nil (by decide) (by decide)
  have hcode : (session answeringCompiler .bare (.fixed .epoch) [utf8 "$é"]).code = some 101 :=
    (way_session hargs rfl answeringCompiler .bare _ {}).breakdown_iff.mpr (.inr (.path rfl hpath))
  have hends := h answeringCompiler .bare (.fixed .epoch) _ _ {} hargs rfl (by simp [hcode])
  simp [hcode] at hends

end Program
end DeployTrigger
