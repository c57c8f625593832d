import DeployTrigger.Proofs.CommandLine.Selection
import DeployTrigger.Proofs.Log.Directive
import DeployTrigger.Proofs.Program.Refinement

/-!
The settings of the log. Whatever they are, the program does the same work and only a part of its
events is shown; unless the text of the filter breaks the program down (`session_seen`).
-/
namespace DeployTrigger

/-- The worlds are the same, apart from one variable of the environment. -/
structure World.SameBut (name : String) (w w' : World) : Prop where
  files : w'.files = w.files
  accountHome : w'.accountHome = w.accountHome
  env {other : String} (h : other ≠ name) : w'.env? other = w.env? other

namespace World
variable {w w' : World}

theorem read_congr (h : w'.files = w.files) (path : Bytes) : w'.read path = w.read path := by
  rw [read, read, h]

theorem readText_congr (h : w'.files = w.files) (path : Bytes) :
    w'.readText path = w.readText path := by
  rw [readText, readText, read_congr h]

end World

/-- The sign in front of the name of a variable. -/
def dollar : UInt8 := 0x24

theorem not_mem_of_dollar {s : String} (h : dollar ∉ utf8 s) : '$' ∉ s.toList := by
  intro hmem
  obtain ⟨before, after, heq⟩ := List.append_of_mem hmem
  have hs : s = String.ofList before ++ ("$" ++ String.ofList after) := by
    apply String.toList_injective
    simp only [heq, String.toList_append, String.toList_ofList]
    rfl
  refine h ?_
  rw [hs, utf8_append, utf8_append]
  exact List.mem_append_right _ (List.mem_append_left _ List.mem_cons_self)

/-- A path without dollars goes by the home directory only. -/
theorem expandPath_congr {w w' : World} {path : Bytes} (hhome : w'.env? "HOME" = w.env? "HOME")
    (haccount : w'.accountHome = w.accountHome) (h : dollar ∉ path) :
    expandPath w' path = expandPath w path := by
  cases hdecode : Utf8.decode? path with
  | none => rw [expandPath, expandPath, hdecode]
  | some s =>
    obtain rfl := Utf8.decode?_eq_some_iff.mp hdecode
    have hs : '$' ∉ s.toList := not_mem_of_dollar h
    have htilde : PathExpansion.expandTilde w' s.toList = PathExpansion.expandTilde w s.toList := by
      simp only [PathExpansion.expandTilde, PathExpansion.home?, hhome, haccount]
    rw [expandPath_eq_expandTilde hs, expandPath_eq_expandTilde hs, htilde]

theorem ModuleDeployer.load_congr {w w' : World} (h : w'.files = w.files)
    (compiler : Guest.Compiler) (path : Bytes) (limits : Limits) :
    load compiler w' path limits = load compiler w path limits := by
  rw [load, load, World.read_congr h]

namespace Program
open CommandLine (Options)

/-- No variable of the environment is referred to in a path. -/
structure Literal (o : Options) : Prop where
  module : dollar ∉ o.module
  config {file : Bytes} (h : o.config = some file) : dollar ∉ file

variable {w w' : World} {o o' : Options}

theorem settings_congr (hw : w.SameBut filterVariable w') (ho : o.SameBut [.verbose] o')
    (hl : Literal o) : o'.settings w' = o.settings w := by
  have hhome : w'.env? "HOME" = w.env? "HOME" := hw.env (by decide)
  have hbase : baseSettings w' o' = baseSettings w o := by
    rw [baseSettings, baseSettings, ho.config (by decide)]
    cases hconfig : o.config with
    | none => rfl
    | some file =>
      dsimp only
      rw [Config.ofFile, Config.ofFile, expandPath_congr hhome hw.accountHome (hl.config hconfig)]
      simp only [World.readText_congr hw.files]
  have heffective : effective o' = effective o := by
    funext base
    rw [effective, effective, ho.entrypoint (by decide), ho.timeout (by decide)]
  rw [settings_eq, settings_eq, hbase, heffective]

theorem modulePath_congr (hw : w.SameBut filterVariable w') (ho : o.SameBut [.verbose] o')
    (hl : Literal o) : o'.modulePath w' = o.modulePath w := by
  rw [Options.modulePath, Options.modulePath, ho.module]
  exact expandPath_congr (hw.env (by decide)) hw.accountHome hl.module

/-- The work does not depend on what is shown of it. -/
theorem run_congr (hw : w.SameBut filterVariable w') (ho : o.SameBut [.verbose] o')
    (hl : Literal o) (compiler : Guest.Compiler) (system : Clock) (pace : Pace) :
    run compiler w' system o' pace = run compiler w system o pace := by
  have hprepare : prepare compiler w' o' = prepare compiler w o := by
    simp only [prepare, settings_congr hw ho hl, modulePath_congr hw ho hl,
      ModuleDeployer.load_congr hw.files]
  have hclock : o'.clock system = o.clock system := by
    rw [Options.clock, Options.clock, ho.instant (by decide)]
  simp only [run, hprepare, hclock, ho.schemas (by decide)]

/-- The text of the filter has a directive that can break the program down. -/
def Misled (w : World) : Prop := ∃ b text, w.env? filterVariable = some b ∧
  Utf8.decode? b = some text ∧ ∃ piece ∈ text.toList.splitOn ',', Log.Directive.Misread piece

theorem misled_of_filter {verbosity : Nat} (h : filter? w verbosity = none) : Misled w := by
  rw [filter?] at h
  cases hb : w.env? filterVariable with
  | none =>
    rw [hb] at h
    cases h
  | some b =>
    cases htext : Utf8.decode? b with
    | none =>
      rw [hb, Option.bind_some, htext] at h
      cases h
    | some text =>
      rw [hb, Option.bind_some, htext, Option.map_some] at h
      cases hread : Log.Filter.read text with
      | ok filter =>
        rw [hread] at h
        cases h
      | error fault =>
        rw [hread] at h
        cases fault with
        | error u => cases h
        | breakdown => exact ⟨b, text, hb, htext, Log.Filter.misread_of_breakdown hread⟩

/-- What is seen of some work: everything but the log, and a part of the log in its order. -/
inductive Seen (work : Outcome) (w : World) (verbosity : Nat) : Session → Prop where
  | part {filter : Log.Filter} {log : List Log.Event} (hf : filter? w verbosity = some filter)
      (hlog : log = filter.select work.events) (h : log.Sublist work.events) :
      Seen work w verbosity ⟨work.ending.code, work.output, log, work.ending.message⟩
  | broken (hf : filter? w verbosity = none) (h : Misled w) :
      Seen work w verbosity ⟨some 101, [], [], Ending.breakdown.message⟩

/-- The settings of the log never change the outcome, unless they break the program down: runs that
differ in these only are seen of the same work. -/
theorem session_seen {args : List Bytes} {o : Options} (hargs : Options.ofArguments args = .ok o)
    (hl : Literal o) (compiler : Guest.Compiler) (w : World) (system : Clock) (pace : Pace) :
    ∃ work : Outcome, ∀ (w' : World) (args' : List Bytes) (o' : Options),
      w.SameBut filterVariable w' → CommandLine.SameBut [.verbose] args args' →
      Options.ofArguments args' = .ok o' →
      Seen work w' o'.verbosity (session compiler w' system args' pace) := by
  refine ⟨run compiler w system o pace, fun w' args' o' hw hsame hargs' => ?_⟩
  have ho := Options.sameBut_of_accepted hsame hargs hargs'
  -- The verbosity and the variable of the filter are all that `run` does not read.
  simp only [session, hargs', run_congr hw ho hl]
  cases hf : filter? w' o'.verbosity with
  | none => exact .broken hf (misled_of_filter hf)
  | some filter => exact .part hf rfl (filter.select_sublist _)

section Seen
variable {work : Outcome} {verbosity : Nat} {r : Session}

theorem Seen.outcome (h : Seen work w verbosity r) (hf : filter? w verbosity ≠ none) :
    r.code = work.ending.code ∧ r.output = work.output ∧ r.message = work.ending.message := by
  cases h with
  | part => exact ⟨rfl, rfl, rfl⟩
  | broken hnone => exact absurd hnone hf

end Seen

theorem answeringWorld_sameBut (directives directives' : Option String) :
    (answeringWorld directives).SameBut filterVariable (answeringWorld directives') where
  files := rfl
  accountHome := rfl
  env {other} h := by
    have hunset : ∀ directives, (answeringWorld directives).env? other = none := by
      intro directives
      have hne : ¬ (other == filterVariable) = true := by simpa using h
      cases directives with
      | none => rfl
      | some d => simp [World.env?, answeringWorld, List.lookup_cons, hne]
    rw [hunset, hunset]

/-- The arguments of a deployment. -/
def answeringArguments : List Bytes := [utf8 "/srv/m.wat", utf8 "-e", utf8 "deploy"]

def answeringOptions : Options := { plain (utf8 "/srv/m.wat") with entrypoint := some "deploy" }

/-- It prints its report, whatever is shown of the log. -/
theorem reported_answering {directives : Option String}
    (hf : filter? (answeringWorld directives) answeringOptions.verbosity ≠ none) :
    let r := session answeringCompiler (answeringWorld directives) (.fixed .epoch) answeringArguments
      ⟨8, none⟩
    r.code = some 0 ∧
      r.output = utf8 (Trigger.header ⟨0⟩) ++ utf8 (Trigger.addressLine ⟨[104, 105]⟩) := by
  intro r
  have hway : Way answeringCompiler (answeringWorld directives) (.fixed .epoch) answeringOptions
      ⟨8, none⟩ r := way_session rfl rfl _ _ _ _
  exact hway.success_of_gives (not_breaksDown_answering rfl rfl hf) (prepared_answering rfl rfl)
    (ofInstant_epoch rfl) (Attempt.meets_none _) value_answering

theorem quiet_and_loud_agree :
    let view := fun directives args =>
      session answeringCompiler (answeringWorld (some directives)) (.fixed .epoch) args ⟨8, none⟩
    let quiet := view "off" answeringArguments
    let loud := view "trace" (answeringArguments ++ [utf8 "-vv"])
    (loud.code = quiet.code ∧ loud.output = quiet.output ∧ loud.message = quiet.message) ∧
      quiet.code = some 0 ∧
      quiet.output = utf8 (Trigger.header ⟨0⟩) ++ utf8 (Trigger.addressLine ⟨[104, 105]⟩) := by
  intro view quiet loud
  have hargs : Options.ofArguments answeringArguments = .ok answeringOptions := rfl
  obtain ⟨work, h⟩ := session_seen hargs ⟨by decide, nofun⟩ answeringCompiler
    (answeringWorld (some "off")) (.fixed .epoch) ⟨8, none⟩
  have hquiet := h (answeringWorld (some "off")) answeringArguments answeringOptions
    (answeringWorld_sameBut _ _) ⟨_, _, rfl, rfl, rfl, rfl⟩ rfl
  have hloud := h (answeringWorld (some "trace")) (answeringArguments ++ [utf8 "-vv"])
    { answeringOptions with verbosity := 2 } (answeringWorld_sameBut _ _) ⟨_, _, rfl, rfl, rfl, rfl⟩ rfl
  obtain ⟨hcode, houtput, hmessage⟩ := hquiet.outcome (by decide)
  obtain ⟨hcode', houtput', hmessage'⟩ := hloud.outcome (by decide)
  exact ⟨⟨hcode'.trans hcode.symm, houtput'.trans houtput.symm, hmessage'.trans hmessage.symm⟩,
    reported_answering (by decide)⟩

/-- Settings of the log can change the outcome: they can break the program down. -/
theorem log_settings_matter :
    ¬ ∀ (compiler : Guest.Compiler) (w w' : World) (system : Clock) (args : List Bytes) (o : Options)
      (pace : Pace), Options.ofArguments args = .ok o → Literal o → w.SameBut filterVariable w' →
      (session compiler w' system args pace).code = (session compiler w system args pace).code := by
  intro h
  have hargs : Options.ofArguments answeringArguments = .ok answeringOptions := rfl
  have hcode := h answeringCompiler (answeringWorld none) (answeringWorld (some " é=info,info"))
    (.fixed .epoch) _ _ {} hargs ⟨by decide, nofun⟩ (answeringWorld_sameBut _ _)
  have hbroken : BreaksDown (answeringWorld (some " é=info,info")) answeringOptions :=
    .inl (by decide)
  have hsound : ¬ BreaksDown (answeringWorld none) answeringOptions :=
    not_breaksDown_answering rfl rfl (by decide)
  rw [(way_session hargs rfl _ _ _ {}).breakdown_iff.mpr hbroken] at hcode
  exact hsound ((way_session hargs rfl _ _ _ {}).breakdown_iff.mp hcode.symm)

end Program
end DeployTrigger
