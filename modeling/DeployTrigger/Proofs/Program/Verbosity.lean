import DeployTrigger.Proofs.Program.Diagnostics
import Mathlib.Data.List.Basic

/-!
How often more of the log is asked for. Without directives in the environment the number decides
what is shown: once and twice show more and more, twice everything, but three times and more often
show as little as not at all (`session_louder`).
-/
namespace DeployTrigger

namespace Log

theorem Level.rank_le_trace (l : Level) : l.rank ≤ Level.trace.rank := by
  cases l <;> decide

namespace Filter
variable {l l' : Level}

theorem select_upTo_sublist (h : l.rank ≤ l'.rank) (events : List Event) :
    ((upTo l).select events).Sublist ((upTo l').select events) := by
  refine List.monotone_filter_right events fun e he => ?_
  rw [allows_upTo, decide_eq_true_eq] at he ⊢
  exact Nat.le_trans he h

theorem select_upTo_trace (events : List Event) : (upTo .trace).select events = events := by
  rw [select, List.filter_eq_self]
  intro e _
  rw [allows_upTo, decide_eq_true_eq]
  exact e.level.rank_le_trace

end Filter
end Log

namespace CommandLine

/-- The arguments ask `n` times for more of the log, and are the given ones otherwise. -/
structure Asks (args : List Bytes) (n : Nat) (args' : List Bytes) : Prop where
  same : SameBut [.verbose] args args'
  count : ∃ s, Scan.ofArguments args' = .ok s ∧ s.count .verbose = n

namespace Options
variable {s s' : Scan} {o : Options} {args args' : List Bytes} {n : Nat}

theorem checkSwitch_verbose (s : Scan) : checkSwitch s .verbose = .ok () :=
  checkSwitch_eq_ok_iff.mpr ⟨Bool.false_ne_true, fun _ _ => rfl, Bool.false_ne_true⟩

/-- Asking for more of the log is never wrong, so it makes no other difference to the options. -/
theorem ofScan_sameBut (h : s.SameBut [.verbose] s') (ho : ofScan s = .ok o) :
    ofScan s' = .ok { o with verbosity := s'.count .verbose } := by
  obtain ⟨path, hmodule, hchecks, rfl⟩ := ofScan_eq_ok_iff.mp ho
  refine ofScan_eq_ok_iff.mpr ⟨path, h.module.trans hmodule, fun k hk => ?_, ?_⟩
  · by_cases hverbose : k = .verbose
    · subst hverbose
      exact checkSwitch_verbose s'
    · -- Any other switch of the new arguments is one of the given arguments, and passed there.
      have hother : k ∉ [Switch.verbose] := by simpa using hverbose
      rw [checkSwitch_congr (h.values hother) (h.count hother)]
      obtain ⟨f, hf, rfl⟩ := List.mem_map.mp hk
      have hkept : f ∈ s'.found.filter (·.1 ∉ [Switch.verbose]) :=
        List.mem_filter.mpr ⟨hf, decide_eq_true hother⟩
      rw [h.found] at hkept
      exact hchecks f.1 (List.mem_map.mpr ⟨f, (List.mem_filter.mp hkept).1, rfl⟩)
  · have hconfig := h.values (k := .config) (by decide)
    have hentrypoint := h.values (k := .entrypoint) (by decide)
    have htimeout := h.values (k := .timeout) (by decide)
    have hinstant := h.values (k := .instant) (by decide)
    have hschemas := h.count (k := .schemas) (by decide)
    simp only [gathered, hconfig, hentrypoint, htimeout, hinstant, hschemas]

theorem ofArguments_of_asks (h : Asks args n args') (ho : ofArguments args = .ok o) :
    ofArguments args' = .ok { o with verbosity := n } := by
  obtain ⟨⟨s, s', hs, hs', hsame⟩, t, ht, rfl⟩ := h
  obtain rfl := Except.ok.inj (hs'.symm.trans ht)
  obtain ⟨u, hu, hscan⟩ := bind_eq_ok_iff.mp ho
  obtain rfl := Except.ok.inj (hs.symm.trans hu)
  exact bind_eq_ok_iff.mpr ⟨s', hs', ofScan_sameBut hsame hscan⟩

end Options
end CommandLine

namespace Program
open CommandLine (Options Asks)
variable {w : World} {args args' : List Bytes} {o : Options} {n m : Nat}

theorem logLevel_of_two_lt (h : 2 < n) : logLevel n = .info := by
  match n, h with
  | n + 3, _ => rfl

/-- Counts up to two go upwards, and so do counts that all mean the same. -/
theorem rank_logLevel_le (hle : n ≤ m) (h : n = 0 ∨ m ≤ 2 ∨ 2 < n) :
    (logLevel n).rank ≤ (logLevel m).rank := by
  by_cases hm : 2 < m
  · rw [logLevel_of_two_lt hm]
    obtain rfl | hm' | hn := h
    · exact Nat.le_refl _
    · omega
    · exact Nat.le_of_eq (congrArg Log.Level.rank (logLevel_of_two_lt hn))
  · have hall : ∀ m < 3, ∀ n ≤ m, (logLevel n).rank ≤ (logLevel m).rank := by decide
    exact hall m (by omega) n hle

theorem log_session (hunset : w.env? filterVariable = none)
    (hargs : Options.ofArguments args = .ok o) (compiler : Guest.Compiler) (system : Clock)
    (pace : Pace) :
    (session compiler w system args pace).log =
      (Log.Filter.upTo (logLevel o.verbosity)).select (run compiler w system o pace).events := by
  have hfilter : filter? w o.verbosity = some (.upTo (logLevel o.verbosity)) := by
    rw [filter?, hunset]
    rfl
  simp only [session, hargs, hfilter, Outcome.seenThrough]

theorem log_session_of_asks (hunset : w.env? filterVariable = none)
    (hargs : Options.ofArguments args = .ok o) (h : Asks args n args') (compiler : Guest.Compiler)
    (system : Clock) (pace : Pace) :
    (session compiler w system args' pace).log =
      (Log.Filter.upTo (logLevel n)).select (run compiler w system o pace).events :=
  log_session hunset (Options.ofArguments_of_asks h hargs) compiler system pace

def settingsEvent (c : Config) : Log.Event := ⟨.debug, .program, "Config: " ++ c.described⟩

theorem settingsEvent_mem_prepare {c : Config} (h : o.settings w = .ok c)
    (compiler : Guest.Compiler) : settingsEvent c ∈ (prepare compiler w o).run.events := by
  have hevents : ∃ e e' rest,
      (prepare compiler w o).run.events = e :: e' :: settingsEvent c :: rest := by
    simp only [prepare, h]
    exact ⟨_, _, _, rfl⟩
  obtain ⟨e, e', rest, heq⟩ := hevents
  rw [heq]
  exact .tail _ (.tail _ List.mem_cons_self)

theorem settingsEvent_mem_run {c : Config} (h : o.settings w = .ok c) (compiler : Guest.Compiler)
    (system : Clock) (pace : Pace) :
    settingsEvent c ∈ (run compiler w system o pace).events := by
  have hmem := settingsEvent_mem_prepare h compiler
  simp only [run]
  split
  · exact hmem
  · exact List.mem_append_left _ hmem

/-- What is shown of the log, by how often more of it is asked for. -/
structure VerbosityLaw (compiler : Guest.Compiler) (w : World) (system : Clock) (pace : Pace)
    (args : List Bytes) (o : Options) : Prop where
  accepted {n : Nat} {args' : List Bytes} (h : Asks args n args') :
    Options.ofArguments args' = .ok { o with verbosity := n }
  /-- What was shown is shown again. -/
  louder {n m : Nat} {quiet loud : List Bytes} (hn : Asks args n quiet) (hm : Asks args m loud)
    (hle : n ≤ m) (h : n = 0 ∨ m ≤ 2 ∨ 2 < n) :
    (session compiler w system quiet pace).log.Sublist (session compiler w system loud pace).log
  /-- Twice shows everything that is logged. -/
  complete {args' : List Bytes} (h : Asks args 2 args') :
    (session compiler w system args' pace).log = (run compiler w system o pace).events
  /-- More often than twice shows no more than not at all. -/
  muted {n : Nat} {quiet loud : List Bytes} (h : 2 < n) (hzero : Asks args 0 quiet)
    (hn : Asks args n loud) :
    (session compiler w system loud pace).log = (session compiler w system quiet pace).log

/-- Asking for more of the log never shows less, up to asking twice; and from three times on it makes
no difference how often. -/
theorem session_louder (hargs : Options.ofArguments args = .ok o)
    (hunset : w.env? filterVariable = none) (compiler : Guest.Compiler) (system : Clock)
    (pace : Pace) : VerbosityLaw compiler w system pace args o where
  accepted h := Options.ofArguments_of_asks h hargs
  louder hn hm hle h := by
    rw [log_session_of_asks hunset hargs hn, log_session_of_asks hunset hargs hm]
    exact Log.Filter.select_upTo_sublist (rank_logLevel_le hle h) _
  complete h := by
    rw [log_session_of_asks hunset hargs h]
    exact Log.Filter.select_upTo_trace _
  muted h hzero hn := by
    rw [log_session_of_asks hunset hargs hzero, log_session_of_asks hunset hargs hn,
      logLevel_of_two_lt h]
    rfl

theorem asks_answering :
    Asks answeringArguments 0 answeringArguments ∧
      Asks answeringArguments 1 (answeringArguments ++ [utf8 "-v"]) ∧
      Asks answeringArguments 2 (answeringArguments ++ [utf8 "-vv"]) ∧
      Asks answeringArguments 3 (answeringArguments ++ [utf8 "-vvv"]) :=
  ⟨⟨⟨_, _, rfl, rfl, rfl, rfl⟩, _, rfl, rfl⟩, ⟨⟨_, _, rfl, rfl, rfl, rfl⟩, _, rfl, rfl⟩,
    ⟨⟨_, _, rfl, rfl, rfl, rfl⟩, _, rfl, rfl⟩, ⟨⟨_, _, rfl, rfl, rfl, rfl⟩, _, rfl, rfl⟩⟩

/-- A deployment shows its settings if more of the log is asked for once. -/
theorem asked_once_shows_more :
    let view := fun args =>
      session answeringCompiler (answeringWorld none) (.fixed .epoch) args ⟨8, none⟩
    let quiet := view answeringArguments
    let loud := view (answeringArguments ++ [utf8 "-v"])
    quiet.log.Sublist loud.log ∧
      settingsEvent { entrypoint := "deploy" } ∈ loud.log ∧
      settingsEvent { entrypoint := "deploy" } ∉ quiet.log ∧
      quiet.code = some 0 ∧
      quiet.output = utf8 (Trigger.header ⟨0⟩) ++ utf8 (Trigger.addressLine ⟨[104, 105]⟩) := by
  intro view quiet loud
  have hargs : Options.ofArguments answeringArguments = .ok answeringOptions := rfl
  have hsettings : answeringOptions.settings (answeringWorld none) = .ok { entrypoint := "deploy" } :=
    rfl
  have law := session_louder (w := answeringWorld none) hargs rfl answeringCompiler (.fixed .epoch)
    ⟨8, none⟩
  obtain ⟨hzero, hone, -⟩ := asks_answering
  refine ⟨law.louder hzero hone (by decide) (.inl rfl), ?_, ?_, reported_answering (by decide)⟩
  · have hlog := log_session_of_asks (w := answeringWorld none) rfl hargs hone answeringCompiler
      (.fixed .epoch) ⟨8, none⟩
    rw [hlog]
    exact List.mem_filter.mpr ⟨settingsEvent_mem_run hsettings _ _ _, Log.Filter.allows_upTo⟩
  · have hlog := log_session_of_asks (w := answeringWorld none) rfl hargs hzero answeringCompiler
      (.fixed .epoch) ⟨8, none⟩
    rw [hlog]
    exact fun hmem => absurd (List.mem_filter.mp hmem).2 (by rw [Log.Filter.allows_upTo]; decide)

/-- Asking three times can show less than asking twice: the settings are not shown any more. -/
theorem asked_thrice_shows_less :
    ¬ ∀ (compiler : Guest.Compiler) (w : World) (system : Clock) (pace : Pace) (n m : Nat)
      (args quiet loud : List Bytes) (o : Options), Options.ofArguments args = .ok o →
      w.env? filterVariable = none → n ≤ m → Asks args n quiet → Asks args m loud →
      (session compiler w system quiet pace).log.Sublist
        (session compiler w system loud pace).log := by
  intro h
  have hargs : Options.ofArguments answeringArguments = .ok answeringOptions := rfl
  have hsettings : answeringOptions.settings (answeringWorld none) = .ok { entrypoint := "deploy" } :=
    rfl
  have hunset : (answeringWorld none).env? filterVariable = none := rfl
  obtain ⟨-, -, htwo, hthree⟩ := asks_answering
  have hsub := h answeringCompiler (answeringWorld none) (.fixed .epoch) {} 2 3 _ _ _ _ hargs hunset
    (by decide) htwo hthree
  rw [log_session_of_asks hunset hargs htwo, log_session_of_asks hunset hargs hthree] at hsub
  have hshown : settingsEvent { entrypoint := "deploy" } ∈ (Log.Filter.upTo (logLevel 2)).select
      (run answeringCompiler (answeringWorld none) (.fixed .epoch) answeringOptions {}).events :=
    List.mem_filter.mpr ⟨settingsEvent_mem_run hsettings _ _ _, Log.Filter.allows_upTo⟩
  have hkept := (List.mem_filter.mp (hsub.subset hshown)).2
  rw [Log.Filter.allows_upTo] at hkept
  exact absurd hkept (by decide)

end Program
end DeployTrigger
