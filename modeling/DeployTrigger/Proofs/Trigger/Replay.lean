import DeployTrigger.Proofs.CommandLine.Instant
import DeployTrigger.Proofs.Rfc3339
import DeployTrigger.Proofs.Trigger.ReportSafety

/-!
A run is reproduced from the instant that it logged. The printed instant of a timestamp is an
argument that the command line takes, and by the clock that comes of it every run is for that
timestamp.
-/
namespace DeployTrigger

namespace Timestamp
variable {time : Timestamp} {i : Instant}

theorem of_toInstant? (h : time.toInstant? = some i) :
    i.secs = time.millis.toNat / 1000 ∧ i.nanos = time.millis.toNat % 1000 * 1000000 := by
  rw [toInstant?, Instant.ofMillis?, Instant.ofSeconds?] at h
  split at h
  · obtain rfl := Option.some.inj h
    exact ⟨rfl, by dsimp only; omega⟩
  · cases h

theorem ofInstant_toInstant (h : time.toInstant? = some i) : ofInstant i = .ok time := by
  obtain ⟨hsecs, hnanos⟩ := of_toInstant? h
  have hmillis : i.millis = time.millis.toNat := by
    rw [Instant.millis, hsecs, hnanos]
    omega
  rw [ofInstant, hmillis, if_pos (by omega), Int.toNat_natCast, UInt64.ofNat_toNat]

/-- A timestamp is printed with a year that is not negative. -/
theorem head_print (h : time.toInstant? = some i) :
    (Rfc3339.print i).toList.head? ≠ some '-' := by
  have hsecs := (of_toInstant? h).1
  have hyear : 0 ≤ (Calendar.Date.ofDays (i.secs / 86400)).year :=
    Calendar.year_nonneg (by omega)
  rw [Rfc3339.toList_print]
  exact Rfc3339.Fields.head_text hyear

end Timestamp

namespace Trigger
variable {σ : Type} {t : Trigger σ} {clock other : Clock} {state : σ} {sink : Sink} {time : Timestamp}

theorem deploy_withClock (t : Trigger σ) (time : Timestamp) (clock other : Clock) (state : σ)
    (sink : Sink) :
    t.deploy time clock state sink = { t.deploy time other state sink with clock := clock } := by
  simp only [deploy]
  split
  · rfl
  · rfl
  · split <;> rfl

theorem run_withClock (h : Timestamp.ofInstant clock.read.1 = .ok time)
    (ho : Timestamp.ofInstant other.read.1 = .ok time) :
    t.run clock state sink = { t.run other state sink with clock := clock.read.2 } := by
  cases hr : (sink.report (headerPieces time)).1 with
  | error e => rw [run_of_unreported h hr, run_of_unreported ho hr]
  | ok u =>
    rw [run_of_reported h hr, run_of_reported ho hr]
    exact deploy_withClock t time clock.read.2 other.read.2 state _

theorem head_events_deploy (t : Trigger σ) (time : Timestamp) (clock : Clock) (state : σ)
    (sink : Sink) : (t.deploy time clock state sink).events.head? = some (startEvent time) := by
  simp only [deploy]
  split
  · rfl
  · rfl
  · split <;> rfl

/-- By this clock, every run is for the timestamp. -/
structure Replays (clock : Clock) (time : Timestamp) : Prop where
  reading : Timestamp.ofInstant clock.read.1 = .ok time
  /-- The deployer is asked for the timestamp as soon as the header is out, and for nothing else. -/
  calls {σ : Type} (t : Trigger σ) (state : σ) (sink : Sink) :
    t.calls clock state sink = if HeaderOut sink time then [time] else []
  /-- The stream starts with as much of the header as it takes. -/
  written {σ : Type} (t : Trigger σ) (state : σ) (sink : Sink) :
    sink.written ++ sink.accepted (utf8 (header time)) <+: (t.run clock state sink).sink.written
  /-- The log starts with the timestamp and its instant again. -/
  events {σ : Type} (t : Trigger σ) (state : σ) (sink : Sink) (h : HeaderOut sink time) :
    (t.run clock state sink).events.head? = some (startEvent time)
  /-- The run is the one by any other clock that reads the timestamp, the clock apart. -/
  again {σ : Type} (t : Trigger σ) (state : σ) (sink : Sink) {other : Clock}
    (h : Timestamp.ofInstant other.read.1 = .ok time) :
    t.run clock state sink = { t.run other state sink with clock := clock.read.2 }

theorem replays_of_reading (h : Timestamp.ofInstant clock.read.1 = .ok time) :
    Replays clock time where
  reading := h
  calls t state sink := by
    split
    · rename_i ho
      exact calls_of_headerOut h ho
    · rename_i ho
      exact calls_of_not_headerOut h ho
  written t state sink := by
    by_cases hr : HeaderOut sink time ∧ ∃ a, t.Resolves time state a
    · obtain ⟨ho, a, ha⟩ := hr
      rw [written_run_of_resolves h ho ha, Sink.accepted_of_takes ho.1, Sink.accepted_append ho.1,
        ← List.append_assoc]
      exact List.prefix_append _ _
    · have hwritten := written_run_of_no_address h fun ho a ha => hr ⟨ho, a, ha⟩
      simp only [hwritten, List.prefix_rfl]
  events t state sink ho := by
    rw [run_of_reported h (report_header_ok_iff.mpr ho)]
    exact head_events_deploy t time _ state _
  again t state sink _ ho := run_withClock h ho

open CommandLine in
/-- Given as the instant to deploy at, the printed instant of a timestamp is taken wherever a switch
may stand among arguments without one, and it brings the timestamp back. -/
theorem replays_printed {i : Instant} (h : time.toInstant? = some i) :
    time.labelled = "Timestamp(" ++ time.shown ++ ", " ++ Rfc3339.print i ++ ")" ∧
    ∀ {before after given : List Bytes} {o : Options}, SetsInstant (Rfc3339.print i) given →
      TakesSwitch before → Options.ofArguments (before ++ after) = .ok o → o.instant = none →
      Options.ofArguments (before ++ given ++ after) = .ok { o with instant := some i } ∧
      ∀ system, Replays ({ o with instant := some i }.clock system) time := by
  refine ⟨?_, ?_⟩
  · rw [Timestamp.labelled, h]
  · intro before after given o hgiven hbefore ho hnone
    have hplain := Scan.ofBytes_of_head (Timestamp.head_print h)
    refine ⟨Options.ofArguments_instant hgiven hplain (Rfc3339.read_print i) hbefore ho hnone, ?_⟩
    exact fun system => replays_of_reading (Timestamp.ofInstant_toInstant h)

open CommandLine in
theorem replays_november : ∃ o, Options.ofArguments
      [utf8 "app.wasm", utf8 "--at", utf8 "2023-11-14T22:13:20.123+00:00"] = .ok o ∧
    (⟨1700000000123⟩ : Timestamp).labelled =
      "Timestamp(1700000000123, 2023-11-14T22:13:20.123+00:00)" ∧
    Replays (o.clock (Clock.fixed .epoch)) ⟨1700000000123⟩ := by
  have hinstant : (⟨1700000000123⟩ : Timestamp).toInstant? =
      some ⟨1700000000, 123000000, by decide, by decide, by decide⟩ := rfl
  have hprint : Rfc3339.print ⟨1700000000, 123000000, by decide, by decide, by decide⟩ =
      "2023-11-14T22:13:20.123+00:00" := by decide +kernel
  have hwithout : Options.ofArguments ([utf8 "app.wasm"] ++ []) =
      .ok ⟨utf8 "app.wasm", none, none, none, none, false, 0⟩ := rfl
  have hbefore : TakesSwitch [utf8 "app.wasm"] :=
    ⟨{ module := some (utf8 "app.wasm") }, rfl, rfl, fun ⟨_, hj⟩ => nomatch hj⟩
  obtain ⟨hlabelled, hreplays⟩ := replays_printed hinstant
  obtain ⟨hargs, hclock⟩ := hreplays (.inl rfl) hbefore hwithout rfl
  rw [hprint] at hlabelled hargs
  exact ⟨_, hargs, hlabelled, hclock _⟩

end Trigger
end DeployTrigger
