import DeployTrigger.Proofs.Attempt
import DeployTrigger.Proofs.Sink
import DeployTrigger.Proofs.Trigger.Calls

/-!
Every way a run can go, with the result it ends with. A run goes one of these ways (`course_run`), and
what goes one of them is the run (`Course.run_eq`), so each kind of result stands for one or two of
them (`run_classified`): the first stage that fails decides, and its own error is the result.
-/
namespace DeployTrigger

theorem Timestamp.ofInstant_eq_error_iff {t : Instant} {e : ClockBeforeEpoch} :
    Timestamp.ofInstant t = .error e ↔ t.millis < 0 ∧ e = ⟨t.millis⟩ := by
  unfold ofInstant
  by_cases h : 0 ≤ t.millis
  · simp only [if_pos h, reduceCtorEq, false_iff, not_and]
    omega
  · simp only [if_neg h, Except.error.injEq, eq_comm (a := e)]
    constructor
    · exact fun he => ⟨by omega, he⟩
    · exact fun he => he.2

namespace Trigger
open Sink (reportSteps)
variable {σ : Type}

/-- The header of a timestamp is written and flushed, which leaves the stream as `s`. -/
structure Announces (clock : Clock) (sink : Sink) (time : Timestamp) (s : Sink) : Prop where
  converts : Timestamp.ofInstant clock.read.1 = .ok time
  written : sink.Carries (reportSteps (headerPieces time)) s

/-- What the deployer gives when it is asked with a timestamp. -/
def attempt (t : Trigger σ) (time : Timestamp) (state : σ) : Attempt :=
  (t.deployer.deploy time state).1.value

/-- Asking the deployer fails: with its own error, or because the wait is over. -/
def Fails (t : Trigger σ) (time : Timestamp) (state : σ) (e : DeployError) : Prop :=
  (t.attempt time state).InTime t.timeout (.error e) ∨
    ∃ l, t.timeout = some l ∧ (t.attempt time state).Late l ∧ e = .timeout l

/-- What is logged from the announcement to the end of the attempt. -/
def asking (t : Trigger σ) (time : Timestamp) (state : σ) : List Log.Event :=
  startEvent time :: (t.deployer.deploy time state).1.events

/-- The ways of a run. -/
inductive Course (t : Trigger σ) (clock : Clock) (state : σ) (sink : Sink) : Run σ → Prop where
  | refused {e : ClockBeforeEpoch} (h : Timestamp.ofInstant clock.read.1 = .error e) :
      Course t clock state sink ⟨some (.error (.clock e)), sink, clock.read.2, state, []⟩
  | unannounced {time : Timestamp} {e : IoError} {s : Sink}
      (h : Timestamp.ofInstant clock.read.1 = .ok time)
      (hf : sink.FailsWith (reportSteps (headerPieces time)) e s) :
      Course t clock state sink ⟨some (.error (.report e)), s, clock.read.2, state, []⟩
  | endless {time : Timestamp} {s : Sink} (h : Announces clock sink time s)
      (hl : t.timeout = none) (hn : t.attempt time state = .never) :
      Course t clock state sink
        ⟨none, s, clock.read.2, (t.deployer.deploy time state).2, t.asking time state⟩
  | failed {time : Timestamp} {s : Sink} {e : DeployError} (h : Announces clock sink time s)
      (hf : t.Fails time state e) :
      Course t clock state sink
        ⟨some (.error (.deploy e)), s, clock.read.2, (t.deployer.deploy time state).2,
          t.asking time state ++ [failureEvent time e]⟩
  | unreported {time : Timestamp} {s s' : Sink} {a : Address} {e : IoError}
      (h : Announces clock sink time s)
      (ha : (t.attempt time state).InTime t.timeout (.ok a))
      (hf : s.FailsWith (reportSteps (addressPieces a)) e s') :
      Course t clock state sink
        ⟨some (.error (.report e)), s', clock.read.2, (t.deployer.deploy time state).2,
          t.asking time state ++ [successEvent a]⟩
  | deployed {time : Timestamp} {s s' : Sink} {a : Address} (h : Announces clock sink time s)
      (ha : (t.attempt time state).InTime t.timeout (.ok a))
      (hc : s.Carries (reportSteps (addressPieces a)) s') :
      Course t clock state sink
        ⟨some (.ok a), s', clock.read.2, (t.deployer.deploy time state).2,
          t.asking time state ++ [successEvent a]⟩

variable {t : Trigger σ} {clock : Clock} {state : σ} {sink s : Sink} {time : Timestamp}

theorem run_of_announces (h : Announces clock sink time s) :
    t.run clock state sink = t.deploy time clock.read.2 state s := by
  have hr := Sink.report_eq_ok_iff.mpr h.written
  rw [run_of_reported h.converts (by rw [hr]), hr]

section Deploy
variable {s' : Sink} {a : Address} {clock' : Clock}

theorem deploy_of_endless (h : (t.attempt time state).within t.timeout = none) :
    t.deploy time clock' state s =
      ⟨none, s, clock', (t.deployer.deploy time state).2, t.asking time state⟩ := by
  have hw : (t.deployer.deploy time state).1.value.within t.timeout = none := h
  simp [deploy, hw, asking]

theorem deploy_of_failed {e : DeployError}
    (h : (t.attempt time state).within t.timeout = some (.error e)) :
    t.deploy time clock' state s =
      ⟨some (.error (.deploy e)), s, clock', (t.deployer.deploy time state).2,
        t.asking time state ++ [failureEvent time e]⟩ := by
  have hw : (t.deployer.deploy time state).1.value.within t.timeout = some (.error e) := h
  simp [deploy, hw, asking]

theorem deploy_of_unreported {e : IoError}
    (h : (t.attempt time state).within t.timeout = some (.ok a))
    (hr : s.report (addressPieces a) = (.error e, s')) :
    t.deploy time clock' state s =
      ⟨some (.error (.report e)), s', clock', (t.deployer.deploy time state).2,
        t.asking time state ++ [successEvent a]⟩ := by
  have hw : (t.deployer.deploy time state).1.value.within t.timeout = some (.ok a) := h
  simp [deploy, hw, hr, asking]

theorem deploy_of_deployed (h : (t.attempt time state).within t.timeout = some (.ok a))
    (hr : s.report (addressPieces a) = (.ok (), s')) :
    t.deploy time clock' state s =
      ⟨some (.ok a), s', clock', (t.deployer.deploy time state).2,
        t.asking time state ++ [successEvent a]⟩ := by
  have hw : (t.deployer.deploy time state).1.value.within t.timeout = some (.ok a) := h
  simp [deploy, hw, hr, asking]

end Deploy

theorem course_run (t : Trigger σ) (clock : Clock) (state : σ) (sink : Sink) :
    Course t clock state sink (t.run clock state sink) := by
  cases h : Timestamp.ofInstant clock.read.1 with
  | error e =>
    rw [run_of_refused h]
    exact .refused h
  | ok time =>
    obtain ⟨r, s, hr⟩ : ∃ r s, sink.report (headerPieces time) = (r, s) := ⟨_, _, rfl⟩
    cases r with
    | error e =>
      rw [run_of_unreported h (by rw [hr]), hr]
      exact .unannounced h (Sink.report_eq_error_iff.mp hr)
    | ok u =>
      have ha : Announces clock sink time s := ⟨h, Sink.report_eq_ok_iff.mp hr⟩
      rw [run_of_announces ha]
      -- The wait decides which way the attempt ends, and the stream whether an address is told.
      cases hw : (t.attempt time state).within t.timeout with
      | none =>
        obtain ⟨hl, hn⟩ := Attempt.within_eq_none_iff.mp hw
        rw [deploy_of_endless hw]
        exact .endless ha hl hn
      | some result =>
        cases result with
        | error e =>
          rw [deploy_of_failed hw]
          exact .failed ha (Attempt.within_eq_error_iff.mp hw)
        | ok a =>
          have hin := Attempt.within_eq_ok_iff.mp hw
          obtain ⟨r, s', hs⟩ : ∃ r s', s.report (addressPieces a) = (r, s') := ⟨_, _, rfl⟩
          cases r with
          | error e =>
            rw [deploy_of_unreported hw hs]
            exact .unreported ha hin (Sink.report_eq_error_iff.mp hs)
          | ok u =>
            rw [deploy_of_deployed hw hs]
            exact .deployed ha hin (Sink.report_eq_ok_iff.mp hs)

theorem Course.run_eq {r : Run σ} (h : Course t clock state sink r) :
    t.run clock state sink = r := by
  cases h with
  | refused h => exact run_of_refused h
  | unannounced h hf =>
    have hr := Sink.report_eq_error_iff.mpr hf
    rw [run_of_unreported h (by rw [hr]), hr]
  | endless h hl hn =>
    rw [run_of_announces h, deploy_of_endless (Attempt.within_eq_none_iff.mpr ⟨hl, hn⟩)]
  | failed h hf =>
    rw [run_of_announces h, deploy_of_failed (Attempt.within_eq_error_iff.mpr hf)]
  | unreported h ha hf =>
    rw [run_of_announces h, deploy_of_unreported (Attempt.within_eq_ok_iff.mpr ha)
      (Sink.report_eq_error_iff.mpr hf)]
  | deployed h ha hc =>
    rw [run_of_announces h, deploy_of_deployed (Attempt.within_eq_ok_iff.mpr ha)
      (Sink.report_eq_ok_iff.mpr hc)]

section Result
variable {a : Address}

theorem result_eq_ok_iff :
    (t.run clock state sink).result = some (.ok a) ↔
      ∃ time s s', Announces clock sink time s ∧
        (t.attempt time state).InTime t.timeout (.ok a) ∧
        s.Carries (reportSteps (addressPieces a)) s' := by
  constructor
  · intro h
    have hcourse := course_run t clock state sink
    generalize t.run clock state sink = r at h hcourse
    cases hcourse with
    | deployed ha hin hc =>
      cases h
      exact ⟨_, _, _, ha, hin, hc⟩
    | _ => cases h
  · rintro ⟨time, s, s', h, ha, hc⟩
    rw [(Course.deployed h ha hc).run_eq]

theorem result_eq_clock_iff {e : ClockBeforeEpoch} :
    (t.run clock state sink).result = some (.error (.clock e)) ↔
      clock.read.1.millis < 0 ∧ e.millis = clock.read.1.millis := by
  constructor
  · intro h
    have hcourse := course_run t clock state sink
    generalize t.run clock state sink = r at h hcourse
    cases hcourse with
    | refused hr =>
      cases h
      obtain ⟨hlt, rfl⟩ := Timestamp.ofInstant_eq_error_iff.mp hr
      exact ⟨hlt, rfl⟩
    | _ => cases h
  · rintro ⟨hlt, he⟩
    rw [(Course.refused (Timestamp.ofInstant_eq_error_iff.mpr ⟨hlt, rfl⟩)).run_eq, ← he]

theorem result_eq_deploy_iff {e : DeployError} :
    (t.run clock state sink).result = some (.error (.deploy e)) ↔
      ∃ time s, Announces clock sink time s ∧ t.Fails time state e := by
  constructor
  · intro h
    have hcourse := course_run t clock state sink
    generalize t.run clock state sink = r at h hcourse
    cases hcourse with
    | failed ha hf =>
      cases h
      exact ⟨_, _, ha, hf⟩
    | _ => cases h
  · rintro ⟨time, s, h, hf⟩
    rw [(Course.failed h hf).run_eq]

theorem result_eq_report_iff {e : IoError} :
    (t.run clock state sink).result = some (.error (.report e)) ↔
      ∃ time, Timestamp.ofInstant clock.read.1 = .ok time ∧
        ((∃ s, sink.FailsWith (reportSteps (headerPieces time)) e s) ∨
          ∃ s s' a, sink.Carries (reportSteps (headerPieces time)) s ∧
            (t.attempt time state).InTime t.timeout (.ok a) ∧
            s.FailsWith (reportSteps (addressPieces a)) e s') := by
  constructor
  · intro h
    have hcourse := course_run t clock state sink
    generalize t.run clock state sink = r at h hcourse
    cases hcourse with
    | unannounced hc hf =>
      cases h
      exact ⟨_, hc, .inl ⟨_, hf⟩⟩
    | unreported ha hin hf =>
      cases h
      exact ⟨_, ha.converts, .inr ⟨_, _, _, ha.written, hin, hf⟩⟩
    | _ => cases h
  · rintro ⟨time, hc, ⟨s, hf⟩ | ⟨s, s', a, hw, hin, hf⟩⟩
    · rw [(Course.unannounced hc hf).run_eq]
    · rw [(Course.unreported ⟨hc, hw⟩ hin hf).run_eq]

theorem result_eq_none_iff :
    (t.run clock state sink).result = none ↔
      ∃ time s, Announces clock sink time s ∧ t.timeout = none ∧
        t.attempt time state = .never := by
  constructor
  · intro h
    have hcourse := course_run t clock state sink
    generalize t.run clock state sink = r at h hcourse
    cases hcourse with
    | endless ha hl hn => exact ⟨_, _, ha, hl, hn⟩
    | _ => cases h
  · rintro ⟨time, s, h, hl, hn⟩
    rw [(Course.endless h hl hn).run_eq]

theorem calls_of_announces (h : Announces clock sink time s) :
    t.calls clock state sink = [time] := by
  have hr := Sink.report_eq_ok_iff.mpr h.written
  simp [calls_eq, h.converts, hr]

theorem calls_of_failsWith {e : IoError} (h : Timestamp.ofInstant clock.read.1 = .ok time)
    (hf : sink.FailsWith (reportSteps (headerPieces time)) e s) :
    t.calls clock state sink = [] := by
  have hr := Sink.report_eq_error_iff.mpr hf
  simp [calls_eq, h, hr]

/-- A deployment is logged before the stream is given its address. -/
theorem successEvent_mem_events (h : Announces clock sink time s)
    (ha : (t.attempt time state).InTime t.timeout (.ok a)) :
    successEvent a ∈ (t.run clock state sink).events := by
  have hmem : successEvent a ∈ t.asking time state ++ [successEvent a] :=
    List.mem_append_right _ (List.mem_singleton_self _)
  obtain ⟨r, s', hs⟩ : ∃ r s', s.report (addressPieces a) = (r, s') := ⟨_, _, rfl⟩
  cases r with
  | error e =>
    rw [(Course.unreported h ha (Sink.report_eq_error_iff.mp hs)).run_eq]
    exact hmem
  | ok u =>
    rw [(Course.deployed h ha (Sink.report_eq_ok_iff.mp hs)).run_eq]
    exact hmem

end Result

/-- What each result of a run stands for. -/
structure Classified (t : Trigger σ) (clock : Clock) (state : σ) (sink : Sink) (r : Run σ) :
    Prop where
  ok_iff (a : Address) : r.result = some (.ok a) ↔
    ∃ time s s', Announces clock sink time s ∧
      (t.attempt time state).InTime t.timeout (.ok a) ∧
      s.Carries (reportSteps (addressPieces a)) s'
  clock_iff (e : ClockBeforeEpoch) : r.result = some (.error (.clock e)) ↔
    clock.read.1.millis < 0 ∧ e.millis = clock.read.1.millis
  deploy_iff (e : DeployError) : r.result = some (.error (.deploy e)) ↔
    ∃ time s, Announces clock sink time s ∧ t.Fails time state e
  report_iff (e : IoError) : r.result = some (.error (.report e)) ↔
    ∃ time, Timestamp.ofInstant clock.read.1 = .ok time ∧
      ((∃ s, sink.FailsWith (reportSteps (headerPieces time)) e s) ∨
        ∃ s s' a, sink.Carries (reportSteps (headerPieces time)) s ∧
          (t.attempt time state).InTime t.timeout (.ok a) ∧
          s.FailsWith (reportSteps (addressPieces a)) e s')
  endless_iff : r.result = none ↔
    ∃ time s, Announces clock sink time s ∧ t.timeout = none ∧ t.attempt time state = .never
  /-- Before the epoch nothing is written and no one is asked. -/
  refused (h : clock.read.1.millis < 0) : r.sink = sink ∧ t.calls clock state sink = []
  asked {time : Timestamp} {s : Sink} (h : Announces clock sink time s) :
    t.calls clock state sink = [time]
  /-- Behind a failure of the stream no one is asked. -/
  unasked {time : Timestamp} {e : IoError} {s : Sink}
    (h : Timestamp.ofInstant clock.read.1 = .ok time)
    (hf : sink.FailsWith (reportSteps (headerPieces time)) e s) :
    t.calls clock state sink = [] ∧ ∀ e', r.result ≠ some (.error (.deploy e'))
  /-- Behind a failure of the deployer nothing is written, so the stream cannot fail. -/
  unwritten {time : Timestamp} {s : Sink} {e : DeployError} (h : Announces clock sink time s)
    (hf : t.Fails time state e) : r.sink = s ∧ ∀ e', r.result ≠ some (.error (.report e'))
  /-- The log holds the address of every deployment, whether or not it can be reported. -/
  logged {time : Timestamp} {s : Sink} {a : Address} (h : Announces clock sink time s)
    (ha : (t.attempt time state).InTime t.timeout (.ok a)) :
    ⟨.info, .trigger, "contract deployed at " ++ a.shown⟩ ∈ r.events

/-- Whatever the reading, the attempt, the wait and the stream, the result of a run says exactly which
stage failed first, and why. -/
theorem run_classified (t : Trigger σ) (clock : Clock) (state : σ) (sink : Sink) :
    Classified t clock state sink (t.run clock state sink) where
  ok_iff _ := result_eq_ok_iff
  clock_iff _ := result_eq_clock_iff
  deploy_iff _ := result_eq_deploy_iff
  report_iff _ := result_eq_report_iff
  endless_iff := result_eq_none_iff
  refused hlt := by
    have h := Timestamp.ofInstant_eq_error_iff.mpr ⟨hlt, rfl⟩
    rw [run_of_refused h]
    simp [calls_eq, h]
  asked := calls_of_announces
  unasked h hf := by
    rw [(Course.unannounced h hf).run_eq]
    exact ⟨calls_of_failsWith h hf, nofun⟩
  unwritten h hf := by
    rw [(Course.failed h hf).run_eq]
    exact ⟨rfl, nofun⟩
  logged := successEvent_mem_events

end Trigger
end DeployTrigger
