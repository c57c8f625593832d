import DeployTrigger.Trigger

/-!
What one run of a trigger can do, stage by stage, and which timestamps it asks the deployer for.
The calls are written down by the deployer itself; writing them down changes nothing else about a
run (`forget_run_recorded`).
-/
namespace DeployTrigger
variable {σ : Type}

/-- The same deployer, which also writes down the timestamps it is asked for. -/
def Deployer.recorded (d : Deployer σ) : Deployer (σ × List Timestamp) where
  deploy t s := ((d.deploy t s.1).1, (d.deploy t s.1).2, s.2 ++ [t])

/-- A run without the calls that were written down. -/
def Run.forget (r : Run (σ × List Timestamp)) : Run σ :=
  ⟨r.result, r.sink, r.clock, r.state.1, r.events⟩

namespace Trigger
variable {t : Trigger σ} {clock : Clock} {state : σ} {sink : Sink} {time : Timestamp}

def recorded (t : Trigger σ) : Trigger (σ × List Timestamp) := ⟨t.deployer.recorded, t.timeout⟩

/-- The timestamps that the deployer is asked for in one run. -/
def calls (t : Trigger σ) (clock : Clock) (state : σ) (sink : Sink) : List Timestamp :=
  (t.recorded.run clock (state, []) sink).state.2

/-- The deployer, asked with a timestamp, resolves with an address before the wait is over. -/
def Resolves (t : Trigger σ) (time : Timestamp) (state : σ) (a : Address) : Prop :=
  (t.deployer.deploy time state).1.value.within t.timeout = some (.ok a)

theorem run_of_refused {e : ClockBeforeEpoch} (h : Timestamp.ofInstant clock.read.1 = .error e) :
    t.run clock state sink = ⟨some (.error (.clock e)), sink, clock.read.2, state, []⟩ := by
  simp [run, h]

theorem run_of_unreported {e : IoError} (h : Timestamp.ofInstant clock.read.1 = .ok time)
    (hr : (sink.report (headerPieces time)).1 = .error e) :
    t.run clock state sink =
      ⟨some (.error (.report e)), (sink.report (headerPieces time)).2, clock.read.2, state, []⟩ := by
  obtain ⟨r, s, hs⟩ : ∃ r s, sink.report (headerPieces time) = (r, s) := ⟨_, _, rfl⟩
  rw [hs] at hr
  cases hr
  simp [run, h, hs]

theorem run_of_reported (h : Timestamp.ofInstant clock.read.1 = .ok time)
    (hr : (sink.report (headerPieces time)).1 = .ok ()) :
    t.run clock state sink =
      t.deploy time clock.read.2 state (sink.report (headerPieces time)).2 := by
  obtain ⟨r, s, hs⟩ : ∃ r s, sink.report (headerPieces time) = (r, s) := ⟨_, _, rfl⟩
  rw [hs] at hr
  cases hr
  simp [run, h, hs]

theorem state_deploy (t : Trigger σ) (time : Timestamp) (clock : Clock) (state : σ) (sink : Sink) :
    (t.deploy time clock state sink).state = (t.deployer.deploy time state).2 := by
  simp only [deploy]
  split
  · rfl
  · rfl
  · split <;> rfl

theorem sink_deploy_of_resolves {a : Address} (h : t.Resolves time state a) :
    (t.deploy time clock state sink).sink = (sink.report (addressPieces a)).2 := by
  have hw : (t.deployer.deploy time state).1.value.within t.timeout = some (.ok a) := h
  obtain ⟨r, s, hs⟩ : ∃ r s, sink.report (addressPieces a) = (r, s) := ⟨_, _, rfl⟩
  cases r <;> simp [deploy, hw, hs]

theorem sink_deploy_of_not_resolves (h : ∀ a, ¬ t.Resolves time state a) :
    (t.deploy time clock state sink).sink = sink := by
  cases hw : (t.deployer.deploy time state).1.value.within t.timeout with
  | none => simp [deploy, hw]
  | some r =>
    cases r with
    | error e => simp [deploy, hw]
    | ok a => exact absurd hw (h a)

/-- The deployer is asked once, after the header is reported, or not at all. -/
theorem calls_eq (t : Trigger σ) (clock : Clock) (state : σ) (sink : Sink) :
    t.calls clock state sink =
      match Timestamp.ofInstant clock.read.1 with
      | .error _ => []
      | .ok time =>
        match (sink.report (headerPieces time)).1 with
        | .error _ => []
        | .ok () => [time] := by
  cases h : Timestamp.ofInstant clock.read.1 with
  | error e => simp [calls, run_of_refused h]
  | ok time =>
    cases hr : (sink.report (headerPieces time)).1 with
    | error e => simp [calls, run_of_unreported h hr, hr]
    | ok u => simp [calls, run_of_reported h hr, hr, state_deploy, recorded, Deployer.recorded]

theorem forget_deploy_recorded (t : Trigger σ) (time : Timestamp) (clock : Clock)
    (state : σ) (cs : List Timestamp) (sink : Sink) :
    (t.recorded.deploy time clock (state, cs) sink).forget = t.deploy time clock state sink := by
  cases hw : (t.deployer.deploy time state).1.value.within t.timeout with
  | none => simp [deploy, recorded, Deployer.recorded, Run.forget, hw]
  | some r =>
    cases r with
    | error e => simp [deploy, recorded, Deployer.recorded, Run.forget, hw]
    | ok a =>
      obtain ⟨r, s, hs⟩ : ∃ r s, sink.report (addressPieces a) = (r, s) := ⟨_, _, rfl⟩
      cases r <;> simp [deploy, recorded, Deployer.recorded, Run.forget, hw, hs]

/-- A deployer that writes its calls down runs as before. -/
theorem forget_run_recorded (t : Trigger σ) (clock : Clock) (state : σ) (cs : List Timestamp)
    (sink : Sink) :
    (t.recorded.run clock (state, cs) sink).forget = t.run clock state sink := by
  cases h : Timestamp.ofInstant clock.read.1 with
  | error e => rw [run_of_refused h, run_of_refused h]; rfl
  | ok time =>
    cases hr : (sink.report (headerPieces time)).1 with
    | error e => rw [run_of_unreported h hr, run_of_unreported h hr]; rfl
    | ok u =>
      rw [run_of_reported h hr, run_of_reported h hr]
      exact forget_deploy_recorded t time clock.read.2 state cs _

end Trigger
end DeployTrigger
