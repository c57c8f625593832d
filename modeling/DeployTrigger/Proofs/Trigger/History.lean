import DeployTrigger.Proofs.Trigger.ReportSafety

/-!
Runs one after the other. Each takes one reading from the clock and asks the deployer at most once,
so the calls of a history are the timestamps announced in it (`announcements`). A run depends on the
runs before it only through the state in which their calls left the deployer: given its reading and
the attempt it gets, it does what it would do alone (`history_accounted`).
-/
namespace DeployTrigger

namespace Supply
variable {α : Type}

/-- What is left when `n` values were handed out. -/
def after (s : Supply α) : Nat → Supply α
  | 0 => s
  | n + 1 => s.next.2.after n

/-- The value that is handed out behind `n` others: they come in order, the last one for ever. -/
def nth (s : Supply α) (n : Nat) : α :=
  (s.first :: s.rest)[n]?.getD ((s.first :: s.rest).getLast (List.cons_ne_nil _ _))

theorem first_next (s : Supply α) : s.next.1 = s.first := by
  cases hr : s.rest <;> simp [next, hr]

theorem nth_next (s : Supply α) (n : Nat) : s.next.2.nth n = s.nth (n + 1) := by
  obtain ⟨first, rest⟩ := s
  cases rest with
  | nil => cases n <;> simp [next, nth]
  | cons a rest => simp [next, nth]

theorem first_after (s : Supply α) (n : Nat) : (s.after n).first = s.nth n := by
  induction n generalizing s with
  | zero => rfl
  | succ n ih => rw [← nth_next, ← ih]; rfl

end Supply

def Clock.after (c : Clock) (n : Nat) : Clock := ⟨c.readings.after n, c.reads + n⟩

/-- The state of a deployer that was asked with some timestamps. -/
def Deployer.after {σ : Type} (d : Deployer σ) (state : σ) (times : List Timestamp) : σ :=
  times.foldl (fun s time => (d.deploy time s).2) state

/-- A deployer without a memory that gives the same attempt for whatever it is asked. -/
def Deployer.giving (attempt : Log.Logged Attempt) : Deployer Unit := ⟨fun _ s => (attempt, s)⟩

theorem Deployer.after_append {σ : Type} (d : Deployer σ) (state : σ) (before times : List Timestamp) :
    d.after state (before ++ times) = d.after (d.after state before) times :=
  List.foldl_append

theorem Deployer.after_recorded {σ : Type} (d : Deployer σ) (state : σ) (cs times : List Timestamp) :
    d.recorded.after (state, cs) times = (d.after state times, cs ++ times) := by
  induction times generalizing state cs with
  | nil => simp [after]
  | cons time times ih =>
    have hstep : d.recorded.after (state, cs) (time :: times) =
        d.recorded.after ((d.deploy time state).2, cs ++ [time]) times := rfl
    rw [hstep, ih, List.append_assoc]
    rfl

theorem Script.after_deployer (s : Script) (times : List Timestamp) :
    Script.deployer.after s times = ⟨s.outcomes.after times.length, s.calls ++ times⟩ := by
  induction times generalizing s with
  | nil => simp [Deployer.after, Supply.after]
  | cons time times ih =>
    have hstep : Script.deployer.after s (time :: times) =
        Script.deployer.after ⟨s.outcomes.next.2, s.calls ++ [time]⟩ times := rfl
    rw [hstep, ih, List.append_assoc]
    rfl

namespace Trigger
variable {σ : Type}

/-- The timestamp that a run announces: the one of its reading, if the stream takes the header as a
whole and flushes it. -/
def announced? (reading : Instant) (sink : Sink) : Option Timestamp :=
  match Timestamp.ofInstant reading with
  | .error _ => none
  | .ok time => if HeaderOut sink time then some time else none

/-- The timestamps announced by runs on some streams, in the order of the runs. -/
def announcements (readings : Supply Instant) (sinks : List Sink) : List Timestamp :=
  sinks.zipIdx.filterMap fun x => announced? (readings.nth x.2) x.1

/-- A run for a reading with an attempt, there being no other run. -/
def alone (limit : Option Duration) (reading : Instant) (attempt : Log.Logged Attempt)
    (sink : Sink) : Run Unit :=
  (⟨.giving attempt, limit⟩ : Trigger Unit).run (.fixed reading) () sink

theorem announced?_eq_some_iff {reading : Instant} {sink : Sink} {time : Timestamp} :
    announced? reading sink = some time ↔
      Timestamp.ofInstant reading = .ok time ∧ HeaderOut sink time := by
  unfold announced?
  cases Timestamp.ofInstant reading with
  | error e => simp
  | ok time' =>
    by_cases ho : HeaderOut sink time'
    · simp only [if_pos ho, Option.some.injEq, Except.ok.injEq]
      constructor
      · rintro rfl
        exact ⟨rfl, ho⟩
      · exact fun h => h.1
    · simp only [if_neg ho, reduceCtorEq, Except.ok.injEq, false_iff, not_and]
      rintro rfl
      exact ho

theorem announcements_cons (readings : Supply Instant) (sink : Sink) (rest : List Sink) :
    announcements readings (sink :: rest) =
      (announced? readings.first sink).toList ++ announcements readings.next.2 rest := by
  have hrest : (rest.zipIdx 1).filterMap (fun x => announced? (readings.nth x.2) x.1) =
      announcements readings.next.2 rest := by
    rw [List.zipIdx_succ, List.filterMap_map, announcements]
    simp only [Supply.nth_next]
    rfl
  have hzero : readings.nth 0 = readings.first := rfl
  cases h : announced? readings.first sink <;>
    simp [announcements, List.zipIdx_cons, hzero, h, hrest]

theorem announcements_take_succ (readings : Supply Instant) {sinks : List Sink} {i : Nat}
    {sink : Sink} (hs : sinks[i]? = some sink) :
    announcements readings (sinks.take (i + 1)) =
      announcements readings (sinks.take i) ++ (announced? (readings.nth i) sink).toList := by
  induction sinks generalizing readings i with
  | nil => cases hs
  | cons head rest ih =>
    cases i with
    | zero =>
      cases hs
      rw [List.take_succ_cons, announcements_cons, List.take_zero, List.take_zero]
      exact List.append_nil _
    | succ i =>
      rw [List.take_succ_cons, List.take_succ_cons, announcements_cons, announcements_cons,
        ih readings.next.2 hs, List.append_assoc, Supply.nth_next]

/-- Two runs end alike and leave the same on the stream and in the log. -/
structure Alike {τ : Type} (r : Run σ) (r' : Run τ) : Prop where
  result : r.result = r'.result
  sink : r.sink = r'.sink
  events : r.events = r'.events

section Step
variable {τ : Type} {t : Trigger σ} {t' : Trigger τ} {clock clock' : Clock} {state : σ} {state' : τ}
variable {sink : Sink} {time : Timestamp}

/-- What is announced decides which way a run goes. -/
theorem run_cases (t : Trigger σ) (clock : Clock) (state : σ) (sink : Sink) :
    (announced? clock.read.1 sink = none ∧ ∃ e sink', t.run clock state sink =
        ⟨some (.error e), sink', clock.read.2, state, []⟩) ∨
      ∃ time, announced? clock.read.1 sink = some time ∧
        t.run clock state sink =
          t.deploy time clock.read.2 state (sink.report (headerPieces time)).2 := by
  cases h : Timestamp.ofInstant clock.read.1 with
  | error e => exact .inl ⟨by simp [announced?, h], _, _, run_of_refused h⟩
  | ok time =>
    by_cases ho : HeaderOut sink time
    · exact .inr ⟨time, announced?_eq_some_iff.mpr ⟨h, ho⟩,
        run_of_reported h (report_header_ok_iff.mpr ho)⟩
    · obtain ⟨e, he⟩ := report_header_error ho
      exact .inl ⟨by simp [announced?, h, ho], _, _, run_of_unreported h he⟩

theorem clock_deploy (t : Trigger σ) (time : Timestamp) (clock : Clock) (state : σ) (sink : Sink) :
    (t.deploy time clock state sink).clock = clock := by
  simp only [deploy]
  split
  · rfl
  · rfl
  · split <;> rfl

theorem clock_run (t : Trigger σ) (clock : Clock) (state : σ) (sink : Sink) :
    (t.run clock state sink).clock = clock.read.2 := by
  obtain ⟨_, e, sink', h⟩ | ⟨time, _, h⟩ := run_cases t clock state sink
  · rw [h]
  · rw [h, clock_deploy]

/-- A run asks for the timestamp that it announces, and for no other. -/
theorem state_run (t : Trigger σ) (clock : Clock) (state : σ) (sink : Sink) :
    (t.run clock state sink).state =
      t.deployer.after state (announced? clock.read.1 sink).toList := by
  obtain ⟨hn, e, sink', h⟩ | ⟨time, hs, h⟩ := run_cases t clock state sink
  · rw [h, hn]
    rfl
  · rw [h, hs, state_deploy]
    rfl

theorem alike_deploy (hlimit : t.timeout = t'.timeout)
    (hattempt : (t.deployer.deploy time state).1 = (t'.deployer.deploy time state').1) :
    Alike (t.deploy time clock state sink) (t'.deploy time clock' state' sink) := by
  cases hw : (t'.deployer.deploy time state').1.value.within t'.timeout with
  | none => constructor <;> simp [deploy, hlimit, hattempt, hw]
  | some result =>
    cases result with
    | error e => constructor <;> simp [deploy, hlimit, hattempt, hw]
    | ok a =>
      obtain ⟨r, s, hs⟩ : ∃ r s, sink.report (addressPieces a) = (r, s) := ⟨_, _, rfl⟩
      cases r <;> constructor <;> simp [deploy, hlimit, hattempt, hw, hs]

/-- With one reading, one limit, one stream and one attempt, runs do not differ. -/
theorem alike_run (hlimit : t.timeout = t'.timeout) (hreading : clock.read.1 = clock'.read.1)
    (hattempt : ∀ time, announced? clock.read.1 sink = some time →
      (t.deployer.deploy time state).1 = (t'.deployer.deploy time state').1) :
    Alike (t.run clock state sink) (t'.run clock' state' sink) := by
  cases h : Timestamp.ofInstant clock.read.1 with
  | error e =>
    rw [run_of_refused h, run_of_refused (hreading ▸ h)]
    exact ⟨rfl, rfl, rfl⟩
  | ok time =>
    have h' : Timestamp.ofInstant clock'.read.1 = .ok time := hreading ▸ h
    by_cases ho : HeaderOut sink time
    · have hr := report_header_ok_iff.mpr ho
      rw [run_of_reported h hr, run_of_reported h' hr]
      exact alike_deploy hlimit (hattempt time (announced?_eq_some_iff.mpr ⟨h, ho⟩))
    · obtain ⟨e, he⟩ := report_header_error ho
      rw [run_of_unreported h he, run_of_unreported h' he]
      exact ⟨rfl, rfl, rfl⟩

end Step

/-- Run number `i` of a history as it is accounted for. -/
structure Booked (t : Trigger σ) (clock : Clock) (state : σ) (sinks : List Sink) (i : Nat)
    (sink : Sink) (r : Run σ) : Prop where
  reads : r.clock = clock.after (i + 1)
  asks : r.state = t.deployer.after state (announcements clock.readings (sinks.take (i + 1)))
  /-- With the attempt that the deployer gives after the calls so far, the run does what it would
  do alone. -/
  alone : ∀ attempt, (∀ time, announced? (clock.readings.nth i) sink = some time →
      (t.deployer.deploy time
        (t.deployer.after state (announcements clock.readings (sinks.take i)))).1 = attempt) →
    Alike r (alone t.timeout (clock.readings.nth i) attempt sink)

theorem length_runs (t : Trigger σ) (clock : Clock) (state : σ) (sinks : List Sink) :
    (t.runs clock state sinks).length = sinks.length := by
  induction sinks generalizing clock state with
  | nil => rfl
  | cons sink rest ih => rw [runs, List.length_cons, List.length_cons, ih]

theorem Booked.cons {t : Trigger σ} {clock : Clock} {state : σ} {head sink : Sink}
    {rest : List Sink} {i : Nat} {r : Run σ}
    (h : Booked t clock.read.2
      (t.deployer.after state (announced? clock.readings.first head).toList) rest i sink r) :
    Booked t clock state (head :: rest) (i + 1) sink r where
  reads := by
    rw [h.reads]
    have hreads : clock.reads + 1 + (i + 1) = clock.reads + (i + 1 + 1) := by omega
    rw [Clock.after, Clock.after, Clock.read, hreads]
    rfl
  asks := by
    rw [h.asks, ← Deployer.after_append, List.take_succ_cons, announcements_cons]
    rfl
  alone attempt hattempt := by
    rw [List.take_succ_cons, announcements_cons, Deployer.after_append, ← Supply.nth_next] at hattempt
    rw [← Supply.nth_next]
    exact h.alone attempt hattempt

theorem booked_run (t : Trigger σ) (clock : Clock) (state : σ) (sink : Sink) (rest : List Sink) :
    Booked t clock state (sink :: rest) 0 sink (t.run clock state sink) where
  reads := clock_run t clock state sink
  asks := by
    rw [state_run, List.take_succ_cons, List.take_zero, announcements_cons, Clock.read,
      Supply.first_next, announcements, List.zipIdx_nil, List.filterMap_nil, List.append_nil]
  alone attempt hattempt := by
    refine alike_run rfl (Supply.first_next _) fun time htime => ?_
    rw [Clock.read, Supply.first_next] at htime
    exact hattempt time htime

theorem booked_runs (t : Trigger σ) (clock : Clock) (state : σ) (sinks : List Sink) {i : Nat}
    {sink : Sink} {r : Run σ} (hs : sinks[i]? = some sink)
    (hr : (t.runs clock state sinks)[i]? = some r) : Booked t clock state sinks i sink r := by
  induction sinks generalizing clock state i with
  | nil => cases hs
  | cons head rest ih =>
    cases i with
    | zero =>
      cases hs
      cases hr
      exact booked_run t clock state sink rest
    | succ i =>
      -- Behind the first run is a history of its own: one reading and what it announced are gone.
      have hrest : (t.runs clock.read.2
          (t.deployer.after state (announced? clock.readings.first head).toList) rest)[i]? =
            some r := by
        rw [← hr, runs, List.getElem?_cons_succ, clock_run, state_run, Clock.read,
          Supply.first_next]
      exact (ih _ _ hs hrest).cons

theorem exists_booked (t : Trigger σ) (clock : Clock) (state : σ) (sinks : List Sink)
    (i : Fin sinks.length) : ∃ r, (t.runs clock state sinks)[i.val]? = some r ∧
      Booked t clock state sinks i sinks[i] r := by
  have hlt : i.val < (t.runs clock state sinks).length := by
    rw [length_runs]
    exact i.isLt
  have hr := List.getElem?_eq_getElem hlt
  have hs : sinks[i.val]? = some sinks[i] := List.getElem?_eq_getElem i.isLt
  exact ⟨_, hr, booked_runs t clock state sinks hs hr⟩

theorem forget_runs_recorded (t : Trigger σ) (clock : Clock) (state : σ) (cs : List Timestamp)
    (sinks : List Sink) :
    (t.recorded.runs clock (state, cs) sinks).map Run.forget = t.runs clock state sinks := by
  induction sinks generalizing clock state cs with
  | nil => rfl
  | cons sink rest ih =>
    have hrun := forget_run_recorded t clock state cs sink
    obtain ⟨state', cs', hstate⟩ : ∃ state' cs',
        (t.recorded.run clock (state, cs) sink).state = (state', cs') := ⟨_, _, rfl⟩
    have hclock : (t.recorded.run clock (state, cs) sink).clock = (t.run clock state sink).clock := by
      rw [← hrun, Run.forget]
    have hsame : (t.run clock state sink).state = state' := by
      rw [← hrun, Run.forget, hstate]
    rw [runs, runs, List.map_cons, hrun, hstate, hclock, hsame, ih]

/-- In a history on any streams, each run takes one reading and asks the deployer at most once: the
calls are the announced timestamps, in the order of the runs. What a run does is settled by its own
reading and the attempt it gets. A script hands its outcomes to the runs that announce something. -/
theorem history_accounted (limit : Option Duration) (clock : Clock) (sinks : List Sink) :
    (∀ (σ : Type) (d : Deployer σ) (state : σ),
      let t : Trigger σ := ⟨d, limit⟩
      let recorded := t.recorded.runs clock (state, []) sinks
      recorded.map Run.forget = t.runs clock state sinks ∧ recorded.length = sinks.length ∧
      ∀ i : Fin sinks.length, ∃ r, recorded[i.val]? = some r ∧
        r.state.2 = announcements clock.readings (sinks.take (i + 1)) ∧
        Booked t clock state sinks i sinks[i] r.forget) ∧
    ∀ script : Script,
      let history := (⟨Script.deployer, limit⟩ : Trigger Script).runs clock script sinks
      history.length = sinks.length ∧
      ∀ i : Fin sinks.length, ∃ r, history[i.val]? = some r ∧
        let before := announcements clock.readings (sinks.take i)
        let calls := announcements clock.readings (sinks.take (i + 1))
        calls = before ++ (announced? (clock.readings.nth i) sinks[i]).toList ∧
        r.clock = clock.after (i + 1) ∧
        r.state = ⟨script.outcomes.after calls.length, script.calls ++ calls⟩ ∧
        Alike r (alone limit (clock.readings.nth i) (pure (script.outcomes.nth before.length))
          sinks[i]) := by
  constructor
  · intro σ d state t recorded
    have hforget : recorded.map Run.forget = t.runs clock state sinks :=
      forget_runs_recorded t clock state [] sinks
    refine ⟨hforget, length_runs _ _ _ _, fun i => ?_⟩
    -- The recorded history tells the calls; what is booked is the run without them.
    obtain ⟨r, hr, hb⟩ := exists_booked t.recorded clock (state, []) sinks i
    obtain ⟨r', hr', hb'⟩ := exists_booked t clock state sinks i
    have hsame : r.forget = r' := by
      have hr : recorded[i.val]? = some r := hr
      rw [← hforget, List.getElem?_map, hr] at hr'
      exact Option.some.inj hr'
    refine ⟨r, hr, ?_, hsame ▸ hb'⟩
    rw [hb.asks]
    change (d.recorded.after (state, []) _).2 = _
    rw [Deployer.after_recorded, List.nil_append]
  · intro script history
    refine ⟨length_runs _ _ _ _, fun i => ?_⟩
    have hs : sinks[i.val]? = some sinks[i] := List.getElem?_eq_getElem i.isLt
    obtain ⟨r, hr, hb⟩ := exists_booked _ clock script sinks i
    refine ⟨r, hr, announcements_take_succ clock.readings hs, hb.reads, ?_, ?_⟩
    · rw [hb.asks]
      exact Script.after_deployer _ _
    · refine hb.alone _ fun time _ => ?_
      change (Script.deployer.deploy time (Script.deployer.after script _)).1 = _
      rw [Script.after_deployer]
      exact congrArg pure ((Supply.first_next _).trans (Supply.first_after _ _))

end Trigger
end DeployTrigger
