import DeployTrigger.Proofs.Trigger.Course
import DeployTrigger.Proofs.Trigger.History

/-!
Which readings a run refuses. They are those before the epoch, however close to it, but for the
readings of the leap second in front of it: their milliseconds run on into the second behind it
(`run_screens_reading`).
-/
namespace DeployTrigger

namespace Instant
variable {t : Instant}

/-- A reading of the leap second in front of the epoch. -/
def LeapsOntoEpoch (t : Instant) : Prop := t.secs = -1 ∧ 1000000000 ≤ t.nanos

instance (t : Instant) : Decidable t.LeapsOntoEpoch := by unfold LeapsOntoEpoch; infer_instance

theorem before_epoch_iff : t.Before .epoch ↔ t.secs < 0 := by
  have hzero : ¬ t.nanos < epoch.nanos := Nat.not_lt_zero _
  exact ⟨fun h => h.resolve_right fun h => hzero h.2, .inl⟩

/-- Nanoseconds reach from before the epoch to it only in the last second, and only if they tell a
leap second. -/
theorem millis_lt_zero_iff : t.millis < 0 ↔ t.Before .epoch ∧ ¬ t.LeapsOntoEpoch := by
  rw [before_epoch_iff, LeapsOntoEpoch, millis]
  have hsub := t.subsecond
  omega

theorem millis_lt (t : Instant) : t.millis < UInt64.size := by
  have hupper := t.upper
  have hsub := t.subsecond
  rw [millis, UInt64.size]
  omega

theorem LeapsOntoEpoch.millis_eq (h : t.LeapsOntoEpoch) :
    t.millis = ((t.nanos / 1000000 - 1000 : Nat) : Int) := by
  obtain ⟨hsecs, hnanos⟩ := h
  rw [millis, hsecs]
  omega

end Instant

theorem Timestamp.ofInstant_eq_ok_iff {t : Instant} {time : Timestamp} :
    ofInstant t = .ok time ↔ (time.millis.toNat : Int) = t.millis := by
  have hlt := t.millis_lt
  unfold ofInstant
  by_cases h : 0 ≤ t.millis
  · have hread : ((UInt64.ofNat t.millis.toNat).toNat : Int) = t.millis := by
      rw [UInt64.toNat_ofNat_of_lt' (by omega)]
      omega
    rw [if_pos h, Except.ok.injEq]
    constructor
    · rintro rfl
      exact hread
    · intro htime
      have hnat : (UInt64.ofNat t.millis.toNat).toNat = time.millis.toNat := by omega
      exact congrArg Timestamp.mk (UInt64.toNat_inj.mp hnat)
  · simp only [if_neg h, reduceCtorEq, false_iff]
    omega

namespace Trigger
variable {σ : Type} {t : Trigger σ} {clock : Clock} {state : σ} {sink : Sink}

/-- What a run makes of a reading that it takes. -/
structure Taken (t : Trigger σ) (clock : Clock) (state : σ) (sink : Sink) (time : Timestamp) :
    Prop where
  reading : Timestamp.ofInstant clock.read.1 = .ok time
  millis : (time.millis.toNat : Int) = clock.read.1.millis
  /-- The reading is never what a run fails for. -/
  unblamed (e : ClockBeforeEpoch) : (t.run clock state sink).result ≠ some (.error (.clock e))
  calls : t.calls clock state sink = if HeaderOut sink time then [time] else []

/-- What a run makes of a reading that it refuses: nothing is written, logged or asked for. -/
structure Refused (t : Trigger σ) (clock : Clock) (state : σ) (sink : Sink) : Prop where
  reading : Timestamp.ofInstant clock.read.1 = .error ⟨clock.read.1.millis⟩
  millis : clock.read.1.millis < 0
  calls : t.calls clock state sink = []
  run : t.run clock state sink =
    ⟨some (.error (.clock ⟨clock.read.1.millis⟩)), sink, clock.read.2, state, []⟩

/-- How readings are sorted, and what a run makes of its own. -/
structure Screened (t : Trigger σ) (clock : Clock) (state : σ) (sink : Sink) : Prop where
  refused_iff (reading : Instant) : (∃ e, Timestamp.ofInstant reading = .error e) ↔
    reading.Before .epoch ∧ ¬ reading.LeapsOntoEpoch
  before (h : clock.read.1.Before .epoch) (hleap : ¬ clock.read.1.LeapsOntoEpoch) :
    t.Refused clock state sink
  behind (h : ¬ clock.read.1.Before .epoch) : ∃ time, t.Taken clock state sink time
  /-- The leap second is told like the second behind it. -/
  leaping (h : clock.read.1.LeapsOntoEpoch) : ∃ time, t.Taken clock state sink time ∧
    time.millis.toNat = clock.read.1.nanos / 1000000 - 1000 ∧ time.millis.toNat < 1000

theorem refused_of_millis (h : clock.read.1.millis < 0) : t.Refused clock state sink where
  reading := Timestamp.ofInstant_eq_error_iff.mpr ⟨h, rfl⟩
  millis := h
  calls := by rw [calls_eq, Timestamp.ofInstant_eq_error_iff.mpr ⟨h, rfl⟩]
  run := run_of_refused (Timestamp.ofInstant_eq_error_iff.mpr ⟨h, rfl⟩)

theorem taken_of_millis (h : ¬ clock.read.1.millis < 0) :
    ∃ time, t.Taken clock state sink time := by
  cases htime : Timestamp.ofInstant clock.read.1 with
  | error e => exact absurd (Timestamp.ofInstant_eq_error_iff.mp htime).1 h
  | ok time =>
    refine ⟨time, htime, Timestamp.ofInstant_eq_ok_iff.mp htime, fun e he => ?_, ?_⟩
    · exact h (result_eq_clock_iff.mp he).1
    · split
      · exact calls_of_headerOut htime ‹_›
      · exact calls_of_not_headerOut htime ‹_›

theorem leaping_taken (h : clock.read.1.LeapsOntoEpoch) :
    ∃ time, t.Taken clock state sink time ∧
      time.millis.toNat = clock.read.1.nanos / 1000000 - 1000 ∧ time.millis.toNat < 1000 := by
  have hpositive : ¬ clock.read.1.millis < 0 := fun hlt => (Instant.millis_lt_zero_iff.mp hlt).2 h
  obtain ⟨time, htaken⟩ := (taken_of_millis hpositive : ∃ time, t.Taken clock state sink time)
  have hsub := clock.read.1.subsecond
  have hmillis := htaken.millis.trans h.millis_eq
  exact ⟨time, htaken, by omega, by omega⟩

/-- Whatever the clock shows, a run refuses its reading, and then asks no one, exactly if it is
before the epoch and not of the leap second in front of it. -/
theorem run_screens_reading (t : Trigger σ) (clock : Clock) (state : σ) (sink : Sink) :
    t.Screened clock state sink where
  refused_iff reading := by
    rw [← Instant.millis_lt_zero_iff]
    constructor
    · rintro ⟨e, he⟩
      exact (Timestamp.ofInstant_eq_error_iff.mp he).1
    · exact fun h => ⟨_, Timestamp.ofInstant_eq_error_iff.mpr ⟨h, rfl⟩⟩
  before h hleap := refused_of_millis (Instant.millis_lt_zero_iff.mpr ⟨h, hleap⟩)
  behind h := taken_of_millis fun hlt => h (Instant.millis_lt_zero_iff.mp hlt).1
  leaping := leaping_taken

def waiting : Trigger Unit := ⟨.giving ⟨.never, []⟩, none⟩

/-- The last reading before the epoch that is not of a leap second. -/
def lastBefore : Instant := ⟨-1, 999999999, by decide, by decide, by decide⟩

def leaping : Instant := ⟨-1, 1500000000, by decide, by decide, by decide⟩

theorem waiting_screens_around_epoch :
    waiting.Refused (.fixed lastBefore) () .unbounded ∧
    (∃ time, waiting.Taken (.fixed .epoch) () .unbounded time) ∧
    ∃ time, waiting.Taken (.fixed leaping) () .unbounded time ∧ time.millis.toNat = 500 := by
  refine ⟨(run_screens_reading waiting (.fixed lastBefore) () .unbounded).before (by decide)
    (by decide), (run_screens_reading waiting (.fixed .epoch) () .unbounded).behind (by decide), ?_⟩
  obtain ⟨time, htaken, hmillis, -⟩ :=
    (run_screens_reading waiting (.fixed leaping) () .unbounded).leaping (by decide)
  exact ⟨time, htaken, hmillis⟩

/-- A reading before the epoch that is not refused: the deployer is asked with a time behind it. -/
theorem asked_before_epoch :
    leaping.Before .epoch ∧ (¬ ∃ e, Timestamp.ofInstant leaping = .error e) ∧
    waiting.calls (.fixed leaping) () .unbounded = [⟨500⟩] := by
  have htime : Timestamp.ofInstant leaping = .ok ⟨500⟩ := rfl
  refine ⟨by decide, fun ⟨e, he⟩ => ?_, calls_of_headerOut htime ⟨rfl, rfl⟩⟩
  rw [htime] at he
  cases he

end Trigger
end DeployTrigger
