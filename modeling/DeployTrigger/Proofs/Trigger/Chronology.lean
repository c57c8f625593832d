import DeployTrigger.Proofs.Trigger.Epoch
import DeployTrigger.Proofs.Trigger.Replay

/-!
Timestamps against the instants of the calendar. A timestamp has an instant up to the last millisecond
of the calendar. An instant that is neither before the epoch nor in a leap second has a timestamp, which
is less than a millisecond behind it. Leap seconds apart, the order of instants is that of their
timestamps, so a clock that does not go back gives timestamps that do not (`timestamps_follow_clock`).
-/
namespace DeployTrigger

namespace Instant
variable {s t u i : Instant}

/-- The last instant of the calendar that is not in a leap second. -/
def last : Instant := ⟨8210266876799, 999999999, by decide, by decide, by decide⟩

theorem millis_last : last.millis = 8210266876799999 := rfl

/-- Nanoseconds from the epoch. -/
def sinceEpoch (t : Instant) : Int := t.secs * 1000000000 + t.nanos

/-- Neither before the epoch nor in a leap second. -/
structure Regular (t : Instant) : Prop where
  notBefore : ¬ t.Before epoch
  notLeap : t.nanos < 1000000000

/-- The instant `i` is `t` rounded down to the millisecond. -/
structure RoundsDown (t i : Instant) : Prop where
  regular : i.Regular
  whole : i.nanos % 1000000 = 0
  notAbove : ¬ t.Before i
  near : t.sinceEpoch < i.sinceEpoch + 1000000

theorem not_before_trans (h : ¬ t.Before s) (h' : ¬ u.Before t) : ¬ u.Before s := by
  simp only [Before] at *
  omega

/-- Only the earlier instant has to be outside of leap seconds. -/
theorem millis_le (h : ¬ t.Before s) (hs : s.nanos < 1000000000) : s.millis ≤ t.millis := by
  simp only [Before] at h
  simp only [millis]
  omega

theorem Regular.secs_nonneg (h : t.Regular) : 0 ≤ t.secs := by
  have hbefore := h.notBefore
  rw [before_epoch_iff] at hbefore
  omega

theorem Regular.millis_nonneg (h : t.Regular) : 0 ≤ t.millis := by
  have hsecs := h.secs_nonneg
  rw [millis]
  omega

theorem Regular.roundsDown (h : t.Regular) (hsecs : i.secs = t.secs)
    (hnanos : i.nanos = t.nanos / 1000000 * 1000000) : t.RoundsDown i := by
  have hlow := h.secs_nonneg
  have hhigh := h.notLeap
  constructor
  · constructor
    · rw [before_epoch_iff]
      omega
    · omega
  · omega
  · simp only [Before]
    omega
  · simp only [sinceEpoch]
    omega

end Instant

namespace Timestamp
variable {time a b : Timestamp} {s t : Instant}

theorem isSome_toInstant?_iff (time : Timestamp) :
    time.toInstant?.isSome ↔ (time.millis.toNat : Int) ≤ Instant.last.millis := by
  rw [toInstant?, Instant.ofMillis?, Instant.ofSeconds?, Instant.millis_last]
  split
  · simp
    omega
  · simp
    omega

theorem exists_ofInstant (h : t.Regular) : ∃ time, ofInstant t = .ok time :=
  ⟨_, if_pos h.millis_nonneg⟩

theorem exists_toInstant? (h : t.Regular) (htime : ofInstant t = .ok time) :
    ∃ i, time.toInstant? = some i ∧ t.RoundsDown i := by
  have hmillis := ofInstant_eq_ok_iff.mp htime
  have hnanos := h.notLeap
  have hupper := t.upper
  have hsome : time.toInstant?.isSome := by
    rw [isSome_toInstant?_iff, hmillis, Instant.millis_last, Instant.millis]
    omega
  obtain ⟨i, hi⟩ := Option.isSome_iff_exists.mp hsome
  obtain ⟨hsecs, hrest⟩ := of_toInstant? hi
  rw [Instant.millis] at hmillis
  have hmod : time.millis.toNat % 1000 = t.nanos / 1000000 := by omega
  refine ⟨i, hi, h.roundsDown ?_ ?_⟩
  · omega
  · rw [hrest, hmod]

theorem le_of_not_before (h : ¬ t.Before s) (hs : s.nanos < 1000000000)
    (ha : ofInstant s = .ok a) (hb : ofInstant t = .ok b) : a ≤ b := by
  have hle := Instant.millis_le h hs
  rw [← ofInstant_eq_ok_iff.mp ha, ← ofInstant_eq_ok_iff.mp hb] at hle
  exact UInt64.le_iff_toNat_le.mpr (by omega)

end Timestamp

/-- The first `n` readings are outside of leap seconds, and none is before the one in front of it. -/
structure Supply.Onward (readings : Supply Instant) (n : Nat) : Prop where
  notLeap : ∀ i < n, (readings.nth i).nanos < 1000000000
  notBack : ∀ i, i + 1 < n → ¬ (readings.nth (i + 1)).Before (readings.nth i)

namespace Supply.Onward
variable {readings : Supply Instant} {n m i j : Nat}

theorem next (h : readings.Onward (n + 1)) : readings.next.2.Onward n where
  notLeap i hi := by
    rw [nth_next]
    exact h.notLeap (i + 1) (by omega)
  notBack i hi := by
    rw [nth_next, nth_next]
    exact h.notBack (i + 1) (by omega)

theorem mono (h : readings.Onward n) (hm : m ≤ n) : readings.Onward m where
  notLeap i hi := h.notLeap i (by omega)
  notBack i hi := h.notBack i (by omega)

theorem not_before (h : readings.Onward n) (hij : i ≤ j) (hj : j < n) :
    ¬ (readings.nth j).Before (readings.nth i) := by
  induction hij with
  | refl => simp [Instant.Before]
  | step _ ih => exact Instant.not_before_trans (ih (by omega)) (h.notBack _ hj)

theorem le (h : readings.Onward n) (hij : i ≤ j) (hj : j < n) {a b : Timestamp}
    (ha : Timestamp.ofInstant (readings.nth i) = .ok a)
    (hb : Timestamp.ofInstant (readings.nth j) = .ok b) : a ≤ b :=
  Timestamp.le_of_not_before (h.not_before hij hj) (h.notLeap i (by omega)) ha hb

end Supply.Onward

namespace Trigger
variable {σ : Type} {readings : Supply Instant} {sinks : List Sink} {time : Timestamp}

theorem exists_reading_of_announced (h : time ∈ announcements readings sinks) :
    ∃ i < sinks.length, Timestamp.ofInstant (readings.nth i) = .ok time := by
  obtain ⟨⟨sink, i⟩, hmem, hannounced⟩ := List.mem_filterMap.mp h
  obtain ⟨-, hi, -⟩ := List.mem_zipIdx hmem
  exact ⟨i, by omega, (announced?_eq_some_iff.mp hannounced).1⟩

theorem pairwise_announcements (h : readings.Onward sinks.length) :
    (announcements readings sinks).Pairwise (· ≤ ·) := by
  induction sinks generalizing readings with
  | nil => exact List.Pairwise.nil
  | cons sink rest ih =>
    rw [announcements_cons, List.pairwise_append]
    refine ⟨?_, ih h.next, ?_⟩
    · cases announced? readings.first sink <;> simp
    · intro a ha b hb
      obtain ⟨hfirst, -⟩ := announced?_eq_some_iff.mp (Option.mem_toList.mp ha)
      obtain ⟨i, hi, hlater⟩ := exists_reading_of_announced hb
      rw [Supply.nth_next] at hlater
      exact h.le (Nat.zero_le _) (Nat.succ_lt_succ hi) hfirst hlater

/-- The calls are those of the announcements up to some run, which are in order. -/
theorem pairwise_calls (t : Trigger σ) (clock : Clock) (state : σ)
    (h : clock.readings.Onward sinks.length) {r : Run (σ × List Timestamp)}
    (hr : r ∈ t.recorded.runs clock (state, []) sinks) : r.state.2.Pairwise (· ≤ ·) := by
  obtain ⟨i, hi, hget⟩ := List.mem_iff_getElem.mp hr
  have hlt : i < sinks.length := by rwa [length_runs] at hi
  obtain ⟨r', hr', hbooked⟩ := exists_booked t.recorded clock (state, []) sinks ⟨i, hlt⟩
  have hsame : r = r' := by
    rw [List.getElem?_eq_getElem hi, hget] at hr'
    exact Option.some.inj hr'
  have hcalls : r.state.2 = announcements clock.readings (sinks.take (i + 1)) := by
    rw [hsame, hbooked.asks]
    change (t.deployer.recorded.after (state, []) _).2 = _
    rw [Deployer.after_recorded, List.nil_append]
  rw [hcalls]
  exact pairwise_announcements (h.mono (List.length_take_le' _ _))

/-- Timestamps and the calendar's instants stand for each other, up to the part of a millisecond that a
timestamp leaves out, and runs by a clock that does not go back are for timestamps that do not. -/
theorem timestamps_follow_clock :
    (∀ time : Timestamp,
      (time.toInstant?.isSome ↔ (time.millis.toNat : Int) ≤ Instant.last.millis) ∧
      ∀ i, time.toInstant? = some i → Timestamp.ofInstant i = .ok time) ∧
    (∀ t : Instant, t.Regular → ∃ time i, Timestamp.ofInstant t = .ok time ∧
      time.toInstant? = some i ∧ t.RoundsDown i) ∧
    (∀ s t : Instant, s.Regular → t.Regular → ¬ t.Before s → ∃ a b,
      Timestamp.ofInstant s = .ok a ∧ Timestamp.ofInstant t = .ok b ∧ a ≤ b) ∧
    ∀ (σ : Type) (t : Trigger σ) (clock : Clock) (state : σ) (sinks : List Sink),
      clock.readings.Onward sinks.length →
      (∀ i j a b, i ≤ j → j < sinks.length → Timestamp.ofInstant (clock.readings.nth i) = .ok a →
        Timestamp.ofInstant (clock.readings.nth j) = .ok b → a ≤ b) ∧
      ∀ r ∈ t.recorded.runs clock (state, []) sinks, r.state.2.Pairwise (· ≤ ·) := by
  refine ⟨fun time => ⟨Timestamp.isSome_toInstant?_iff time, ?_⟩, ?_, ?_, ?_⟩
  · exact fun i hi => Timestamp.ofInstant_toInstant hi
  · intro t ht
    obtain ⟨time, htime⟩ := Timestamp.exists_ofInstant ht
    obtain ⟨i, hi, hrounded⟩ := Timestamp.exists_toInstant? ht htime
    exact ⟨time, i, htime, hi, hrounded⟩
  · intro s t hs ht h
    obtain ⟨a, ha⟩ := Timestamp.exists_ofInstant hs
    obtain ⟨b, hb⟩ := Timestamp.exists_ofInstant ht
    exact ⟨a, b, ha, hb, Timestamp.le_of_not_before h hs.notLeap ha hb⟩
  · intro σ t clock state sinks honward
    refine ⟨fun i j a b hij hj ha hb => honward.le hij hj ha hb, fun r hr => ?_⟩
    exact pairwise_calls t clock state honward hr

/-- The second reading is in the same millisecond as the first one, the last one is the end of the
calendar. -/
def lateReadings : Supply Instant :=
  ⟨⟨1700000000, 123456789, by decide, by decide, by decide⟩,
    [⟨1700000000, 123999999, by decide, by decide, by decide⟩, .last]⟩

theorem onward_lateReadings : lateReadings.Onward 3 where
  notLeap i hi := by
    have hcases : i = 0 ∨ i = 1 ∨ i = 2 := by omega
    obtain rfl | rfl | rfl := hcases <;> decide
  notBack i hi := by
    have hcases : i = 0 ∨ i = 1 := by omega
    obtain rfl | rfl := hcases <;> decide

theorem late_readings_in_order :
    (⟨8210266876799999⟩ : Timestamp).toInstant?.isSome ∧
    ¬ (⟨8210266876800000⟩ : Timestamp).toInstant?.isSome ∧
    (∃ time i, Timestamp.ofInstant .last = .ok time ∧ time.toInstant? = some i ∧
      Instant.last.RoundsDown i) ∧
    ∀ r ∈ waiting.recorded.runs (.ofReadings lateReadings) ((), [])
        [.unbounded, .unbounded, .unbounded], r.state.2.Pairwise (· ≤ ·) := by
  obtain ⟨hdated, hrounded, -, hruns⟩ := timestamps_follow_clock
  refine ⟨(hdated _).1.mpr (by decide), fun h => ?_, hrounded .last ⟨by decide, by decide⟩, ?_⟩
  · exact absurd ((hdated _).1.mp h) (by decide)
  · exact (hruns Unit waiting (.ofReadings lateReadings) () [.unbounded, .unbounded, .unbounded]
      onward_lateReadings).2

end Trigger
end DeployTrigger
