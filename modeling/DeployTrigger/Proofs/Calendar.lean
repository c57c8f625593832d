import DeployTrigger.Time.Calendar

/-!
The calendar's two conversions are inverse: every day number is that of its date, and the date is one
that the calendar has. A day of a cycle is taken apart into centuries, spans of four years, years and
days; only the last year of a span has a day more.
-/
namespace DeployTrigger.Calendar

/-- Day `d` of a cycle by centuries, spans of four years, years and days. -/
structure Parts (d century span year day : Int) : Prop where
  eq : d = 36524 * century + 1461 * span + 365 * year + day
  century_le : 0 ≤ century ∧ century ≤ 3
  span_le : 0 ≤ span ∧ span ≤ 24
  year_le : 0 ≤ year ∧ year ≤ 3
  day_le : 0 ≤ day ∧ day ≤ 365
  leap : day = 365 → year = 3 ∧ (span = 24 → century = 3)

variable {d c q w x : Int}

theorem exists_parts (h : 0 ≤ d) (h' : d < 146097) : ∃ c q w x, Parts d c q w x := by
  obtain ⟨c, r, hd, hc, hr, hlast⟩ : ∃ c r : Int, d = 36524 * c + r ∧ (0 ≤ c ∧ c ≤ 3) ∧
      (0 ≤ r ∧ r ≤ 36524) ∧ (r = 36524 → c = 3) := by
    by_cases hend : d = 146096
    · exact ⟨3, 36524, by omega, by omega, by omega, fun _ => rfl⟩
    · exact ⟨d / 36524, d % 36524, by omega, by omega, by omega, by omega⟩
  obtain ⟨w, x, hx, hw, hday, hleap⟩ : ∃ w x : Int, r % 1461 = 365 * w + x ∧ (0 ≤ w ∧ w ≤ 3) ∧
      (0 ≤ x ∧ x ≤ 365) ∧ (x = 365 → w = 3) := by
    by_cases hend : r % 1461 = 1460
    · exact ⟨3, 365, by omega, by omega, by omega, fun _ => rfl⟩
    · exact ⟨r % 1461 / 365, r % 1461 % 365, by omega, by omega, by omega, by omega⟩
  exact ⟨c, r / 1461, w, x, by omega, hc, by omega, hw, hday, by omega⟩

namespace Parts

theorem yearInCycle (h : Parts d c q w x) :
    (d - d / 1460 + d / 36524 - d / 146096) / 365 = 100 * c + 4 * q + w := by
  obtain ⟨hd, hc, hq, hw, hx, hleap⟩ := h
  have hcycle : d / 36524 - d / 146096 = c := by
    by_cases hend : d = 146096
    · omega
    · have hcentury : 1461 * q + 365 * w + x < 36524 := by omega
      have hfirst : d / 36524 = c := by omega
      have hlast : d / 146096 = 0 := by omega
      omega
  have hspan : d / 1460 = 25 * c + q ∨ (d / 1460 = 25 * c + q + 1 ∧ w = 3 ∧ 269 ≤ x) := by omega
  omega

theorem daysBefore {y : Int} (h : Parts d c q w x) (hy : y = 100 * c + 4 * q + w) :
    365 * y + y / 4 - y / 100 = 36524 * c + 1461 * q + 365 * w := by
  obtain ⟨hd, hc, hq, hw, hx, hleap⟩ := h
  have hfour : y / 4 = 25 * c + q := by omega
  have hcentury : y / 100 = c := by omega
  omega

theorem inYear (h : Parts d c q w x) : d - (36524 * c + 1461 * q + 365 * w) = x := by
  have heq := h.eq
  omega

theorem isLeap {y : Int} (h : Parts d c q w x) (hy : y % 400 = 100 * c + 4 * q + w) (hx : x = 365) :
    isLeap (y + 1) = true := by
  obtain ⟨hd, hc, hq, hw, -, hleap⟩ := h
  obtain ⟨hyear, hcentury⟩ := hleap hx
  have hfour : (y + 1) % 4 = 0 := by omega
  by_cases hend : q = 24
  · have hthree := hcentury hend
    have hcycle : (y + 1) % 400 = 0 := by omega
    simp [Calendar.isLeap, hfour, hcycle]
  · have hhundred : (y + 1) % 100 ≠ 0 := by omega
    simp [Calendar.isLeap, hfour, hhundred]

end Parts

/-- Days from 1 March of year 0 to 1 March of a year. -/
def yearStart (y : Int) : Int := 365 * y + y / 4 - y / 100 + y / 400

theorem yearStart_cycle {k r : Int} (h : 0 ≤ r ∧ r < 400) :
    yearStart (r + k * 400) = k * daysPerCycle + (r * 365 + r / 4 - r / 100) := by
  have hfour : (r + k * 400) / 4 = r / 4 + k * 100 := by omega
  have hhundred : (r + k * 400) / 100 = r / 100 + k * 4 := by omega
  have hcycle : (r + k * 400) / 400 = k := by omega
  rw [yearStart, hfour, hhundred, hcycle, daysPerCycle]
  omega

/-- Day `x` of the year that starts in March of year `y`. -/
def ofYearDay (y x : Int) : Date :=
  let fromMarch := (5 * x + 2) / 153
  let month := if fromMarch < 10 then fromMarch + 3 else fromMarch - 9
  ⟨y + (if month ≤ 2 then 1 else 0), month.toNat, (x - (153 * fromMarch + 2) / 5 + 1).toNat⟩

section YearDay
variable {y : Int}

theorem toDays_ofYearDay (h : 0 ≤ x ∧ x ≤ 365) : (ofYearDay y x).toDays =
    yearStart y + x - epochShift := by
  have hcycle : yearStart y = y / 400 * daysPerCycle +
      (y % 400 * 365 + y % 400 / 4 - y % 400 / 100) := by
    have hy : y % 400 + y / 400 * 400 = y := by omega
    have hr : 0 ≤ y % 400 ∧ y % 400 < 400 := by omega
    rw [← yearStart_cycle hr, hy]
  have hrange : 0 ≤ (5 * x + 2) / 153 ∧ (5 * x + 2) / 153 ≤ 11 := by omega
  generalize hm : (5 * x + 2) / 153 = m at hrange
  have hday : ((x - (153 * m + 2) / 5 + 1).toNat : Int) = x - (153 * m + 2) / 5 + 1 := by omega
  by_cases hten : m < 10
  · have hmonth : ((m + 3).toNat : Int) - 3 = m := by omega
    simp only [ofYearDay, Date.toDays, hm, if_pos hten, hday]
    rw [if_neg (by omega), if_neg (by omega), if_pos (by omega), hmonth, Int.add_zero, hcycle]
    omega
  · have hmonth : ((m - 9).toNat : Int) + 9 = m := by omega
    simp only [ofYearDay, Date.toDays, hm, if_neg hten, hday]
    rw [if_pos (by omega), if_pos (by omega), if_neg (by omega), hmonth, Int.add_sub_cancel, hcycle]
    omega

/-- The month that comes so many after March. -/
def monthAfter (m : Int) : Int := if m < 10 then m + 3 else m - 9

theorem daysInMonth_after {m : Int} (h : 0 ≤ m ∧ m < 11) (year : Int) :
    (daysInMonth year (monthAfter m).toNat : Int) =
      if m = 1 ∨ m = 3 ∨ m = 6 ∨ m = 8 then 30 else 31 := by
  have hcases : m = 0 ∨ m = 1 ∨ m = 2 ∨ m = 3 ∨ m = 4 ∨ m = 5 ∨ m = 6 ∨ m = 7 ∨ m = 8 ∨ m = 9 ∨
      m = 10 := by omega
  obtain rfl | rfl | rfl | rfl | rfl | rfl | rfl | rfl | rfl | rfl | rfl := hcases <;> rfl

theorem day_le (h : 0 ≤ x ∧ x ≤ 365) (hleap : x = 365 → isLeap (y + 1) = true) :
    (ofYearDay y x).day ≤ daysInMonth (ofYearDay y x).year (ofYearDay y x).month := by
  have hrange : 0 ≤ (5 * x + 2) / 153 ∧ (5 * x + 2) / 153 ≤ 11 := by omega
  change (x - (153 * ((5 * x + 2) / 153) + 2) / 5 + 1).toNat ≤
    daysInMonth _ (monthAfter ((5 * x + 2) / 153)).toNat
  generalize hm : (5 * x + 2) / 153 = m at hrange
  by_cases hlast : m = 11
  · have hyear : (ofYearDay y x).year = y + 1 := by
      rw [ofYearDay, hm, hlast]
      rfl
    have hfebruary : daysInMonth (ofYearDay y x).year (monthAfter m).toNat =
        if isLeap (y + 1) then 29 else 28 := by
      rw [hyear, hlast]
      rfl
    rw [hfebruary]
    by_cases hx : x = 365
    · rw [if_pos (hleap hx)]
      omega
    · split <;> omega
  · have hlength := daysInMonth_after (m := m) (by omega) (ofYearDay y x).year
    split at hlength <;> omega

theorem isValid_ofYearDay (h : 0 ≤ x ∧ x ≤ 365) (hleap : x = 365 → isLeap (y + 1) = true) :
    (ofYearDay y x).isValid = true := by
  have hday := day_le h hleap
  have hmonth : 1 ≤ (ofYearDay y x).month ∧ (ofYearDay y x).month ≤ 12 := by
    change 1 ≤ (monthAfter _).toNat ∧ (monthAfter _).toNat ≤ 12
    rw [monthAfter]
    split <;> omega
  have hfirst : 1 ≤ (ofYearDay y x).day := by
    change 1 ≤ (x - (153 * ((5 * x + 2) / 153) + 2) / 5 + 1).toNat
    omega
  simp [Date.isValid, hmonth, hday, hfirst]

end YearDay

/-- A day number comes from a day of a year that starts in March. -/
theorem exists_yearDay (days : Int) : ∃ y x, Date.ofDays days = ofYearDay y x ∧
    days = yearStart y + x - epochShift ∧ (0 ≤ x ∧ x ≤ 365) ∧
    (x = 365 → isLeap (y + 1) = true) := by
  have hrange : 0 ≤ (days + epochShift) % 146097 ∧ (days + epochShift) % 146097 < 146097 := by omega
  obtain ⟨c, q, w, x, hparts⟩ := exists_parts hrange.1 hrange.2
  have hyearInCycle : 0 ≤ 100 * c + 4 * q + w ∧ 100 * c + 4 * q + w < 400 := by
    have hcentury := hparts.century_le
    have hspan := hparts.span_le
    have hyear := hparts.year_le
    omega
  refine ⟨100 * c + 4 * q + w + (days + epochShift) / 146097 * 400, x, ?_, ?_, hparts.day_le,
    fun hx => hparts.isLeap ?_ hx⟩
  · simp only [Date.ofDays, daysPerCycle, hparts.yearInCycle, hparts.daysBefore rfl, hparts.inYear]
    rfl
  · have hdivision := Int.mul_ediv_add_emod (days + epochShift) 146097
    have hbefore := hparts.daysBefore rfl
    have hinYear := hparts.inYear
    rw [yearStart_cycle hyearInCycle, daysPerCycle]
    generalize (days + epochShift) % 146097 = d at *
    generalize (days + epochShift) / 146097 = k at *
    omega
  · omega

theorem toDays_ofDays (days : Int) : (Date.ofDays days).toDays = days := by
  obtain ⟨y, x, hdate, hdays, hx, -⟩ := exists_yearDay days
  rw [hdate, toDays_ofYearDay hx, ← hdays]

theorem isValid_ofDays (days : Int) : (Date.ofDays days).isValid = true := by
  obtain ⟨y, x, hdate, -, hx, hleap⟩ := exists_yearDay days
  rw [hdate]
  exact isValid_ofYearDay hx hleap

/-- The calendar's range in days is its range in years. -/
theorem year_ofDays {days : Int} (h : -96465292 ≤ days ∧ days ≤ 95026236) :
    -262143 ≤ (Date.ofDays days).year ∧ (Date.ofDays days).year ≤ 262142 := by
  obtain ⟨y, x, hdate, hdays, hx, -⟩ := exists_yearDay days
  rw [yearStart, epochShift] at hdays
  have hyear : (ofYearDay y x).year = y + (if monthAfter ((5 * x + 2) / 153) ≤ 2 then 1 else 0) := rfl
  rw [hdate, hyear, monthAfter]
  have hlow : -262144 ≤ y := by omega
  have hhigh : y ≤ 262142 := by omega
  have hfirst : y = -262144 → 306 ≤ x := by
    rintro rfl
    omega
  have hlast : y = 262142 → x < 306 := by
    rintro rfl
    omega
  split <;> split <;> omega

theorem year_nonneg {days : Int} (h : 0 ≤ days) : 0 ≤ (Date.ofDays days).year := by
  obtain ⟨y, x, hdate, hdays, hx, -⟩ := exists_yearDay days
  rw [yearStart, epochShift] at hdays
  have hyear : (ofYearDay y x).year = y + (if monthAfter ((5 * x + 2) / 153) ≤ 2 then 1 else 0) := rfl
  have hpos : 0 ≤ y := by omega
  rw [hdate, hyear]
  split <;> omega

end DeployTrigger.Calendar
