import DeployTrigger.Proofs.Calendar
import DeployTrigger.Proofs.Numeral
import DeployTrigger.Time.Rfc3339
import DeployTrigger.Time.Rfc3339.Reader

/-!
Instants are read back from their printed form. Each field is taken from the front of the text where
it stands, years outside of four digits behind their sign and leap seconds as second 60.
-/
namespace DeployTrigger.Rfc3339

section Readers
variable {α β : Type} {ds cs rest : List Char} {c : Char} {n : Nat}

theorem run_bind_of_ok {r : Reader α} {a : α} (h : r.run cs = .ok (a, rest)) (f : α → Reader β) :
    (r >>= f).run cs = (f a).run rest := by
  rw [StateT.run_bind, h]
  rfl

theorem run_skipBlanks (h : isBlank c = false) :
    skipBlanks.run (c :: cs) = .ok ((), c :: cs) := by
  have hdrop : (c :: cs).dropWhile isBlank = c :: cs := List.dropWhile_cons_of_neg (by simp [h])
  change Except.ok ((), (c :: cs).dropWhile isBlank) = _
  rw [hdrop]

theorem run_separator (h : isBlank c = false) : (separator c).run (c :: cs) = .ok ((), cs) := by
  rw [separator, run_bind_of_ok (run_skipBlanks h)]
  change (if c = c then _ else _ : Reader Unit).run _ = _
  rw [if_pos rfl]
  rfl

/-- The digits that a number of a width starts with. -/
def digitsWithin (cs : List Char) : Option Nat → List Char
  | some w => (cs.take w).takeWhile Char.isDigit
  | none => cs.takeWhile Char.isDigit

theorem run_number_of_digits {width : Option Nat} (hds : digitsWithin cs width = ds)
    (hne : ds ≠ []) (hlt : digitsFrom 0 ds < UInt64.size / 2) :
    (number width).run cs = .ok (digitsFrom 0 ds, cs.drop ds.length) := by
  have hsome : ¬ ds.isEmpty = true := by simpa using hne
  have hcs : cs ≠ [] := by
    rintro rfl
    cases width <;> exact hne (hds.symm.trans (by simp [digitsWithin]))
  unfold number
  rw [run_bind_of_ok (a := cs) rfl]
  split
  · exact absurd rfl hcs
  · cases width <;>
    · simp only [digitsWithin] at hds
      simp only [hds]
      rw [if_neg hsome, if_neg (Nat.not_le.mpr hlt)]
      rfl

theorem noDigit_take (w : Nat) (h : NoDigit rest) : NoDigit (rest.take w) := by
  intro c hc
  cases rest with
  | nil => simp at hc
  | cons d rest =>
    cases w with
    | zero => simp at hc
    | succ w => exact h c hc

/-- Digits are a number if they fill the width or nothing else of the number follows. -/
theorem run_number {w : Nat} (hd : ∀ d ∈ ds, d.isDigit = true) (hne : ds ≠ [])
    (hw : ds.length = w ∨ (ds.length < w ∧ NoDigit rest)) (hlt : digitsFrom 0 ds < UInt64.size / 2) :
    (number (some w)).run (ds ++ rest) = .ok (digitsFrom 0 ds, rest) := by
  have hle : ds.length ≤ w := by omega
  have hstop : NoDigit (rest.take (w - ds.length)) := by
    obtain hfull | ⟨-, hrest⟩ := hw
    · rw [hfull, Nat.sub_self, List.take_zero]
      exact fun c hc => absurd hc (by simp)
    · exact noDigit_take _ hrest
  have hds : digitsWithin (ds ++ rest) (some w) = ds := by
    rw [digitsWithin, List.take_append, List.take_of_length_le hle, takeWhile_digits hd hstop]
  rw [run_number_of_digits hds hne hlt, List.drop_left]

theorem run_number_none (hd : ∀ d ∈ ds, d.isDigit = true) (hne : ds ≠ []) (hr : NoDigit rest)
    (hlt : digitsFrom 0 ds < UInt64.size / 2) :
    (number none).run (ds ++ rest) = .ok (digitsFrom 0 ds, rest) := by
  have hds : digitsWithin (ds ++ rest) none = ds := takeWhile_digits hd hr
  rw [run_number_of_digits hds hne hlt, List.drop_left]

theorem run_number_padded {w n : Nat} (hw : 0 < w) (hn : n < Nat.pow 10 w) (hlt : n < UInt64.size / 2) :
    (number (some w)).run ((paddedDecimal w n).toList ++ rest) = .ok (n, rest) := by
  have hvalue := digitsFrom_paddedDecimal w n
  rw [run_number (fun _ => isDigit_of_mem_paddedDecimal) (paddedDecimal_ne_nil w n)
    (.inl (length_paddedDecimal hw hn)) (by rwa [hvalue]), hvalue]

theorem run_skipBlanks_padded (w n : Nat) :
    skipBlanks.run ((paddedDecimal w n).toList ++ rest) =
      .ok ((), (paddedDecimal w n).toList ++ rest) := by
  have hne := paddedDecimal_ne_nil w n
  have hdigit : ∀ d ∈ (paddedDecimal w n).toList, d.isDigit = true :=
    fun _ => isDigit_of_mem_paddedDecimal
  cases hds : (paddedDecimal w n).toList with
  | nil => exact absurd hds hne
  | cons d ds =>
    rw [hds] at hdigit
    exact run_skipBlanks (contains_blank_of_isDigit (hdigit d List.mem_cons_self))

theorem run_field {low high n : Nat} (hl : low ≤ n) (hh : n ≤ high) (htwo : high < 100) :
    (field low high).run ((paddedDecimal 2 n).toList ++ rest) = .ok (n, rest) := by
  have hrange : (low ≤ n && n ≤ high) = true := by simp [hl, hh]
  have hlt : n < UInt64.size / 2 := by
    rw [UInt64.size]
    omega
  have hfits : n < Nat.pow 10 2 := Nat.lt_of_le_of_lt hh htwo
  rw [field, run_bind_of_ok (run_skipBlanks_padded 2 n),
    run_bind_of_ok (run_number_padded (by decide) hfits hlt), if_pos hrange]
  rfl

theorem head_paddedDecimal (w n : Nat) :
    ∃ d ds, (paddedDecimal w n).toList = d :: ds ∧ d.isDigit = true := by
  have hdigit : ∀ d ∈ (paddedDecimal w n).toList, d.isDigit = true :=
    fun _ => isDigit_of_mem_paddedDecimal
  cases hds : (paddedDecimal w n).toList with
  | nil => exact absurd hds (paddedDecimal_ne_nil w n)
  | cons d ds => exact ⟨d, ds, rfl, hdigit d (hds ▸ List.mem_cons_self)⟩

theorem run_number_sign {w n : Nat} (hr : NoDigit rest) (hlt : n < UInt64.size / 2) :
    (number none).run ((paddedDecimal w n).toList ++ rest) = .ok (n, rest) := by
  have hvalue := digitsFrom_paddedDecimal w n
  rw [run_number_none (fun _ => isDigit_of_mem_paddedDecimal) (paddedDecimal_ne_nil w n) hr
    (by rwa [hvalue]), hvalue]

/-- Years of the calendar fit. -/
def YearFits (y : Int) : Prop := (-2147483648 ≤ y && y ≤ 2147483647) = true

theorem run_yearField_minus (hn : (number none).run cs = .ok (n, rest)) (hy : YearFits (-n)) :
    yearField.run ('-' :: cs) = .ok (-n, rest) := by
  rw [yearField, run_bind_of_ok (run_skipBlanks (by decide)), run_bind_of_ok (a := '-' :: cs) rfl]
  split
  · rename_i hminus
    rw [← (List.cons.inj hminus).2, run_bind_of_ok (a := ()) rfl, run_bind_of_ok hn,
      run_bind_of_ok (a := (-n : Int)) rfl]
    exact congrArg (fun r : Reader Int => r.run rest) (if_pos hy)
  · rename_i hplus
    exact absurd (List.cons.inj hplus).1 (by decide)
  · rename_i hother _
    exact absurd rfl (hother cs)

theorem run_yearField_plus (hn : (number none).run cs = .ok (n, rest)) (hy : YearFits n) :
    yearField.run ('+' :: cs) = .ok ((n : Int), rest) := by
  rw [yearField, run_bind_of_ok (run_skipBlanks (by decide)), run_bind_of_ok (a := '+' :: cs) rfl]
  split
  · rename_i hminus
    exact absurd (List.cons.inj hminus).1 (by decide)
  · rename_i hplus
    rw [← (List.cons.inj hplus).2, run_bind_of_ok (a := ()) rfl, run_bind_of_ok hn,
      run_bind_of_ok (a := (n : Int)) rfl]
    exact congrArg (fun r : Reader Int => r.run rest) (if_pos hy)
  · rename_i hother
    exact absurd rfl (hother cs)

theorem run_yearField_plain (hc : c.isDigit = true)
    (hn : (number (some 4)).run (c :: cs) = .ok (n, rest)) (hy : YearFits n) :
    yearField.run (c :: cs) = .ok ((n : Int), rest) := by
  rw [yearField, run_bind_of_ok (run_skipBlanks (contains_blank_of_isDigit hc)),
    run_bind_of_ok (a := c :: cs) rfl]
  split
  · rename_i hminus
    rw [(List.cons.inj hminus).1] at hc
    exact absurd hc (by decide)
  · rename_i hplus
    rw [(List.cons.inj hplus).1] at hc
    exact absurd hc (by decide)
  · rw [run_bind_of_ok hn, run_bind_of_ok (a := (n : Int)) rfl]
    exact congrArg (fun r : Reader Int => r.run rest) (if_pos hy)

theorem run_yearField {y : Int} (h : -262143 ≤ y ∧ y ≤ 262142) (hr : NoDigit rest) :
    yearField.run ((year y).toList ++ rest) = .ok (y, rest) := by
  have hy : YearFits y := by
    simp only [YearFits, Bool.and_eq_true, decide_eq_true_eq]
    omega
  have hsmall : y.natAbs < UInt64.size / 2 := by
    rw [UInt64.size]
    omega
  rw [year]
  split
  · have hback : ((y.natAbs : Nat) : Int) = y := by omega
    have hnat : y.toNat = y.natAbs := by omega
    have hfour : y.natAbs < 10000 := by omega
    have hnumber : (number (some 4)).run ((paddedDecimal 4 y.natAbs).toList ++ rest) =
        .ok (y.natAbs, rest) := run_number_padded (by decide) hfour hsmall
    obtain ⟨d, ds, hds, hdigit⟩ := head_paddedDecimal 4 y.natAbs
    rw [hnat, hds]
    rw [hds] at hnumber
    have hread := run_yearField_plain hdigit hnumber (hback.symm ▸ hy)
    rw [hback] at hread
    exact hread
  · rw [String.toList_append, List.append_assoc]
    have hnumber := run_number_sign (w := 4) hr hsmall
    split
    · have hback : -(y.natAbs : Int) = y := by omega
      have hminus : "-".toList = ['-'] := rfl
      have hread := run_yearField_minus hnumber (hback.symm ▸ hy)
      rw [hback] at hread
      rw [hminus, List.singleton_append, hread]
    · have hback : (y.natAbs : Int) = y := by omega
      have hplus : "+".toList = ['+'] := rfl
      have hread := run_yearField_plus hnumber (hback.symm ▸ hy)
      rw [hback] at hread
      rw [hplus, List.singleton_append, hread]

theorem run_fractionField_digits {w n : Nat} (hw : 0 < w ∧ w ≤ 9) (hn : n < Nat.pow 10 w)
    (hr : NoDigit rest) :
    fractionField.run ('.' :: ((paddedDecimal w n).toList ++ rest)) =
      .ok (n * Nat.pow 10 (9 - w), rest) := by
  have hlength := length_paddedDecimal hw.1 hn
  have hused : ((paddedDecimal w n).toList ++ rest).length - rest.length = w := by
    rw [List.length_append, hlength, Nat.add_sub_cancel]
  have hvalue := digitsFrom_paddedDecimal w n
  have hlt : n < UInt64.size / 2 :=
    Nat.lt_of_lt_of_le hn (Nat.le_trans (Nat.pow_le_pow_right (by decide) hw.2) (by decide))
  have hnumber : (number (some 9)).run ((paddedDecimal w n).toList ++ rest) = .ok (n, rest) := by
    have hfills : (paddedDecimal w n).toList.length = 9 ∨
        ((paddedDecimal w n).toList.length < 9 ∧ NoDigit rest) := by
      rw [hlength]
      exact (Nat.eq_or_lt_of_le hw.2).imp_right fun hlt => ⟨hlt, hr⟩
    rw [run_number (fun _ => isDigit_of_mem_paddedDecimal) (paddedDecimal_ne_nil w n) hfills
      (by rwa [hvalue]), hvalue]
  have hdrop : rest.dropWhile Char.isDigit = rest :=
    @dropWhile_digits [] rest (fun d hd => absurd hd List.not_mem_nil) hr
  have hskip : (modify (·.dropWhile Char.isDigit) : Reader PUnit).run rest = .ok ((), rest) :=
    congrArg (fun cs => Except.ok ((), cs)) hdrop
  rw [fractionField, run_bind_of_ok (a := '.' :: ((paddedDecimal w n).toList ++ rest)) rfl]
  split
  · rename_i hdot
    rw [← (List.cons.inj hdot).2, run_bind_of_ok (a := ()) rfl, run_bind_of_ok hnumber,
      run_bind_of_ok (a := rest) rfl, run_bind_of_ok hskip, hused]
    rfl
  · rename_i hother
    exact absurd rfl (hother _)

theorem run_fractionField {n : Nat} (h : n < 1000000000) :
    fractionField.run ((fraction n).toList ++ "+00:00".toList) = .ok (n, "+00:00".toList) := by
  have hr : NoDigit "+00:00".toList := by
    intro c hc
    cases hc
    rfl
  have hdot : ∀ s : String, ("." ++ s).toList = '.' :: s.toList := fun s => by
    rw [String.toList_append]
    rfl
  rw [fraction]
  split
  · rename_i hzero
    rw [hzero]
    rfl
  · split
    · have hthree : n / 1000000 < 1000 := by omega
      have hback : n / 1000000 * 1000000 = n := by omega
      rw [hdot, List.cons_append, run_fractionField_digits (by decide) hthree hr]
      exact congrArg (fun n => Except.ok (n, "+00:00".toList)) hback
    · split
      · have hsix : n / 1000 < 1000000 := by omega
        have hback : n / 1000 * 1000 = n := by omega
        rw [hdot, List.cons_append, run_fractionField_digits (by decide) hsix hr]
        exact congrArg (fun n => Except.ok (n, "+00:00".toList)) hback
      · rw [hdot, List.cons_append, run_fractionField_digits (by decide) h hr]
        exact congrArg (fun n => Except.ok (n, "+00:00".toList)) (Nat.mul_one n)

theorem run_offsetField : offsetField.run "+00:00".toList = .ok (0, []) := by
  rfl

end Readers

/-- The fields that an instant is printed with. -/
def Fields.ofInstant (t : Instant) : Fields :=
  let second := (t.secs % 86400).toNat
  ⟨.ofDays (t.secs / 86400), second / 3600, second / 60 % 60, second % 60 + t.nanos / 1000000000,
    t.nanos % 1000000000, 0⟩

/-- Fields as a text. -/
def Fields.text (f : Fields) : List Char :=
  (year f.date.year).toList ++ '-' :: ((paddedDecimal 2 f.date.month).toList ++
    '-' :: ((paddedDecimal 2 f.date.day).toList ++ 'T' :: ((paddedDecimal 2 f.hour).toList ++
      ':' :: ((paddedDecimal 2 f.minute).toList ++ ':' :: ((paddedDecimal 2 f.second).toList ++
        ((fraction f.nanos).toList ++ "+00:00".toList))))))

theorem toList_print (t : Instant) : (print t).toList = (Fields.ofInstant t).text := by
  have hdash : "-".toList = ['-'] := rfl
  have hcolon : ":".toList = [':'] := rfl
  have hT : "T".toList = ['T'] := rfl
  simp only [print, date, timeOfDay, Fields.ofInstant, Fields.text, String.toList_append, hdash, hcolon,
    hT, List.append_assoc, List.cons_append, List.nil_append]

/-- A year that is not negative starts with a digit or a plus. -/
theorem Fields.head_text {f : Fields} (h : 0 ≤ f.date.year) : f.text.head? ≠ some '-' := by
  rw [Fields.text, year]
  split
  · obtain ⟨d, ds, hds, hdigit⟩ := head_paddedDecimal 4 f.date.year.toNat
    rw [hds]
    rintro ⟨⟩
    exact absurd hdigit (by decide)
  · rw [if_neg (by omega), String.toList_append]
    exact fun hplus => absurd (Option.some.inj hplus) (by decide)

/-- Fields in the ranges that a reader takes. -/
structure Fields.Fits (f : Fields) : Prop where
  year : -262143 ≤ f.date.year ∧ f.date.year ≤ 262142
  month : 1 ≤ f.date.month ∧ f.date.month ≤ 12
  day : 1 ≤ f.date.day ∧ f.date.day ≤ 31
  hour : f.hour ≤ 23
  minute : f.minute ≤ 59
  second : f.second ≤ 60
  nanos : f.nanos < 1000000000
  offset : f.offset = 0

theorem run_fields {f : Fields} (h : f.Fits) : fields.run f.text = .ok (f, []) := by
  have hdash : ∀ cs, NoDigit ('-' :: cs) := by
    rintro cs c ⟨⟩
    rfl
  have hdashBlank : isBlank '-' = false := by decide
  have hcolonBlank : isBlank ':' = false := by decide
  have hfirst : skipBlanks.run "+00:00".toList = .ok ((), "+00:00".toList) := rfl
  rw [fields, Fields.text, run_bind_of_ok (run_yearField h.year (hdash _)),
    run_bind_of_ok (run_separator hdashBlank),
    run_bind_of_ok (run_field h.month.1 h.month.2 (by decide)),
    run_bind_of_ok (run_separator hdashBlank),
    run_bind_of_ok (run_field h.day.1 h.day.2 (by decide)), run_bind_of_ok rfl]
  dsimp only
  rw [if_pos (by decide), run_bind_of_ok (a := ()) rfl,
    run_bind_of_ok (run_field (Nat.zero_le _) h.hour (by decide)),
    run_bind_of_ok (run_separator hcolonBlank),
    run_bind_of_ok (run_field (Nat.zero_le _) h.minute (by decide)),
    run_bind_of_ok (run_separator hcolonBlank),
    run_bind_of_ok (run_field (Nat.zero_le _) h.second (by decide)),
    run_bind_of_ok (run_fractionField h.nanos), run_bind_of_ok hfirst,
    run_bind_of_ok run_offsetField, ← h.offset]
  rfl

theorem fits_ofInstant (t : Instant) : (Fields.ofInstant t).Fits := by
  have hlower := t.lower
  have hupper := t.upper
  have hsubsecond := t.subsecond
  have hvalid := Calendar.isValid_ofDays (t.secs / 86400)
  have hyear := @Calendar.year_ofDays (t.secs / 86400) (by omega)
  simp only [Calendar.Date.isValid, Bool.and_eq_true, decide_eq_true_eq] at hvalid
  obtain ⟨⟨⟨hmonth, hmonth'⟩, hday⟩, hday'⟩ := hvalid
  have hlong : ∀ y m, Calendar.daysInMonth y m ≤ 31 := by
    intro y m
    rw [Calendar.daysInMonth]
    split
    · split <;> decide
    · split <;> decide
  constructor
  · exact hyear
  · exact ⟨hmonth, hmonth'⟩
  · exact ⟨hday, Nat.le_trans hday' (hlong _ _)⟩
  all_goals simp only [Fields.ofInstant]
  all_goals omega

section Instants
variable (t : Instant)

theorem secs_ofInstant : (Fields.ofInstant t).date.toDays * 86400 +
    ((Fields.ofInstant t).hour * 3600 + (Fields.ofInstant t).minute * 60 +
      min (Fields.ofInstant t).second 59 : Nat) - (Fields.ofInstant t).offset = t.secs := by
  have hdays : (Fields.ofInstant t).date.toDays = t.secs / 86400 := Calendar.toDays_ofDays _
  have hsubsecond := t.subsecond
  rw [hdays]
  simp only [Fields.ofInstant]
  omega

theorem nanos_ofInstant : (if (Fields.ofInstant t).second = 60 then
    (Fields.ofInstant t).nanos + 1000000000 else (Fields.ofInstant t).nanos) = t.nanos := by
  have hsubsecond := t.subsecond
  by_cases hleap : (Fields.ofInstant t).second = 60
  · rw [if_pos hleap]
    simp only [Fields.ofInstant] at hleap ⊢
    omega
  · rw [if_neg hleap]
    simp only [Fields.ofInstant] at hleap ⊢
    omega

theorem toInstant_ofInstant : (Fields.ofInstant t).toInstant = .ok t := by
  have hyear := (fits_ofInstant t).year
  have hoffset : ¬ 86400 ≤ (Fields.ofInstant t).offset.natAbs := by
    change ¬ 86400 ≤ (0 : Int).natAbs
    decide
  have hdate : ¬ (!(Fields.ofInstant t).date.isValid || (Fields.ofInstant t).date.year < -262143 ||
      262142 < (Fields.ofInstant t).date.year) = true := by
    have hvalid : (Fields.ofInstant t).date.isValid = true := Calendar.isValid_ofDays _
    simp only [hvalid, Bool.not_true, Bool.false_or, Bool.or_eq_true, decide_eq_true_eq]
    omega
  have hofSeconds : Instant.ofSeconds? t.secs t.nanos = some t :=
    dif_pos ⟨⟨t.lower, t.upper⟩, t.subsecond⟩
  rw [Fields.toInstant, if_neg hdate, if_neg hoffset]
  simp only [secs_ofInstant, nanos_ofInstant, hofSeconds]

end Instants

/-- Every instant of the calendar is read back from its printed form. -/
theorem read_print (t : Instant) : read (print t) = .ok t := by
  have hfields : fields.run (print t).toList = .ok (Fields.ofInstant t, []) := by
    rw [toList_print, run_fields (fits_ofInstant t)]
  rw [read, hfields]
  exact toInstant_ofInstant t

end DeployTrigger.Rfc3339
