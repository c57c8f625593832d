import DeployTrigger.Proofs.Duration.Terms

/-!
Durations and their sums of units. Amounts whose total is in range are added up exactly, and a
duration is written with amounts that make it up, so it is read back from its own sum
(`ofUnits_inUnits`).
-/
namespace DeployTrigger.Duration

section Adding
variable {d : Duration} {n : Nat}

theorem word_of_lt (h : n < UInt64.size) : word n = .ok n := if_pos h

theorem addScaled_seconds (h : d.secs.toNat + n < UInt64.size) :
    d.addScaled true n = .ok ⟨UInt64.ofNat (d.secs.toNat + n), d.nanos, d.nanos_lt⟩ := by
  have hnanos := d.nanos_lt
  have hword : d.nanos < UInt64.size := by
    rw [UInt64.size]
    omega
  simp only [addScaled, add, word_of_lt (Nat.lt_of_le_of_lt (Nat.le_add_left n _) h), bind,
    Except.bind, if_true, Nat.add_zero, word_of_lt hword, if_neg (show ¬ 1000000000 < d.nanos by omega),
    word_of_lt h, settle, if_neg (show ¬ d.nanos = 1000000000 by omega), Nat.mod_eq_of_lt hnanos]

theorem addScaled_nanos (h : d.nanos + n < 1000000000) :
    d.addScaled false n = .ok ⟨d.secs, d.nanos + n, h⟩ := by
  have hword : d.nanos + n < UInt64.size := by
    rw [UInt64.size]
    omega
  have hn : n < UInt64.size := by omega
  have hzero : (0 : Nat) < UInt64.size := by decide
  simp only [addScaled, add, word_of_lt hn, bind, Except.bind, Bool.false_eq_true, if_false,
    word_of_lt hword, if_neg (show ¬ 1000000000 < d.nanos + n by omega), word_of_lt hzero,
    Nat.add_zero, word_of_lt d.secs.toNat_lt, settle,
    if_neg (show ¬ d.nanos + n = 1000000000 by omega), UInt64.ofNat_toNat, Nat.mod_eq_of_lt h]

theorem addTerm_term {a : Amount} (ha : a.Named) :
    addTerm d a.term = d.addScaled a.unit.inSeconds a.value := by
  simp only [addTerm, Amount.term, ha.unit, Amount.value]
  cases addScaled d a.unit.inSeconds (a.count * a.unit.scale) <;> rfl

/-- The seconds, or nanoseconds, of some amounts together. -/
def total : List Amount → Nat
  | [] => 0
  | a :: as => a.value + total as

theorem total_nil : total [] = 0 := rfl

theorem total_cons (a : Amount) (as : List Amount) : total (a :: as) = a.value + total as := rfl

theorem foldlM_seconds {as : List Amount} (ha : ∀ a ∈ as, a.Named)
    (hu : ∀ a ∈ as, a.unit.inSeconds = true) (h : d.secs.toNat + total as < UInt64.size) :
    (as.map Amount.term).foldlM addTerm d =
      .ok ⟨UInt64.ofNat (d.secs.toNat + total as), d.nanos, d.nanos_lt⟩ := by
  induction as generalizing d with
  | nil =>
    have hsecs : UInt64.ofNat (d.secs.toNat + total []) = d.secs := UInt64.ofNat_toNat
    rw [hsecs]
    rfl
  | cons a as ih =>
    have htotal := total_cons a as
    have hfirst : d.secs.toNat + a.value < UInt64.size := by omega
    have hsum : (UInt64.ofNat (d.secs.toNat + a.value)).toNat = d.secs.toNat + a.value :=
      UInt64.toNat_ofNat_of_lt hfirst
    have hrest := ih (d := ⟨UInt64.ofNat (d.secs.toNat + a.value), d.nanos, d.nanos_lt⟩)
      (fun x hx => ha x (List.mem_cons_of_mem a hx)) (fun x hx => hu x (List.mem_cons_of_mem a hx))
      (by rw [hsum]; omega)
    rw [List.map_cons, List.foldlM_cons, addTerm_term (ha a List.mem_cons_self),
      hu a List.mem_cons_self, addScaled_seconds hfirst, htotal, ← Nat.add_assoc]
    rw [hsum] at hrest
    exact hrest

theorem foldlM_nanos {as : List Amount} (ha : ∀ a ∈ as, a.Named)
    (hu : ∀ a ∈ as, a.unit.inSeconds = false) (h : d.nanos + total as < 1000000000) :
    (as.map Amount.term).foldlM addTerm d = .ok ⟨d.secs, d.nanos + total as, h⟩ := by
  induction as generalizing d with
  | nil => rfl
  | cons a as ih =>
    have htotal := total_cons a as
    have hfirst : d.nanos + a.value < 1000000000 := by omega
    have hrest := ih (d := ⟨d.secs, d.nanos + a.value, hfirst⟩)
      (fun x hx => ha x (List.mem_cons_of_mem a hx)) (fun x hx => hu x (List.mem_cons_of_mem a hx))
      (by change d.nanos + a.value + total as < _; omega)
    rw [List.map_cons, List.foldlM_cons, addTerm_term (ha a List.mem_cons_self),
      hu a List.mem_cons_self, addScaled_nanos hfirst]
    refine Eq.trans hrest ?_
    simp only [htotal, Nat.add_assoc]

theorem count_le_total {as : List Amount} {a : Amount} (h : a ∈ as) : a.count ≤ total as := by
  induction as with
  | nil => exact absurd h List.not_mem_nil
  | cons b as ih =>
    rw [total_cons]
    obtain rfl | h := List.mem_cons.mp h
    · have hscale : 0 < a.unit.scale := by cases a.unit <;> decide
      have hvalue : a.count ≤ a.value := Nat.le_mul_of_pos_right a.count hscale
      omega
    · have hrest := ih h
      omega

/-- Amounts of nothing add nothing. -/
theorem total_filter (as : List Amount) : total (as.filter (·.count ≠ 0)) = total as := by
  induction as with
  | nil => rfl
  | cons a as ih =>
    have htotal := total_cons a as
    by_cases hzero : a.count = 0
    · have hvalue : a.value = 0 := by rw [Amount.value, hzero, Nat.zero_mul]
      rw [List.filter_cons_of_neg (by simpa using hzero), ih, htotal, hvalue, Nat.zero_add]
    · rw [List.filter_cons_of_pos (by simpa using hzero), total_cons, ih, htotal]

end Adding

section Writing

/-- A unit in singular or plural. -/
def plural (unit : String) (n : Nat) : String := unit ++ if n = 1 then "" else "s"

/-- A number of seconds by its units from years down. -/
def seconds (secs : Nat) : List Amount :=
  let inYear := secs % 31557600
  let inMonth := inYear % 2630016
  let inDay := inMonth % 86400
  [⟨secs / 31557600, .year, plural "year" (secs / 31557600)⟩,
    ⟨inYear / 2630016, .month, plural "month" (inYear / 2630016)⟩,
    ⟨inMonth / 86400, .day, plural "day" (inMonth / 86400)⟩,
    ⟨inDay / 3600, .hour, "h"⟩, ⟨inDay % 3600 / 60, .minute, "m"⟩, ⟨inDay % 60, .second, "s"⟩]

/-- A part of a second by its units from milliseconds down. -/
def fractions (nanos : Nat) : List Amount :=
  [⟨nanos / 1000000, .milli, "ms"⟩, ⟨nanos / 1000 % 1000, .micro, "us"⟩,
    ⟨nanos % 1000, .nano, "ns"⟩]

/-- The amounts that a duration is written with. -/
def written (d : Duration) : List Amount :=
  if (seconds d.secs.toNat ++ fractions d.nanos).all (·.count = 0) then [⟨0, .second, "s"⟩]
  else (seconds d.secs.toNat ++ fractions d.nanos).filter (·.count ≠ 0)

theorem filterMap_items (as : List Amount) :
    (as.map fun a => if a.count = 0 then none else some a.text).filterMap id =
      (as.filter (·.count ≠ 0)).map Amount.text := by
  induction as with
  | nil => rfl
  | cons a as ih =>
    by_cases hzero : a.count = 0
    · simpa [hzero] using ih
    · simpa [hzero] using ih

theorem pluralItem_eq (unit : String) (n : Nat) :
    pluralItem unit n = if n = 0 then none else some (decimal n ++ plural unit n) := by
  rw [pluralItem, plural, String.append_assoc]

theorem inUnits_eq (d : Duration) : d.inUnits = " ".intercalate (d.written.map Amount.text) := by
  have hitems : d.inUnits =
      if ((seconds d.secs.toNat ++ fractions d.nanos).filter (·.count ≠ 0)).map Amount.text = []
      then "0s"
      else " ".intercalate
        (((seconds d.secs.toNat ++ fractions d.nanos).filter (·.count ≠ 0)).map Amount.text) := by
    rw [← filterMap_items]
    simp only [inUnits, pluralItem_eq, List.isEmpty_iff]
    rfl
  rw [hitems, written]
  by_cases hall : (seconds d.secs.toNat ++ fractions d.nanos).all (·.count = 0) = true
  · have hnone : (seconds d.secs.toNat ++ fractions d.nanos).filter (·.count ≠ 0) = [] := by
      simpa [List.filter_eq_nil_iff] using hall
    rw [if_pos hall, hnone]
    rfl
  · have hsome : (seconds d.secs.toNat ++ fractions d.nanos).filter (·.count ≠ 0) ≠ [] := by
      simpa [List.filter_eq_nil_iff] using hall
    rw [if_neg hall, if_neg (by simpa using hsome)]

theorem named (u : TimeUnit) (name : String)
    (h : TimeUnit.ofName? name = some u ∧ name.toList ≠ [] ∧ name.toList.all isLetter = true)
    (n : Nat) : Amount.Named ⟨n, u, name⟩ := ⟨h.1, h.2.1, List.all_eq_true.mp h.2.2⟩

theorem named_plural {u : TimeUnit} {unit : String} {n : Nat}
    (hone : Amount.Named ⟨n, u, unit ++ ""⟩) (hmany : Amount.Named ⟨n, u, unit ++ "s"⟩) :
    Amount.Named ⟨n, u, plural unit n⟩ := by
  rw [plural]
  split
  · exact hone
  · exact hmany

theorem seconds_named (n : Nat) : ∀ a ∈ seconds n, a.Named := by
  simp only [seconds, List.forall_mem_cons]
  refine ⟨?_, ?_, ?_, named .hour "h" (by decide) _, named .minute "m" (by decide) _,
    named .second "s" (by decide) _, List.forall_mem_nil _⟩
  · exact named_plural (named .year _ (by decide) _) (named .year _ (by decide) _)
  · exact named_plural (named .month _ (by decide) _) (named .month _ (by decide) _)
  · exact named_plural (named .day _ (by decide) _) (named .day _ (by decide) _)

theorem fractions_named (n : Nat) : ∀ a ∈ fractions n, a.Named := by
  simp only [fractions, List.forall_mem_cons]
  exact ⟨named .milli "ms" (by decide) _, named .micro "us" (by decide) _,
    named .nano "ns" (by decide) _, List.forall_mem_nil _⟩

theorem total_seconds (n : Nat) : total (seconds n) = n := by
  rw [seconds, total_cons, total_cons, total_cons, total_cons, total_cons, total_cons, total_nil]
  simp only [Amount.value, TimeUnit.scale]
  omega

theorem total_fractions (n : Nat) : total (fractions n) = n := by
  rw [fractions, total_cons, total_cons, total_cons, total_nil]
  simp only [Amount.value, TimeUnit.scale]
  omega

theorem seconds_inSeconds (n : Nat) : ∀ a ∈ seconds n, a.unit.inSeconds = true := by
  simp [seconds, TimeUnit.inSeconds]

theorem fractions_inSeconds (n : Nat) : ∀ a ∈ fractions n, a.unit.inSeconds = false := by
  simp [fractions, TimeUnit.inSeconds]

/-- A duration is written with units of seconds that make up its seconds and smaller units that make
up its part of a second. -/
theorem written_eq (d : Duration) : ∃ large small, d.written = large ++ small ∧
    d.written ≠ [] ∧ (∀ a ∈ d.written, a.Named) ∧
    (∀ a ∈ large, a.unit.inSeconds = true) ∧ total large = d.secs.toNat ∧
    (∀ a ∈ small, a.unit.inSeconds = false) ∧ total small = d.nanos := by
  have hlarge := total_seconds d.secs.toNat
  have hsmall := total_fractions d.nanos
  rw [← total_filter] at hlarge hsmall
  rw [written]
  split
  · rename_i hall
    have hnone : (seconds d.secs.toNat ++ fractions d.nanos).filter (·.count ≠ 0) = [] := by
      simpa [List.filter_eq_nil_iff] using hall
    rw [List.filter_append, List.append_eq_nil_iff] at hnone
    rw [hnone.1] at hlarge
    rw [hnone.2] at hsmall
    refine ⟨[⟨0, .second, "s"⟩], [], rfl, List.cons_ne_nil _ _, ?_, ?_, hlarge, ?_, hsmall⟩
    · intro a ha
      rw [List.mem_singleton.mp ha]
      exact named .second "s" (by decide) 0
    · intro a ha
      rw [List.mem_singleton.mp ha]
      rfl
    · exact List.forall_mem_nil _
  · rename_i hall
    refine ⟨_, _, List.filter_append .., ?_, ?_, ?_, hlarge, ?_, hsmall⟩
    · simpa [List.filter_eq_nil_iff] using hall
    · intro a ha
      obtain ha | ha := List.mem_append.mp (List.mem_filter.mp ha).1
      · exact seconds_named _ a ha
      · exact fractions_named _ a ha
    · exact fun a ha => seconds_inSeconds _ a (List.mem_filter.mp ha).1
    · exact fun a ha => fractions_inSeconds _ a (List.mem_filter.mp ha).1

/-- Every duration is read back from its own sum of units. -/
theorem ofUnits_inUnits (d : Duration) : ofUnits d.inUnits = .ok d := by
  obtain ⟨large, small, hwritten, hne, hnamed, hlarge, hsecs, hsmall, hnanos⟩ := written_eq d
  have hcount : ∀ a ∈ d.written, a.count < UInt64.size := by
    intro a ha
    rw [hwritten] at ha
    have hlt := d.secs.toNat_lt
    have hnanos_lt := d.nanos_lt
    obtain ha | ha := List.mem_append.mp ha
    · exact Nat.lt_of_le_of_lt (count_le_total ha) (hsecs ▸ hlt)
    · have hle := count_le_total ha
      rw [UInt64.size]
      omega
  have hterms : termsFrom .seek [] d.inUnits.toList = ((d.written.map Amount.term).reverse, true) := by
    rw [inUnits_eq, termsFrom_amounts hnamed hcount hne, List.append_nil]
  have hzero : d.inUnits ≠ "0" := by
    intro h
    have hbare : (termsFrom .seek [] "0".toList).2 = false := by decide
    rw [h] at hterms
    rw [hterms] at hbare
    exact Bool.noConfusion hbare
  have hsum : (d.written.map Amount.term).foldlM addTerm zero = .ok d := by
    rw [hwritten] at hnamed
    have hfirst := foldlM_seconds (d := zero) (fun a ha => hnamed a (List.mem_append_left small ha))
      hlarge (by rw [hsecs]; simpa [zero] using d.secs.toNat_lt)
    have hrest := foldlM_nanos (d := ⟨d.secs, 0, by decide⟩)
      (fun a ha => hnamed a (List.mem_append_right large ha)) hsmall
      (by rw [hnanos]; simpa using d.nanos_lt)
    simp only [hsecs, zero, UInt64.toNat_zero, Nat.zero_add, UInt64.ofNat_toNat] at hfirst
    simp only [hnanos, Nat.zero_add] at hrest
    rw [hwritten, List.map_append, List.foldlM_append, zero, hfirst]
    exact hrest
  have hsome : (d.written.map Amount.term).isEmpty = false := by simpa using hne
  simp only [ofUnits, if_neg hzero, hterms, List.reverse_reverse, hsum, List.isEmpty_reverse, hsome]
  rfl

end Writing

end DeployTrigger.Duration
