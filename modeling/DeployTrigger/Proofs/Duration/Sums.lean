import DeployTrigger.Proofs.Duration.Units

/-!
What a text of whole numbers with units comes to. The reader adds in seconds and nanoseconds; here the
sum is one number of nanoseconds. An amount is added exactly or refused, but for a small unit that
fills the last second up, with which the reader breaks down (`Sums`, `ofUnits_spells`).
-/
namespace DeployTrigger.Duration

/-- A unit in nanoseconds. -/
def TimeUnit.nanos : TimeUnit → Nat
  | nano => 1
  | micro => 1000
  | milli => 1000000
  | second => 1000000000
  | minute => 60 * 1000000000
  | hour => 60 * 60 * 1000000000
  | day => 24 * 60 * 60 * 1000000000
  | week => 7 * 24 * 60 * 60 * 1000000000
  | month => 2630016 * 1000000000
  | year => 31557600 * 1000000000

/-- The first number of nanoseconds that no duration has. -/
def limit : Nat := UInt64.size * 1000000000

namespace Amount

def nanos (a : Amount) : Nat := a.count * a.unit.nanos

/-- Digits and one of the names of the unit. -/
structure Spelled (a : Amount) (ds : List Char) : Prop where
  nonempty : ds ≠ []
  digits : ∀ d ∈ ds, d.isDigit = true
  count : digitsFrom 0 ds = a.count
  name : a.name ∈ a.unit.names

end Amount

/-- The exact sum of amounts, in nanoseconds. -/
def sum : List Amount → Nat
  | [] => 0
  | a :: as => a.nanos + sum as

/-- Amounts with at least one blank between two of them. -/
inductive Spells : List Amount → List Char → Prop where
  | one {a : Amount} {ds : List Char} (ha : a.Spelled ds) : Spells [a] (ds ++ a.name.toList)
  | cons {a : Amount} {as : List Amount} {ds cs : List Char} (ha : a.Spelled ds) (gap : Nat)
      (h : Spells as cs) :
      Spells (a :: as) (ds ++ (a.name.toList ++ (' ' :: List.replicate gap ' ' ++ cs)))

/-- An amount fits on a sum: together they are a duration, and a small unit leaves 64 bits for the
nanoseconds. -/
structure Fits (s : Nat) (a : Amount) : Prop where
  sum : s + a.nanos < limit
  nanos : a.unit.inSeconds = false → s % 1000000000 + a.nanos < UInt64.size

/-- An amount in a small unit fills the last second up. -/
structure Meets (s : Nat) (a : Amount) : Prop where
  small : a.unit.inSeconds = false
  last : limit - 1000000000 ≤ s
  sum : s + a.nanos = limit

/-- What becomes of amounts that are added to a sum. -/
inductive Sums : Nat → List Amount → Except ReadError Nat → Prop where
  | nil (s : Nat) : Sums s [] (.ok s)
  | fits {s : Nat} {a : Amount} {as : List Amount} {r : Except ReadError Nat} (ha : Fits s a)
      (h : Sums (s + a.nanos) as r) : Sums s (a :: as) r
  | meets {s : Nat} {a : Amount} (as : List Amount) (ha : Meets s a) :
      Sums s (a :: as) (.error .overrun)
  | refused {s : Nat} {a : Amount} (as : List Amount) (ha : ¬ Fits s a) (hm : ¬ Meets s a) :
      Sums s (a :: as) (.error .refused)

/-- From the last second below, a sum that came out so far meets 2⁶⁴ seconds in a small unit. -/
def Overruns (as : List Amount) : Prop :=
  ∃ before a after, as = before ++ a :: after ∧ Sums 0 before (.ok (sum before)) ∧
    Meets (sum before) a

section Exactly
variable {s : Nat} {a : Amount} {as : List Amount} {r : Except ReadError Nat}

theorem sum_cons (a : Amount) (as : List Amount) : sum (a :: as) = a.nanos + sum as := rfl

theorem Meets.not_fits (h : Meets s a) : ¬ Fits s a := by
  intro hf
  have hlt := hf.sum
  rw [h.sum] at hlt
  exact Nat.lt_irrefl _ hlt

theorem nanos_eq (u : TimeUnit) :
    u.nanos = if u.inSeconds then u.scale * 1000000000 else u.scale := by
  cases u <;> rfl

theorem Amount.nanos_eq (a : Amount) :
    a.nanos = if a.unit.inSeconds then a.value * 1000000000 else a.value := by
  rw [Amount.nanos, Duration.nanos_eq, Amount.value]
  split
  · rw [Nat.mul_assoc]
  · rfl

theorem Amount.count_le_nanos (a : Amount) : a.count ≤ a.nanos := by
  have hpos : 0 < a.unit.nanos := by cases a.unit <;> decide
  exact Nat.le_mul_of_pos_right a.count hpos

theorem Amount.count_le_value (a : Amount) : a.count ≤ a.value := by
  have hpos : 0 < a.unit.scale := by cases a.unit <;> decide
  exact Nat.le_mul_of_pos_right a.count hpos

/-- Amounts are added exactly as far as they are added at all. -/
theorem Sums.eq_sum {n : Nat} (h : Sums s as (.ok n)) : n = s + sum as := by
  generalize hr : Except.ok n = r at h
  induction h with
  | nil s =>
    cases hr
    rfl
  | fits _ _ ih => rw [ih hr, sum_cons, Nat.add_assoc]
  | meets => cases hr
  | refused => cases hr

theorem Sums.unique {r' : Except ReadError Nat} (h : Sums s as r) (h' : Sums s as r') : r = r' := by
  induction h with
  | nil s =>
    cases h'
    rfl
  | fits ha _ ih =>
    cases h' with
    | fits _ h' => exact ih h'
    | meets _ hm => exact absurd ha hm.not_fits
    | refused _ hn _ => exact absurd ha hn
  | meets _ hm =>
    cases h' with
    | fits ha _ => exact absurd ha hm.not_fits
    | meets => rfl
    | refused _ _ hn => exact absurd hm hn
  | refused _ hn hn' =>
    cases h' with
    | fits ha _ => exact absurd ha hn
    | meets _ hm => exact absurd hm hn'
    | refused => rfl

/-- With a sum below 2³² seconds every amount fits. -/
theorem sums_of_small (h : s + sum as < UInt32.size * 1000000000) : Sums s as (.ok (s + sum as)) := by
  induction as generalizing s with
  | nil => exact .nil s
  | cons a as ih =>
    rw [sum_cons] at h ⊢
    have hfits : Fits s a := by
      rw [UInt32.size] at h
      constructor
      · rw [limit, UInt64.size]
        omega
      · intro _
        rw [UInt64.size]
        omega
    rw [← Nat.add_assoc] at h ⊢
    exact .fits hfits (ih h)

theorem sums_overrun_split : Sums s as (.error .overrun) ↔
    ∃ before a after, as = before ++ a :: after ∧ Sums s before (.ok (s + sum before)) ∧
      Meets (s + sum before) a := by
  constructor
  · intro h
    generalize hr : Except.error ReadError.overrun = r at h
    induction h with
    | nil => cases hr
    | @fits s a as _ ha _ ih =>
      obtain ⟨before, b, after, has, hbefore, hb⟩ := ih hr
      refine ⟨a :: before, b, after, by rw [has]; rfl, ?_, ?_⟩
      · rw [sum_cons, ← Nat.add_assoc]
        exact .fits ha hbefore
      · rw [sum_cons, ← Nat.add_assoc]
        exact hb
    | @meets s a as ha => exact ⟨[], a, as, rfl, .nil s, ha⟩
    | refused => cases hr
  · intro h
    obtain ⟨before, a, after, rfl, hbefore, ha⟩ := h
    induction before generalizing s with
    | nil => exact .meets after ha
    | cons b before ih =>
      rw [sum_cons, ← Nat.add_assoc] at hbefore ha
      cases hbefore with
      | fits hb hbefore => exact .fits hb (ih hbefore ha)

/-- The reader breaks down on such sums. -/
theorem sums_overrun_iff : Sums 0 as (.error .overrun) ↔ Overruns as := by
  have hsplit := @sums_overrun_split 0 as
  simp only [Nat.zero_add] at hsplit
  exact hsplit

end Exactly

section Adding
variable {d : Duration} {a : Amount} {n : Nat}

theorem word_of_ge (h : ¬ n < UInt64.size) : word n = .error .refused := if_neg h

theorem addScaled_seconds_of_ge (h : ¬ d.secs.toNat + n < UInt64.size) :
    d.addScaled true n = .error .refused := by
  have hnanos := d.nanos_lt
  have hword : d.nanos < UInt64.size := by
    rw [UInt64.size]
    omega
  rw [addScaled]
  by_cases hn : n < UInt64.size
  · simp only [word_of_lt hn, bind, Except.bind, if_true, add, Nat.add_zero, word_of_lt hword,
      if_neg (show ¬ 1000000000 < d.nanos by omega), word_of_ge h]
  · simp only [word_of_ge hn, bind, Except.bind]

/-- Nanoseconds are added by seconds and a rest, whether the reader carries early or late. -/
theorem addScaled_nanos_of_lt (hnanos : d.nanos + n < UInt64.size)
    (hsecs : d.secs.toNat + (d.nanos + n) / 1000000000 < UInt64.size) :
    ∃ d', d.addScaled false n = .ok d' ∧ d'.toNanos = d.toNanos + n := by
  have hn : n < UInt64.size := by omega
  have hzero : (0 : Nat) < UInt64.size := by decide
  simp only [addScaled, word_of_lt hn, bind, Except.bind, Bool.false_eq_true, if_false, add,
    word_of_lt hnanos, Nat.zero_add]
  by_cases hcarry : 1000000000 < d.nanos + n
  · have hword : (d.nanos + n) / 1000000000 < UInt64.size := by omega
    have hne : ¬ d.nanos + n = 1000000000 := by omega
    simp only [if_pos hcarry, word_of_lt hword, word_of_lt hsecs, settle, if_neg hne]
    have hback : (UInt64.ofNat (d.secs.toNat + (d.nanos + n) / 1000000000)).toNat = _ :=
      UInt64.toNat_ofNat_of_lt hsecs
    refine ⟨_, rfl, ?_⟩
    simp only [toNanos]
    omega
  simp only [if_neg hcarry, word_of_lt hzero, Nat.add_zero, word_of_lt d.secs.toNat_lt, settle]
  by_cases hone : d.nanos + n = 1000000000
  · have hnext : d.secs.toNat + 1 < UInt64.size := by omega
    simp only [if_pos hone, if_pos hnext]
    have hback : (UInt64.ofNat (d.secs.toNat + 1)).toNat = _ := UInt64.toNat_ofNat_of_lt hnext
    refine ⟨_, rfl, ?_⟩
    simp only [toNanos, ofSeconds]
    omega
  · simp only [if_neg hone]
    refine ⟨_, rfl, ?_⟩
    simp only [toNanos, UInt64.ofNat_toNat]
    omega

theorem addScaled_nanos_of_full (hone : d.nanos + n = 1000000000)
    (hsecs : d.secs.toNat + 1 = UInt64.size) : d.addScaled false n = .error .overrun := by
  have hn : n < UInt64.size := by
    rw [UInt64.size]
    omega
  have hzero : (0 : Nat) < UInt64.size := by decide
  have hword : (1000000000 : Nat) < UInt64.size := by decide
  have hfull : ¬ d.secs.toNat + 1 < UInt64.size := by omega
  simp only [addScaled, word_of_lt hn, bind, Except.bind, Bool.false_eq_true, if_false, add, hone,
    word_of_lt hword, Nat.lt_irrefl, word_of_lt hzero, Nat.add_zero, word_of_lt d.secs.toNat_lt,
    settle, if_true, if_neg hfull]

theorem addScaled_nanos_of_ge
    (h : ¬ (d.nanos + n < UInt64.size ∧ d.secs.toNat + (d.nanos + n) / 1000000000 < UInt64.size))
    (hne : d.nanos + n ≠ 1000000000) : d.addScaled false n = .error .refused := by
  rw [addScaled]
  by_cases hn : n < UInt64.size
  · simp only [word_of_lt hn, bind, Except.bind, Bool.false_eq_true, if_false, add]
    by_cases hnanos : d.nanos + n < UInt64.size
    · have hsecs : ¬ d.secs.toNat + (d.nanos + n) / 1000000000 < UInt64.size :=
        fun hlt => h ⟨hnanos, hlt⟩
      have hlt := d.secs.toNat_lt
      have hcarry : 1000000000 < d.nanos + n := by
        change d.secs.toNat < UInt64.size at hlt
        omega
      simp only [word_of_lt hnanos, if_pos hcarry, Nat.zero_add]
      by_cases hword : (d.nanos + n) / 1000000000 < UInt64.size
      · simp only [word_of_lt hword, word_of_ge hsecs]
      · simp only [word_of_ge hword]
    · simp only [word_of_ge hnanos]
  · simp only [word_of_ge hn, bind, Except.bind]

/-- Adding an amount to a duration against adding it to a sum. -/
theorem addTerm_cases (ha : a.Named) :
    (Fits d.toNanos a ∧ ∃ d', addTerm d a.term = .ok d' ∧ d'.toNanos = d.toNanos + a.nanos) ∨
    (Meets d.toNanos a ∧ addTerm d a.term = .error .overrun) ∨
    (¬ Fits d.toNanos a ∧ ¬ Meets d.toNanos a ∧ addTerm d a.term = .error .refused) := by
  have hsecs := d.secs.toNat_lt
  change d.secs.toNat < UInt64.size at hsecs
  have hnanos := d.nanos_lt
  have hrest : d.toNanos % 1000000000 = d.nanos := by
    rw [toNanos]
    omega
  have hvalue := a.nanos_eq
  rw [addTerm_term ha]
  cases hu : a.unit.inSeconds with
  | true =>
    rw [hu, if_pos rfl] at hvalue
    have hmeets : ¬ Meets d.toNanos a := fun h => Bool.noConfusion (hu.symm.trans h.small)
    by_cases hlt : d.secs.toNat + a.value < UInt64.size
    · refine .inl ⟨⟨?_, fun h => Bool.noConfusion (hu.symm.trans h)⟩, _, addScaled_seconds hlt, ?_⟩
      · rw [hvalue, toNanos, limit]
        omega
      · have hback : (UInt64.ofNat (d.secs.toNat + a.value)).toNat = _ :=
          UInt64.toNat_ofNat_of_lt hlt
        simp only [toNanos, hvalue]
        omega
    · refine .inr (.inr ⟨fun h => hlt ?_, hmeets, addScaled_seconds_of_ge hlt⟩)
      have hsum := h.sum
      rw [hvalue, toNanos, limit] at hsum
      omega
  | false =>
    rw [hu, if_neg (by decide)] at hvalue
    by_cases hlt : d.nanos + a.value < UInt64.size ∧
        d.secs.toNat + (d.nanos + a.value) / 1000000000 < UInt64.size
    · have hadded := addScaled_nanos_of_lt hlt.1 hlt.2
      rw [← hvalue] at hadded
      refine .inl ⟨⟨?_, fun _ => ?_⟩, by rwa [hvalue] at hadded ⊢⟩
      · rw [hvalue, toNanos, limit]
        omega
      · rw [hrest, hvalue]
        exact hlt.1
    have hfits : ¬ Fits d.toNanos a := by
      intro h
      have hsum := h.sum
      have hword := h.nanos hu
      rw [hvalue, toNanos, limit] at hsum
      rw [hrest, hvalue] at hword
      exact hlt ⟨hword, by omega⟩
    by_cases hone : d.nanos + a.value = 1000000000
    · have hfull : d.secs.toNat + 1 = UInt64.size := by
        rw [UInt64.size] at *
        omega
      refine .inr (.inl ⟨⟨hu, ?_, ?_⟩, addScaled_nanos_of_full hone hfull⟩)
      · rw [toNanos, limit]
        omega
      · rw [hvalue, toNanos, limit]
        omega
    · refine .inr (.inr ⟨hfits, fun h => hone ?_, addScaled_nanos_of_ge hlt hone⟩)
      have hlast := h.last
      have hsum := h.sum
      rw [toNanos, limit] at hlast
      rw [hvalue, toNanos, limit] at hsum
      omega

end Adding

section Reading
variable {a : Amount} {as : List Amount} {n : Nat} {out : List Term} {ds cs rest : List Char}

theorem Amount.Spelled.named (h : a.Spelled ds) : a.Named := by
  have hnames : ∀ u : TimeUnit, ∀ name ∈ u.names, TimeUnit.ofName? name = some u ∧
      name.toList ≠ [] ∧ name.toList.all isLetter = true := by
    intro u
    cases u <;> decide
  exact Duration.named a.unit a.name (hnames a.unit a.name h.name) a.count

theorem termsFrom_whole_of_ge (hd : ∀ d ∈ ds, d.isDigit = true) (hn : n < UInt64.size)
    (hge : ¬ digitsFrom n ds < UInt64.size) :
    termsFrom (.whole n) out (ds ++ rest) = (out, false) := by
  induction ds generalizing n with
  | nil => exact absurd hn hge
  | cons d ds ih =>
    have hdigit : d.isDigit = true := hd d List.mem_cons_self
    rw [List.cons_append]
    by_cases hfits : n * 10 + digitValue d < UInt64.size
    · have hstep : Place.step d (.whole n) = some (.whole (n * 10 + digitValue d), none) := by
        simp only [Place.step, if_pos hdigit, if_pos hfits]
      rw [termsFrom_of_step hstep]
      exact ih (fun x hx => hd x (List.mem_cons_of_mem d hx)) hfits hge
    · have hstep : Place.step d (.whole n) = none := by
        simp only [Place.step, if_pos hdigit, if_neg hfits]
      simp only [termsFrom, hstep]

/-- A number beyond 64 bits ends the reading. -/
theorem termsFrom_number_of_ge (hd : ∀ d ∈ ds, d.isDigit = true)
    (hge : ¬ digitsFrom 0 ds < UInt64.size) :
    termsFrom .seek out (ds ++ rest) = (out, false) := by
  cases ds with
  | nil => exact absurd (by decide) hge
  | cons d ds =>
    have hdigit : d.isDigit = true := hd d List.mem_cons_self
    have hrange := toNat_of_isDigit hdigit
    have hfirst : digitsFrom 0 (d :: ds) = digitsFrom (digitValue d) ds := by
      rw [digitsFrom, List.foldl_cons, Nat.zero_mul, Nat.zero_add]
      rfl
    have hsmall : digitValue d < UInt64.size := by
      rw [digitValue, UInt64.size]
      omega
    have hstep : Place.step d .seek = some (.whole (digitValue d), none) := by
      simp only [Place.step, if_pos hdigit]
    rw [hfirst] at hge
    rw [List.cons_append, termsFrom_of_step hstep]
    exact termsFrom_whole_of_ge (fun x hx => hd x (List.mem_cons_of_mem d hx)) hsmall hge

theorem termsFrom_gap (gap : Nat) :
    termsFrom .seek out (List.replicate gap ' ' ++ rest) = termsFrom .seek out rest := by
  induction gap with
  | zero => rfl
  | succ gap ih =>
    have hstep : Place.step ' ' .seek = some (.seek, none) := rfl
    rw [List.replicate_succ, List.cons_append, termsFrom_of_step hstep, ih]

theorem termsFrom_spelled (h : a.Spelled ds) (hlt : a.count < UInt64.size) :
    termsFrom .seek out (ds ++ (a.name.toList ++ rest)) =
      termsFrom (.unit a.count none a.name.toList.reverse) out rest := by
  have hcount := h.count
  rw [termsFrom_number h.digits h.nonempty (by rwa [hcount]), hcount,
    termsFrom_name h.named.letters h.named.nonempty]

/-- Whether a number is read at all. -/
def Amount.inRange (a : Amount) : Bool := a.count < UInt64.size

/-- The reader finds the amounts up to the first number beyond 64 bits. -/
theorem termsFrom_spells (h : Spells as cs) : termsFrom .seek out cs =
    (((as.takeWhile Amount.inRange).map Amount.term).reverse ++ out, as.all Amount.inRange) := by
  have hterm (a : Amount) :
      (⟨a.count, none, String.ofList a.name.toList.reverse.reverse⟩ : Term) = a.term := by
    rw [List.reverse_reverse, String.ofList_toList]
    rfl
  induction h generalizing out with
  | @one a ds ha =>
    by_cases hlt : a.count < UInt64.size
    · have hread := @termsFrom_spelled a out ds [] ha hlt
      rw [List.append_nil] at hread
      rw [hread, termsFrom, hterm]
      simp [Amount.inRange, hlt]
    · rw [termsFrom_number_of_ge ha.digits (by rwa [ha.count])]
      simp [Amount.inRange, hlt]
  | @cons a as ds cs ha gap _ ih =>
    by_cases hlt : a.count < UInt64.size
    · have hblank : Place.step ' ' (.unit a.count none a.name.toList.reverse) =
          some (.seek, some a.term) := by
        rw [← hterm]
        rfl
      rw [termsFrom_spelled ha hlt, List.cons_append, termsFrom_of_term hblank, termsFrom_gap, ih]
      simp [Amount.inRange, hlt]
    · rw [termsFrom_number_of_ge ha.digits (by rwa [ha.count])]
      simp [Amount.inRange, hlt]

end Reading

section Runs
variable {d : Duration} {a : Amount} {as : List Amount} {s : String}

/-- A duration of so many nanoseconds, or the failure. -/
def Amounts (result : Except ReadError Duration) : Except ReadError Nat → Prop
  | .ok n => ∃ d, result = .ok d ∧ d.toNanos = n
  | .error e => result = .error e

/-- A number beyond 64 bits is more than any unit of it leaves room for. -/
theorem not_fits_of_ge (h : ¬ a.count < UInt64.size) (n : Nat) : ¬ Fits n a ∧ ¬ Meets n a := by
  have hcount := a.count_le_nanos
  have hvalue := a.count_le_value
  have hnanos := a.nanos_eq
  constructor
  · intro hf
    cases hu : a.unit.inSeconds with
    | false =>
      have hword := hf.nanos hu
      omega
    | true =>
      have hsum := hf.sum
      rw [hnanos, hu, if_pos rfl, limit] at hsum
      omega
  · intro hm
    have hlast := hm.last
    have hsum := hm.sum
    rw [limit, UInt64.size] at *
    omega

/-- By induction on the amounts: each is added to the duration as it is added to the sum. -/
theorem sums_foldlM (ha : ∀ a ∈ as, a.Named) : ∃ r, Sums d.toNanos as r ∧
    Amounts (((as.takeWhile Amount.inRange).map Amount.term).foldlM addTerm d >>= fun d =>
      if as.all Amount.inRange then pure d else throw .refused) r := by
  induction as generalizing d with
  | nil => exact ⟨_, .nil _, d, rfl, rfl⟩
  | cons a as ih =>
    by_cases hlt : a.count < UInt64.size
    · have hrange : a.inRange = true := by simpa [Amount.inRange] using hlt
      rw [List.takeWhile_cons_of_pos hrange, List.map_cons, List.foldlM_cons, bind_assoc,
        List.all_cons, hrange, Bool.true_and]
      obtain ⟨hfits, d', hadd, hnanos⟩ | ⟨hmeets, hadd⟩ | ⟨hfits, hmeets, hadd⟩ :=
        addTerm_cases (d := d) (ha a List.mem_cons_self)
      · obtain ⟨r, hr, hd⟩ := @ih d' fun x hx => ha x (List.mem_cons_of_mem a hx)
        rw [hnanos] at hr
        rw [hadd]
        exact ⟨r, .fits hfits hr, hd⟩
      · rw [hadd]
        exact ⟨_, .meets as hmeets, rfl⟩
      · rw [hadd]
        exact ⟨_, .refused as hfits hmeets, rfl⟩
    · have hrange : ¬ a.inRange = true := by simpa [Amount.inRange] using hlt
      obtain ⟨hfits, hmeets⟩ := not_fits_of_ge hlt d.toNanos
      refine ⟨_, .refused as hfits hmeets, ?_⟩
      rw [List.takeWhile_cons_of_neg hrange, List.all_cons, Bool.eq_false_iff.mpr hrange]
      rfl

theorem Spells.named {cs : List Char} (h : Spells as cs) : as ≠ [] ∧ ∀ a ∈ as, a.Named := by
  induction h with
  | one ha => exact ⟨List.cons_ne_nil _ _, by simpa using ha.named⟩
  | cons ha _ _ ih =>
    exact ⟨List.cons_ne_nil _ _, List.forall_mem_cons.mpr ⟨ha.named, ih.2⟩⟩

/-- The name of a unit is in the text, so the text is no bare number. -/
theorem Spells.exists_letter {cs : List Char} (h : Spells as cs) : ∃ c ∈ cs, isLetter c = true := by
  have hname {a : Amount} {ds : List Char} (ha : a.Spelled ds) :
      ∃ c ∈ a.name.toList, isLetter c = true := by
    obtain ⟨c, hc⟩ := List.exists_mem_of_ne_nil _ ha.named.nonempty
    exact ⟨c, hc, ha.named.letters c hc⟩
  cases h with
  | one ha =>
    obtain ⟨c, hc, hletter⟩ := hname ha
    exact ⟨c, List.mem_append_right _ hc, hletter⟩
  | cons ha _ _ =>
    obtain ⟨c, hc, hletter⟩ := hname ha
    exact ⟨c, List.mem_append_right _ (List.mem_append_left _ hc), hletter⟩

/-- A text of amounts is read as what they sum up to. -/
theorem ofUnits_spells (h : Spells as s.toList) : ∃ r, Sums 0 as r ∧ Amounts (ofUnits s) r := by
  obtain ⟨hne, hnamed⟩ := h.named
  obtain ⟨c, hc, hletter⟩ := h.exists_letter
  have hbare : s ≠ "0" := by
    intro hs
    rw [hs, show "0".toList = ['0'] from rfl, List.mem_singleton] at hc
    rw [hc] at hletter
    exact absurd hletter (by decide)
  obtain ⟨r, hr, hd⟩ := sums_foldlM (d := zero) hnamed
  refine ⟨r, hr, ?_⟩
  have hlast : (as.all Amount.inRange &&
      !(((as.takeWhile Amount.inRange).map Amount.term).reverse).isEmpty) = as.all Amount.inRange := by
    cases as with
    | nil => exact absurd rfl hne
    | cons a as => cases ha : a.inRange <;> simp [ha]
  rw [ofUnits, if_neg hbare, termsFrom_spells h, List.append_nil]
  dsimp only
  rw [List.reverse_reverse, hlast]
  exact hd

end Runs

end DeployTrigger.Duration
