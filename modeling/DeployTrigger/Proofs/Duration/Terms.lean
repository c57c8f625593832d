import DeployTrigger.Proofs.Numeral
import DeployTrigger.Time.Duration.Units

/-!
Amounts of units between blanks, such as `1m 30s`. A reader steps through the digits of an amount and
the letters of its unit, and its terms are the amounts (`termsFrom_amounts`).
-/
namespace DeployTrigger.Duration

section Letters
variable {c : Char}

theorem toNat_of_isLetter (h : isLetter c = true) :
    (65 ≤ c.toNat ∧ c.toNat ≤ 122) ∨ c = 'µ' := by
  rw [isLetter, Bool.or_eq_true, decide_eq_true_eq] at h
  refine h.imp_left fun h => ?_
  change (decide (65 ≤ c.val ∧ c.val ≤ 90) || (decide (97 ≤ c.val) && decide (c.val ≤ 122))) =
    true at h
  simp only [Bool.or_eq_true, Bool.and_eq_true, decide_eq_true_eq, UInt32.le_iff_toNat_le] at h
  change (65 ≤ c.toNat ∧ c.toNat ≤ 90) ∨ (97 ≤ c.toNat ∧ c.toNat ≤ 122) at h
  omega

theorem isDigit_of_isLetter (h : isLetter c = true) : c.isDigit = false := by
  obtain hrange | rfl := toNat_of_isLetter h
  · refine Bool.eq_false_iff.mpr fun hd => ?_
    have hdigit := toNat_of_isDigit hd
    omega
  · decide

theorem isBlank_of_isLetter (h : isLetter c = true) : isBlank c = false := by
  obtain hrange | rfl := toNat_of_isLetter h
  · exact contains_blank_of_visible (by omega) (by omega)
  · decide

end Letters

/-- So many of a unit, under one of the names of the unit. -/
structure Amount where
  count : Nat
  unit : TimeUnit
  name : String

namespace Amount

def text (a : Amount) : String := decimal a.count ++ a.name

def term (a : Amount) : Term := ⟨a.count, none, a.name⟩

/-- Seconds, or nanoseconds of a small unit. -/
def value (a : Amount) : Nat := a.count * a.unit.scale

/-- The name is one of the unit, made of letters. -/
structure Named (a : Amount) : Prop where
  unit : TimeUnit.ofName? a.name = some a.unit
  nonempty : a.name.toList ≠ []
  letters : ∀ c ∈ a.name.toList, isLetter c = true

end Amount

section Reading
variable {n : Nat} {out : List Term} {ds ls rest : List Char} {c : Char} {place next : Place}

theorem termsFrom_of_step (h : place.step c = some (next, none)) :
    termsFrom place out (c :: rest) = termsFrom next out rest := by
  simp only [termsFrom, h]

theorem termsFrom_of_term {t : Term} (h : place.step c = some (next, some t)) :
    termsFrom place out (c :: rest) = termsFrom next (t :: out) rest := by
  simp only [termsFrom, h]

theorem termsFrom_whole (hd : ∀ d ∈ ds, d.isDigit = true) (hlt : digitsFrom n ds < UInt64.size) :
    termsFrom (.whole n) out (ds ++ rest) = termsFrom (.whole (digitsFrom n ds)) out rest := by
  induction ds generalizing n with
  | nil => rfl
  | cons d ds ih =>
    have hdigit : d.isDigit = true := hd d List.mem_cons_self
    have hfits : n * 10 + digitValue d < UInt64.size :=
      Nat.lt_of_le_of_lt (WordNumeral.le_digitsFrom _ ds) hlt
    have hstep : Place.step d (.whole n) = some (.whole (n * 10 + digitValue d), none) := by
      simp only [Place.step, if_pos hdigit, if_pos hfits]
    rw [List.cons_append, termsFrom_of_step hstep]
    exact ih (fun x hx => hd x (List.mem_cons_of_mem d hx)) hlt

/-- A number starts wherever a digit stands behind blanks. -/
theorem termsFrom_number (hd : ∀ d ∈ ds, d.isDigit = true) (hne : ds ≠ [])
    (hlt : digitsFrom 0 ds < UInt64.size) :
    termsFrom .seek out (ds ++ rest) = termsFrom (.whole (digitsFrom 0 ds)) out rest := by
  cases ds with
  | nil => exact absurd rfl hne
  | cons d ds =>
    have hdigit : d.isDigit = true := hd d List.mem_cons_self
    have hfirst : digitsFrom 0 (d :: ds) = digitsFrom (digitValue d) ds := by
      rw [digitsFrom, List.foldl_cons, Nat.zero_mul, Nat.zero_add]
      rfl
    have hstep : Place.step d .seek = some (.whole (digitValue d), none) := by
      simp only [Place.step, if_pos hdigit]
    rw [hfirst] at hlt ⊢
    rw [List.cons_append, termsFrom_of_step hstep]
    exact termsFrom_whole (fun x hx => hd x (List.mem_cons_of_mem d hx)) hlt

theorem termsFrom_unit {part : Option (Nat × Nat)} {letters : List Char}
    (hl : ∀ c ∈ ls, isLetter c = true) :
    termsFrom (.unit n part letters) out (ls ++ rest) =
      termsFrom (.unit n part (ls.reverse ++ letters)) out rest := by
  induction ls generalizing letters with
  | nil => rfl
  | cons c ls ih =>
    have hletter : isLetter c = true := hl c List.mem_cons_self
    have hstep : Place.step c (.unit n part letters) = some (.unit n part (c :: letters), none) := by
      simp [Place.step, isDigit_of_isLetter hletter, isBlank_of_isLetter hletter, hletter]
    rw [List.cons_append, termsFrom_of_step hstep, List.reverse_cons, List.append_assoc]
    exact ih fun x hx => hl x (List.mem_cons_of_mem c hx)

theorem termsFrom_name (hl : ∀ c ∈ ls, isLetter c = true) (hne : ls ≠ []) :
    termsFrom (.whole n) out (ls ++ rest) = termsFrom (.unit n none ls.reverse) out rest := by
  cases ls with
  | nil => exact absurd rfl hne
  | cons c ls =>
    have hletter : isLetter c = true := hl c List.mem_cons_self
    have hstep : Place.step c (.whole n) = some (.unit n none [c], none) := by
      simp [Place.step, isDigit_of_isLetter hletter, isBlank_of_isLetter hletter, hletter]
    rw [List.cons_append, termsFrom_of_step hstep, List.reverse_cons]
    exact termsFrom_unit fun x hx => hl x (List.mem_cons_of_mem c hx)

theorem termsFrom_amount {a : Amount} (ha : a.Named) (hlt : a.count < UInt64.size) :
    termsFrom .seek out (a.text.toList ++ rest) =
      termsFrom (.unit a.count none a.name.toList.reverse) out rest := by
  have hvalue := WordNumeral.digitsFrom_toDigits a.count
  have hdigits : ∀ d ∈ Nat.toDigits 10 a.count, d.isDigit = true :=
    fun d => Nat.isDigit_of_mem_toDigits (by decide) (by decide)
  have htext : a.text.toList = Nat.toDigits 10 a.count ++ a.name.toList := by
    rw [Amount.text, String.toList_append, decimal, numeral, String.toList_ofList]
  rw [htext, List.append_assoc, termsFrom_number hdigits Nat.toDigits_ne_nil (by rwa [hvalue]),
    hvalue, termsFrom_name ha.letters ha.nonempty]

/-- Amounts between blanks are read as their terms. -/
theorem termsFrom_amounts {as : List Amount} (ha : ∀ a ∈ as, a.Named)
    (hlt : ∀ a ∈ as, a.count < UInt64.size) (hne : as ≠ []) :
    termsFrom .seek out (" ".intercalate (as.map Amount.text)).toList =
      ((as.map Amount.term).reverse ++ out, true) := by
  induction as generalizing out with
  | nil => exact absurd rfl hne
  | cons a as ih =>
    have hfirst : ∀ rest, termsFrom .seek out (a.text.toList ++ rest) = _ := fun rest =>
      termsFrom_amount (ha a List.mem_cons_self) (hlt a List.mem_cons_self)
    have hterm : (⟨a.count, none, String.ofList a.name.toList.reverse.reverse⟩ : Term) = a.term := by
      rw [List.reverse_reverse, String.ofList_toList]
      rfl
    cases as with
    | nil =>
      have hlast := hfirst []
      rw [List.append_nil, termsFrom, hterm] at hlast
      rw [List.map_singleton, String.intercalate_singleton, hlast]
      rfl
    | cons b as =>
      have hblank : Place.step ' ' (.unit a.count none a.name.toList.reverse) =
          some (.seek, some a.term) := by
        rw [← hterm]
        rfl
      have hrest := @ih (a.term :: out) (fun x hx => ha x (List.mem_cons_of_mem a hx))
        (fun x hx => hlt x (List.mem_cons_of_mem a hx)) (List.cons_ne_nil b as)
      have htext : (" ".intercalate ((a :: b :: as).map Amount.text)).toList =
          a.text.toList ++ ' ' :: (" ".intercalate ((b :: as).map Amount.text)).toList := by
        rw [List.map_cons, List.map_cons, String.intercalate_cons_cons, String.toList_append,
          String.toList_append, List.append_assoc]
        rfl
      have hterms : ((a :: b :: as).map Amount.term).reverse ++ out =
          ((b :: as).map Amount.term).reverse ++ a.term :: out := by
        rw [List.map_cons, List.reverse_cons, List.append_assoc]
        rfl
      rw [htext, hfirst, termsFrom_of_term hblank, hrest, hterms]

end Reading

end DeployTrigger.Duration
