import DeployTrigger.Proofs.Lines
import DeployTrigger.Text.CharSet.Blank

/-!
Rows of digits in a text: where they stop, what they are worth and how they begin. No digit is white
space, and a numeral starts with a zero only if it is the zero.
-/
namespace DeployTrigger

section Characters
variable {c : Char}

theorem toNat_of_isDigit (h : c.isDigit = true) : 48 ≤ c.toNat ∧ c.toNat ≤ 57 := by
  simp only [Char.isDigit, Bool.and_eq_true, decide_eq_true_eq, UInt32.le_iff_toNat_le,
    ge_iff_le] at h
  exact h

/-- Nothing between the blank and the first control character above is white space. -/
theorem contains_blank_of_visible (h : 33 ≤ c.toNat) (h' : c.toNat < 133) :
    CharSet.blank.contains c = false := by
  simp only [CharSet.contains, CharSet.blank, CharSet.inside]
  rw [if_neg (by omega), if_neg (by omega), if_neg (by omega), if_neg (by omega), if_pos h']
  rfl

theorem contains_blank_of_isDigit (h : c.isDigit = true) : CharSet.blank.contains c = false := by
  have hrange := toNat_of_isDigit h
  exact contains_blank_of_visible (by omega) (by omega)

end Characters

section Digits
variable {n : Nat} {ds rest : List Char}

theorem isDigit_of_mem_toDigits {c : Char} (h : c ∈ Nat.toDigits 10 n) : c.isDigit = true :=
  Nat.isDigit_of_mem_toDigits (by decide) (by decide) h

/-- No digit stands in front. -/
def NoDigit (cs : List Char) : Prop := ∀ c ∈ cs.head?, c.isDigit = false

theorem takeWhile_append_of_stop {p : Char → Bool} (hd : ∀ d ∈ ds, p d = true)
    (hr : ∀ c ∈ rest.head?, p c = false) : (ds ++ rest).takeWhile p = ds := by
  rw [List.takeWhile_append_of_pos hd]
  cases rest with
  | nil => exact List.append_nil ds
  | cons c rest =>
    have hc : ¬ p c = true := by simp [hr c rfl]
    rw [List.takeWhile_cons_of_neg hc, List.append_nil]

theorem dropWhile_append_of_stop {p : Char → Bool} (hd : ∀ d ∈ ds, p d = true)
    (hr : ∀ c ∈ rest.head?, p c = false) : (ds ++ rest).dropWhile p = rest := by
  rw [List.dropWhile_append_of_pos hd]
  cases rest with
  | nil => rfl
  | cons c rest =>
    have hc : ¬ p c = true := by simp [hr c rfl]
    exact List.dropWhile_cons_of_neg hc

theorem takeWhile_digits (hd : ∀ d ∈ ds, d.isDigit = true) (hr : NoDigit rest) :
    (ds ++ rest).takeWhile Char.isDigit = ds := takeWhile_append_of_stop hd hr

theorem dropWhile_digits (hd : ∀ d ∈ ds, d.isDigit = true) (hr : NoDigit rest) :
    (ds ++ rest).dropWhile Char.isDigit = rest := dropWhile_append_of_stop hd hr

theorem digitsFrom_zeros (k : Nat) (ds : List Char) :
    digitsFrom 0 (List.replicate k '0' ++ ds) = digitsFrom 0 ds := by
  induction k with
  | zero => rfl
  | succ k ih =>
    have hzero : digitsFrom 0 ('0' :: (List.replicate k '0' ++ ds)) =
        digitsFrom 0 (List.replicate k '0' ++ ds) := rfl
    rw [List.replicate_succ, List.cons_append, hzero, ih]

/-- The numeral of a number above zero does not start with a zero. -/
theorem head?_toDigits_ne_zero (h : 0 < n) : (Nat.toDigits 10 n).head? ≠ some '0' := by
  induction n using Nat.strongRecOn with
  | ind n ih =>
    rw [Nat.toDigits_eq_if (by decide)]
    split
    · rename_i hlt
      have hsmall : ∀ d < 10, 0 < d → [Nat.digitChar d].head? ≠ some '0' := by decide
      exact hsmall n hlt h
    · rename_i hge
      have hrest := ih (n / 10) (by omega) (by omega)
      cases hd : Nat.toDigits 10 (n / 10) with
      | nil => exact absurd hd Nat.toDigits_ne_nil
      | cons d ds =>
        rw [hd] at hrest
        exact hrest

end Digits

section Padded
variable {width n : Nat} {c : Char}

theorem toList_paddedDecimal (width n : Nat) : (paddedDecimal width n).toList =
    List.replicate (width - (Nat.toDigits 10 n).length) '0' ++ Nat.toDigits 10 n :=
  String.toList_ofList

theorem isDigit_of_mem_paddedDecimal (h : c ∈ (paddedDecimal width n).toList) :
    c.isDigit = true := by
  rw [toList_paddedDecimal] at h
  obtain h | h := List.mem_append.mp h
  · rw [List.eq_of_mem_replicate h]
    rfl
  · exact isDigit_of_mem_toDigits h

theorem digitsFrom_paddedDecimal (width n : Nat) :
    digitsFrom 0 (paddedDecimal width n).toList = n := by
  rw [toList_paddedDecimal, digitsFrom_zeros, WordNumeral.digitsFrom_toDigits]

theorem paddedDecimal_ne_nil (width n : Nat) : (paddedDecimal width n).toList ≠ [] := by
  rw [toList_paddedDecimal]
  exact List.append_ne_nil_of_right_ne_nil _ Nat.toDigits_ne_nil

theorem length_paddedDecimal (hw : 0 < width) (h : n < Nat.pow 10 width) :
    (paddedDecimal width n).toList.length = width := by
  have hlength : (Nat.toDigits 10 n).length ≤ width :=
    (Nat.length_toDigits_le_iff (by decide) hw).mpr h
  rw [toList_paddedDecimal, List.length_append, List.length_replicate]
  omega

end Padded
end DeployTrigger
