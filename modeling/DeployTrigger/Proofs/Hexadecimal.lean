import DeployTrigger.Text.Numeral
import Mathlib.Data.List.Induction

/-!
Hexadecimal numerals in upper-case letters. Without a zero in front each number has one of them
(`spells_toDigits`) and no other (`Spells.unique`).
-/
namespace DeployTrigger.Hexadecimal

/-- The sixteen digits. -/
def digits : List Char := "0123456789ABCDEF".toList

/-- The value of a row of digits. -/
def value (ds : List Char) : Nat := ds.foldl (fun n d => n * 16 + (hexDigit? d).getD 0) 0

/-- The digits are the numeral of the number, and no zero stands in front. -/
structure Spells (ds : List Char) (n : Nat) : Prop where
  digit : ∀ d ∈ ds, d ∈ digits
  leading : ds.head? ≠ some '0'
  value : value ds = n

theorem value_append_singleton (ds : List Char) (d : Char) :
    value (ds ++ [d]) = value ds * 16 + (hexDigit? d).getD 0 := by
  rw [value, List.foldl_append]
  rfl

/-- The value of a digit is its place among the digits. -/
theorem digit_at_value {d : Char} (h : d ∈ digits) : (hexDigit? d).bind (digits[·]?) = some d := by
  have hall : digits.all (fun d => decide ((hexDigit? d).bind (digits[·]?) = some d)) = true := by
    decide
  exact of_decide_eq_true (List.all_eq_true.mp hall d h)

theorem hexDigit?_of_mem {d : Char} (h : d ∈ digits) : ∃ k < 16, hexDigit? d = some k := by
  obtain ⟨k, hk, hd⟩ := Option.bind_eq_some_iff.mp (digit_at_value h)
  obtain ⟨hlt, -⟩ := List.getElem?_eq_some_iff.mp hd
  exact ⟨k, hlt, hk⟩

theorem hexDigit?_inj {d e : Char} (hd : d ∈ digits) (he : e ∈ digits)
    (h : hexDigit? d = hexDigit? e) : d = e := by
  have hplace := digit_at_value hd
  rw [h, digit_at_value he] at hplace
  exact (Option.some.inj hplace).symm

theorem upper_digitChar {k : Nat} (h : k < 16) :
    (Nat.digitChar k).toUpper ∈ digits ∧ hexDigit? (Nat.digitChar k).toUpper = some k := by
  have hall : ∀ k < 16, (Nat.digitChar k).toUpper ∈ digits ∧
      hexDigit? (Nat.digitChar k).toUpper = some k := by decide
  exact hall k h

namespace Spells
variable {ds es : List Char} {d : Char} {n k : Nat}

theorem nil : Spells [] 0 := ⟨nofun, nofun, rfl⟩

/-- A digit more, unless it would be a zero in front. -/
theorem snoc (h : Spells ds n) (hd : d ∈ digits) (hk : hexDigit? d = some k)
    (hpos : 0 < n * 16 + k) : Spells (ds ++ [d]) (n * 16 + k) where
  digit := List.forall_mem_append.mpr ⟨h.digit, by simpa using hd⟩
  leading := by
    cases ds with
    | nil =>
      obtain rfl : 0 = n := h.value
      intro hzero
      obtain rfl : d = '0' := by simpa using hzero
      obtain rfl : 0 = k := Option.some.inj hk
      exact absurd hpos (by decide)
    | cons => exact h.leading
  value := by rw [value_append_singleton, h.value, hk, Option.getD_some]

/-- All that there is to a row with a last digit. -/
theorem of_snoc (h : Spells (ds ++ [d]) n) :
    d ∈ digits ∧ ∃ m k, Spells ds m ∧ k < 16 ∧ hexDigit? d = some k ∧ n = m * 16 + k := by
  obtain ⟨hds, hd⟩ := List.forall_mem_append.mp h.digit
  have hmem : d ∈ digits := hd d (List.mem_singleton_self d)
  obtain ⟨k, hlt, hk⟩ := hexDigit?_of_mem hmem
  refine ⟨hmem, _, k, ⟨hds, ?_, rfl⟩, hlt, hk, ?_⟩
  · have hleading := h.leading
    cases ds with
    | nil => nofun
    | cons => exact hleading
  · rw [← h.value, value_append_singleton, hk, Option.getD_some]

/-- Only no digits at all have the value zero. -/
theorem eq_nil_iff (h : Spells ds n) : ds = [] ↔ n = 0 := by
  induction ds using List.reverseRecOn generalizing n with
  | nil => exact iff_of_true rfl h.value.symm
  | append_singleton ds d ih =>
    obtain ⟨hd, m, k, hm, -, hk, rfl⟩ := h.of_snoc
    refine iff_of_false (by simp) fun hzero => ?_
    obtain rfl : ds = [] := (ih hm).mpr (by omega)
    obtain rfl : d = '0' := by
      refine hexDigit?_inj hd (by decide) (hk.trans ?_)
      obtain rfl : k = 0 := by omega
      rfl
    exact h.leading rfl

/-- A number has one numeral only. -/
theorem unique (h : Spells ds n) (h' : Spells es n) : ds = es := by
  induction ds using List.reverseRecOn generalizing es n with
  | nil => exact (h'.eq_nil_iff.mpr (h.eq_nil_iff.mp rfl)).symm
  | append_singleton ds d ih =>
    obtain ⟨hd, m, k, hm, hlt, hk, hn⟩ := h.of_snoc
    cases es using List.reverseRecOn with
    | nil => exact absurd (h.eq_nil_iff.mpr (h'.eq_nil_iff.mp rfl)) (by simp)
    | append_singleton es e =>
      obtain ⟨he, m', k', hm', hlt', hk', hn'⟩ := h'.of_snoc
      obtain ⟨rfl, rfl⟩ : m = m' ∧ k = k' := by omega
      rw [ih hm hm', hexDigit?_inj hd he (hk.trans hk'.symm)]

end Spells

/-- The numeral with its letters made upper-case. -/
theorem spells_toDigits {n : Nat} (h : 0 < n) : Spells ((Nat.toDigits 16 n).map Char.toUpper) n := by
  induction n using Nat.strongRecOn with
  | ind n ih =>
    rw [Nat.toDigits_eq_if (by decide)]
    split
    · rename_i hlt
      obtain ⟨hmem, hvalue⟩ := upper_digitChar hlt
      simpa using Spells.nil.snoc hmem hvalue (by omega)
    · obtain ⟨hmem, hvalue⟩ := upper_digitChar (Nat.mod_lt n (by decide : 0 < 16))
      have hdigits := (ih (n / 16) (by omega) (by omega)).snoc hmem hvalue (by omega)
      rw [Nat.div_add_mod'] at hdigits
      rwa [List.map_append]

end DeployTrigger.Hexadecimal
