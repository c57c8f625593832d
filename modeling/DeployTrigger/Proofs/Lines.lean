import DeployTrigger.Text.Utf8
import DeployTrigger.Text.WordNumeral

/-!
Texts as lines, each with a line feed at its end. A text is made of lines in one way at most
(`Lines.unique`), so to count them makes sense. A decimal numeral on a line reads back as its number
(`read_decimal`).
-/
namespace DeployTrigger

theorem utf8_injective {s t : String} (h : utf8 s = utf8 t) : s = t := by
  have hs := Utf8.decode?_utf8 s
  rw [h, Utf8.decode?_utf8] at hs
  exact (Option.some.inj hs).symm

/-- The bytes are exactly these lines, and no line holds another one. -/
structure Lines (b : Bytes) (lines : List String) : Prop where
  eq : b = utf8 (String.join (lines.map (· ++ "\n")))
  single : ∀ line ∈ lines, '\n' ∉ line.toList

namespace Lines

theorem toList_join (lines : List String) :
    (String.join (lines.map (· ++ "\n"))).toList =
      ['\n'].intercalate (lines.map String.toList ++ [[]]) := by
  -- The line feed at the very end separates the last line from an empty piece.
  induction lines with
  | nil => rfl
  | cons line rest ih =>
    have hne : rest.map String.toList ++ [[]] ≠ [] := by simp
    rw [List.map_cons, String.join_cons, String.toList_append, ih, List.map_cons, List.cons_append,
      List.intercalate_cons_of_ne_nil hne, String.toList_append, List.append_assoc, List.append_assoc]
    rfl

theorem splitOn_toList {b : Bytes} {lines : List String} (h : Lines b lines) :
    (String.join (lines.map (· ++ "\n"))).toList.splitOn '\n' =
      lines.map String.toList ++ [[]] := by
  rw [toList_join]
  refine List.splitOn_intercalate '\n' ?_ (by simp)
  intro piece hpiece
  obtain hline | hlast := List.mem_append.mp hpiece
  · obtain ⟨line, hmem, rfl⟩ := List.mem_map.mp hline
    exact h.single line hmem
  · obtain rfl := List.mem_singleton.mp hlast
    exact List.not_mem_nil

theorem unique {b : Bytes} {lines lines' : List String} (h : Lines b lines) (h' : Lines b lines') :
    lines = lines' := by
  have htext := utf8_injective (h.eq.symm.trans h'.eq)
  have hsplit := h.splitOn_toList
  rw [htext, h'.splitOn_toList] at hsplit
  have hlists := List.append_cancel_right hsplit
  exact ((List.map_inj_right fun _ _ => String.toList_inj.mp).mp hlists).symm

end Lines

namespace WordNumeral

theorem le_digitsFrom (n : Nat) (ds : List Char) : n ≤ digitsFrom n ds := by
  induction ds generalizing n with
  | nil => exact Nat.le_refl n
  | cons d ds ih =>
    have hrest := ih (n * 10 + digitValue d)
    have hstep : digitsFrom n (d :: ds) = digitsFrom (n * 10 + digitValue d) ds := rfl
    omega

/-- Digits are read as long as their number fits. -/
theorem readFrom_of_digits {n : Nat} {ds : List Char} (hd : ∀ d ∈ ds, d.isDigit = true)
    (hlt : digitsFrom n ds < UInt64.size) :
    readFrom n ds = .ok (UInt64.ofNat (digitsFrom n ds)) := by
  induction ds generalizing n with
  | nil => rfl
  | cons d ds ih =>
    have hstep : digitsFrom n (d :: ds) = digitsFrom (digitsFrom n [d]) ds := rfl
    have hfits : digitsFrom n [d] < UInt64.size := by
      have hle := le_digitsFrom (digitsFrom n [d]) ds
      omega
    have hdigit : d.isDigit = true := hd d List.mem_cons_self
    have hrest := ih (n := digitsFrom n [d]) (fun x hx => hd x (List.mem_cons_of_mem d hx)) hlt
    rw [readFrom, if_pos hdigit, hstep]
    exact (if_pos hfits).trans hrest

theorem digitsFrom_toDigits (n : Nat) : digitsFrom 0 (Nat.toDigits 10 n) = n := by
  have h : Nat.ofDigitChars 10 (Nat.toDigits 10 n) 0 = n := Nat.ofDigitChars_ten_toDigits
  rw [Nat.ofDigitChars] at h
  simpa only [digitsFrom, digitValue, Nat.mul_comm] using h

theorem isDigit_of_mem_decimal {n : Nat} {c : Char} (h : c ∈ (decimal n).toList) :
    c.isDigit = true := by
  rw [decimal, numeral, String.toList_ofList] at h
  exact Nat.isDigit_of_mem_toDigits (by decide) (by decide) h

theorem read_decimal (w : UInt64) : read (decimal w.toNat) = .ok w := by
  have hdigits : ∀ c ∈ (decimal w.toNat).toList, c.isDigit = true :=
    fun c => isDigit_of_mem_decimal
  have hvalue := digitsFrom_toDigits w.toNat
  rw [decimal, numeral, String.toList_ofList] at hdigits
  have hread : readFrom 0 (Nat.toDigits 10 w.toNat) = .ok w := by
    rw [readFrom_of_digits hdigits (by rw [hvalue]; exact w.toNat_lt), hvalue,
      UInt64.ofNat_toNat]
  rw [read, decimal, numeral, String.toList_ofList]
  split
  · rename_i hnil
    exact absurd hnil Nat.toDigits_ne_nil
  · rename_i hplus
    exact absurd (hdigits '+' (by rw [hplus]; exact List.mem_cons_self)) (by decide)
  · rename_i hplus
    exact absurd (hdigits '+' (by rw [hplus]; exact List.mem_cons_self)) (by decide)
  · exact hread

end WordNumeral
end DeployTrigger
