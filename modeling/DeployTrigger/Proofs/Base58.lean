import DeployTrigger.Text.Base58
import Mathlib.Data.List.TakeWhile
import Mathlib.Data.Nat.Digits.Lemmas

/-!
Base 58 loses nothing. The zero bytes in front are counted by the zero digits in front, and the rest
of the bytes is the one way to write its value without zeros in front, so different bytes have
different forms (`encode_injective`).
-/
namespace DeployTrigger.Base58

/-- A row of one item is told from what follows, if that begins with another item. -/
theorem replicate_append_inj {α : Type} {x : α} {n k : Nat} {l r : List α}
    (hl : l.head? ≠ some x) (hr : r.head? ≠ some x)
    (h : List.replicate n x ++ l = List.replicate k x ++ r) : n = k ∧ l = r := by
  induction n generalizing k with
  | zero =>
    cases k with
    | zero => exact ⟨rfl, h⟩
    | succ k =>
      obtain rfl : l = _ := h
      exact absurd rfl hl
  | succ n ih =>
    cases k with
    | zero =>
      obtain rfl : _ = r := h
      exact absurd rfl hr
    | succ k =>
      obtain ⟨rfl, rfl⟩ := ih (List.cons.inj h).2
      exact ⟨rfl, rfl⟩

/-! ### The number -/

theorem digits_eq (n : Nat) (out : List Nat) : digits n out = (Nat.digits 58 n).reverse ++ out := by
  induction n using Nat.strongRecOn generalizing out with
  | ind n ih =>
    rw [digits]
    split
    · subst n
      rfl
    · have hpos : 0 < n := by omega
      rw [ih (n / 58) (by omega), Nat.digits_def' (by decide) hpos, List.reverse_cons,
        List.append_assoc]
      rfl

theorem value_append_singleton (b : Bytes) (x : UInt8) :
    value (b ++ [x]) = value b * 256 + x.toNat := by
  rw [value, List.foldl_append]
  rfl

theorem value_eq (b : Bytes) : value b = Nat.ofDigits 256 (b.reverse.map UInt8.toNat) := by
  induction b using List.reverseRecOn with
  | nil => rfl
  | append_singleton b x ih =>
    rw [value_append_singleton, ih, List.reverse_append, List.reverse_singleton,
      List.singleton_append, List.map_cons, Nat.ofDigits_cons]
    omega

/-- The bytes behind the zero bytes in front. -/
def significant (b : Bytes) : Bytes := b.dropWhile (· = 0)

theorem zeros_append_significant (b : Bytes) :
    List.replicate (b.takeWhile (· = 0)).length 0 ++ significant b = b := by
  have hzeros : b.takeWhile (· = 0) = List.replicate (b.takeWhile (· = 0)).length 0 :=
    List.eq_replicate_of_mem fun x hx => by simpa using List.mem_takeWhile_imp hx
  rw [← hzeros]
  exact List.takeWhile_append_dropWhile

theorem head?_significant (b : Bytes) : (significant b).head? ≠ some 0 := by
  intro h
  have hnot := List.head?_dropWhile_not (fun x : UInt8 => decide (x = 0)) b
  rw [significant] at h
  rw [h] at hnot
  simp at hnot

theorem value_significant (b : Bytes) : value (significant b) = value b := by
  have hzeros : ∀ n, value (List.replicate n 0 ++ significant b) = value (significant b) := by
    intro n
    induction n with
    | zero => rfl
    | succ n ih => exact ih
  conv_rhs => rw [← zeros_append_significant b]
  exact (hzeros _).symm

/-- The bytes behind the zero bytes in front are the digits of the value. -/
theorem digits_value (b : Bytes) :
    Nat.digits 256 (value b) = (significant b).reverse.map UInt8.toNat := by
  rw [← value_significant, value_eq]
  refine Nat.digits_ofDigits 256 (by decide) _ (fun d hd => ?_) fun hne hlast => ?_
  · obtain ⟨x, -, rfl⟩ := List.mem_map.mp hd
    exact x.toNat_lt
  · have hlast? : ((significant b).reverse.map UInt8.toNat).getLast? = some 0 := by
      rw [List.getLast?_eq_some_getLast hne, hlast]
    rw [List.getLast?_map, List.getLast?_reverse, Option.map_eq_some_iff] at hlast?
    obtain ⟨x, hx, hzero⟩ := hlast?
    obtain rfl : x = 0 := UInt8.toNat_inj.mp hzero
    exact head?_significant b hx

theorem significant_inj {a b : Bytes} (h : value a = value b) : significant a = significant b := by
  have hdigits : (significant a).reverse.map UInt8.toNat = (significant b).reverse.map UInt8.toNat := by
    rw [← digits_value, ← digits_value, h]
  have hinj : Function.Injective UInt8.toNat := fun _ _ => UInt8.toNat_inj.mp
  exact List.reverse_injective (hinj.list_map hdigits)

/-! ### The letters -/

/-- The letters come in the order of their code points. -/
theorem nodup_alphabet : alphabet.Nodup := by
  have hchain : (alphabet.map Char.toNat).IsChain (· < ·) := by decide
  have hsorted : (alphabet.map Char.toNat).Pairwise (· < ·) := List.isChain_iff_pairwise.mp hchain
  exact .of_map Char.toNat (hsorted.imp Nat.ne_of_lt)

theorem length_alphabet : alphabet.length = 58 := by decide

theorem idxOf_letter {d : Nat} (h : d < 58) : alphabet.idxOf (letter d) = d := by
  have hlength : d < alphabet.length := by rwa [length_alphabet]
  rw [letter, List.getElem?_eq_getElem hlength]
  exact nodup_alphabet.idxOf_getElem d hlength

theorem head?_letters (n : Nat) : ((digits n []).map letter).head? ≠ some '1' := by
  intro h
  rw [digits_eq, List.append_nil, List.head?_map, List.head?_reverse, Option.map_eq_some_iff] at h
  obtain ⟨d, hlast, hletter⟩ := h
  have hd : d < 58 := Nat.digits_lt_base (by decide) (List.mem_of_getLast? hlast)
  have hzero : d = 0 := by
    rw [← idxOf_letter hd, hletter]
    decide
  have hn : n ≠ 0 := by
    rintro rfl
    cases hlast
  subst hzero
  exact Nat.getLast_digit_ne_zero 58 hn (List.getLast_of_getLast?_eq_some hlast)

theorem letters_inj {m n : Nat} (h : (digits m []).map letter = (digits n []).map letter) :
    m = n := by
  -- The letters are read back as the digits, and those stand for one number only.
  have hread : ∀ n, ((digits n []).map letter).map alphabet.idxOf = (Nat.digits 58 n).reverse := by
    intro n
    rw [digits_eq, List.append_nil, List.map_map]
    refine (List.map_congr_left fun d hd => ?_).trans (List.map_id _)
    exact idxOf_letter (Nat.digits_lt_base (by decide) (List.mem_reverse.mp hd))
  have hdigits := hread m
  rw [h, hread n] at hdigits
  exact (Nat.digits_inj_iff.mp (List.reverse_injective hdigits)).symm

theorem encode_nil : encode [] = "" := by
  rw [encode, digits_eq]
  rfl

theorem encode_injective : Function.Injective encode := by
  intro a b h
  obtain ⟨hzeros, hletters⟩ := replicate_append_inj (head?_letters _) (head?_letters _)
    (String.ofList_injective h)
  rw [← zeros_append_significant a, ← zeros_append_significant b, hzeros,
    significant_inj (letters_inj hletters)]

end DeployTrigger.Base58
