import DeployTrigger.Proofs.Address
import DeployTrigger.Proofs.Base58
import DeployTrigger.Proofs.Lines
import Mathlib.Data.List.TakeWhile

/-!
What the one-line form of an address keeps apart. Addresses that are no text differ in their forms if
they differ at all, and so do texts without a backslash; the form of a form is the form itself
(`shown_tells_apart`).
-/
namespace DeployTrigger

theorem digitChar_inj {d e : Nat} (hd : d < 16) (he : e < 16)
    (h : Nat.digitChar d = Nat.digitChar e) : d = e := by
  have hall : ∀ d < 16, ∀ e < 16, Nat.digitChar d = Nat.digitChar e → d = e := by decide
  exact hall d hd e he h

/-- A numeral of more than one digit is not that of a digit. -/
theorem toDigits_ne_singleton {b n : Nat} {c : Char} (hb : 1 < b) (h : b ≤ n) :
    Nat.toDigits b n ≠ [c] := by
  rw [Nat.toDigits_of_base_le hb h]
  intro hsingle
  rw [← List.nil_append [c]] at hsingle
  exact Nat.toDigits_ne_nil (List.append_inj' hsingle rfl).1

theorem hexadecimal_inj {m n : Nat} (h : Nat.toDigits 16 m = Nat.toDigits 16 n) : m = n := by
  induction m using Nat.strongRecOn generalizing n with
  | ind m ih =>
    by_cases hm : m < 16
    · rw [Nat.toDigits_of_lt_base hm] at h
      by_cases hn : n < 16
      · rw [Nat.toDigits_of_lt_base hn] at h
        exact digitChar_inj hm hn (List.singleton_inj.mp h)
      · exact absurd h.symm (toDigits_ne_singleton (by decide) (by omega))
    · by_cases hn : n < 16
      · rw [Nat.toDigits_of_lt_base hn] at h
        exact absurd h (toDigits_ne_singleton (by decide) (by omega))
      · -- The last digits agree, and so do the numerals in front of them.
        rw [Nat.toDigits_of_base_le (by decide) (by omega : 16 ≤ m),
          Nat.toDigits_of_base_le (by decide) (by omega : 16 ≤ n)] at h
        obtain ⟨hfront, hlast⟩ := List.append_inj' h rfl
        have hquotient := ih (m / 16) (by omega) hfront
        have hremainder := digitChar_inj (Nat.mod_lt m (by decide)) (Nat.mod_lt n (by decide))
          (List.singleton_inj.mp hlast)
        omega

/-- What stands in front of the first mark, and what behind. -/
theorem append_mark_inj {α : Type} [DecidableEq α] {mark : α} {l r rest rest' : List α}
    (hl : mark ∉ l) (hr : mark ∉ r) (h : l ++ mark :: rest = r ++ mark :: rest') :
    l = r ∧ rest = rest' := by
  have hfront : ∀ l rest : List α, mark ∉ l → (l ++ mark :: rest).takeWhile (· ≠ mark) = l := by
    intro l rest hl
    have hall : ∀ x ∈ l, decide (x ≠ mark) = true :=
      fun x hx => decide_eq_true fun heq => hl (heq ▸ hx)
    rw [List.takeWhile_append_of_pos hall, List.takeWhile_cons_of_neg (by simp), List.append_nil]
  obtain rfl : l = r := by rw [← hfront l rest hl, h, hfront r rest' hr]
  exact ⟨rfl, (List.cons.inj (List.append_cancel_left h)).2⟩

namespace Address

/-! ### Texts -/

theorem short?_ne_codePoint {c e : Char} (h : Quoted.short? c = some e) : e ≠ 'u' := by
  obtain rfl | rfl | rfl := short?_cases h <;> decide

theorem short?_inj {c d e : Char} (hc : Quoted.short? c = some e) (hd : Quoted.short? d = some e) :
    c = d := by
  have hread : ∀ {c e}, Quoted.short? c = some e →
      c = if e = 't' then '\t' else if e = 'r' then '\r' else '\n' := by
    intro c e h
    unfold Quoted.short? at h
    split_ifs at h <;> cases h <;> assumption
  rw [hread hc, hread hd]

theorem brace_not_mem_hexadecimal (n : Nat) : '\x7d' ∉ Nat.toDigits 16 n := by
  intro hmem
  obtain ⟨d, hd⟩ := exists_digitChar_of_mem_toDigits (by decide) hmem
  have hsmall : ∀ d < 16, '\x7d' ≠ Nat.digitChar d := by decide
  by_cases hlt : d < 16
  · exact hsmall d hlt hd
  · rw [Nat.digitChar_eq_star.mpr (by omega)] at hd
    exact absurd hd (by decide)

theorem codePoint_append_inj {c d : Char} {r r' : List Char}
    (h : Quoted.codePoint c ++ r = Quoted.codePoint d ++ r') : c = d ∧ r = r' := by
  have hrest : Nat.toDigits 16 c.toNat ++ '\x7d' :: r = Nat.toDigits 16 d.toNat ++ '\x7d' :: r' := by
    simpa [Quoted.codePoint] using h
  obtain ⟨hdigits, hr⟩ := append_mark_inj (brace_not_mem_hexadecimal _)
    (brace_not_mem_hexadecimal _) hrest
  exact ⟨Char.toNat_inj.mp (hexadecimal_inj hdigits), hr⟩

/-- A character is shown as it is, by a letter behind a backslash, or by its code point. -/
inductive ShownAs (c : Char) : List Char → Prop where
  | itself : ShownAs c [c]
  | letter {e : Char} (h : Quoted.short? c = some e) : ShownAs c ['\\', e]
  | codePoint : ShownAs c (Quoted.codePoint c)

theorem shownAs_shownChar (c : Char) : ShownAs c (shownChar c) := by
  rw [shownChar]
  split
  · split
    · exact .letter ‹_›
    · exact .codePoint
  · exact .itself

/-- The form of a character is told from what follows, and stands for one character only. -/
theorem ShownAs.inj {c d : Char} {l l' r r' : List Char} (hl : ShownAs c l) (hl' : ShownAs d l')
    (hc : c ≠ '\\') (hd : d ≠ '\\') (h : l ++ r = l' ++ r') : c = d ∧ r = r' := by
  cases hl with
  | itself =>
    cases hl' with
    | itself => exact List.cons.inj h
    | letter _ => exact absurd (List.cons.inj h).1 hc
    | codePoint => exact absurd (List.cons.inj h).1 hc
  | letter he =>
    cases hl' with
    | itself => exact absurd (List.cons.inj h).1.symm hd
    | letter he' =>
      obtain ⟨rfl, hr⟩ := List.cons.inj (List.cons.inj h).2
      exact ⟨short?_inj he he', hr⟩
    | codePoint => exact absurd (List.cons.inj (List.cons.inj h).2).1 (short?_ne_codePoint he)
  | codePoint =>
    cases hl' with
    | itself => exact absurd (List.cons.inj h).1.symm hd
    | letter he => exact absurd (List.cons.inj (List.cons.inj h).2).1.symm (short?_ne_codePoint he)
    | codePoint => exact codePoint_append_inj h

theorem shownChar_ne_nil (c : Char) : shownChar c ≠ [] := by
  intro hnil
  have h := shownAs_shownChar c
  rw [hnil] at h
  cases h

theorem flatMap_shownChar_inj {cs ds : List Char} (hc : '\\' ∉ cs) (hd : '\\' ∉ ds)
    (h : cs.flatMap shownChar = ds.flatMap shownChar) : cs = ds := by
  -- Of two forms that agree, the first characters are the same, and what is left agrees again.
  induction cs generalizing ds with
  | nil =>
    cases ds with
    | nil => rfl
    | cons d ds => exact absurd (List.append_eq_nil_iff.mp h.symm).1 (shownChar_ne_nil d)
  | cons c cs ih =>
    cases ds with
    | nil => exact absurd (List.append_eq_nil_iff.mp h).1 (shownChar_ne_nil c)
    | cons d ds =>
      rw [List.mem_cons, not_or] at hc hd
      obtain ⟨rfl, hrest⟩ := (shownAs_shownChar c).inj (shownAs_shownChar d) (Ne.symm hc.1)
        (Ne.symm hd.1) h
      rw [ih hc.2 hd.2 hrest]

/-! ### Addresses -/

/-- The address is a text that is not empty. -/
def IsText (a : Address) : Prop := ∃ s, s ≠ "" ∧ a.bytes = utf8 s

theorem shown_of_not_isText {a : Address} (h : ¬ a.IsText) : a.shown = Base58.encode a.bytes := by
  have hnone : a.text? = none := by
    cases htext : a.text? with
    | none => rfl
    | some s => exact absurd ⟨s, text?_eq_some_iff.mp htext⟩ h
  rw [shown, hnone]

theorem shown_empty : (⟨[]⟩ : Address).shown = "" := by
  have hempty : ¬ (⟨[]⟩ : Address).IsText := by
    rintro ⟨s, hne, hs⟩
    exact hne (utf8_injective hs.symm)
  rw [shown_of_not_isText hempty]
  exact Base58.encode_nil

theorem shown_shown (a : Address) : (⟨utf8 a.shown⟩ : Address).shown = a.shown := by
  by_cases hempty : a.shown = ""
  · rw [hempty]
    exact shown_empty
  · exact shown_utf8 hempty fun c hc => not_control_of_mem_shown a hc

/-- Forms tell addresses of one kind apart: those that are no text, and texts without a backslash.
Shown once more, a form stays as it is. -/
theorem shown_tells_apart :
    (∀ a b : Address, ¬ a.IsText → ¬ b.IsText → a ≠ b →
      a.shown = Base58.encode a.bytes ∧ b.shown = Base58.encode b.bytes ∧ a.shown ≠ b.shown) ∧
    (⟨[]⟩ : Address).shown = "" ∧
    (∀ s t : String, s ≠ "" → t ≠ "" → '\\' ∉ s.toList → '\\' ∉ t.toList → s ≠ t →
      (⟨utf8 s⟩ : Address).shown ≠ (⟨utf8 t⟩ : Address).shown) ∧
    ∀ a : Address, (⟨utf8 a.shown⟩ : Address).shown = a.shown := by
  refine ⟨fun a b ha hb hne => ?_, shown_empty, fun s t hs ht hs' ht' hne hshown => ?_, shown_shown⟩
  · rw [shown_of_not_isText ha, shown_of_not_isText hb]
    refine ⟨rfl, rfl, fun hshown => hne ?_⟩
    obtain ⟨bytes⟩ := a
    obtain ⟨bytes'⟩ := b
    exact congrArg Address.mk (Base58.encode_injective hshown)
  · rw [shown_of_text hs, shown_of_text ht] at hshown
    have hchars := flatMap_shownChar_inj hs' ht' (String.ofList_injective hshown)
    exact hne (String.toList_injective hchars)

theorem not_isText_of_decode {a : Address} (h : Utf8.decode? a.bytes = none) : ¬ a.IsText := by
  rintro ⟨s, -, hs⟩
  rw [Utf8.decode?_eq_some_iff.mpr hs] at h
  cases h

/-- A byte with and without a zero in front, and two texts of which only the escapes differ. -/
theorem shown_tells_zeros_and_escapes :
    (⟨[255]⟩ : Address).shown ≠ (⟨[0, 255]⟩ : Address).shown ∧
    (⟨utf8 "a\tb"⟩ : Address).shown ≠ (⟨utf8 "a\nb"⟩ : Address).shown := by
  have hlone : ¬ (⟨[255]⟩ : Address).IsText := not_isText_of_decode rfl
  have hzero : ¬ (⟨[0, 255]⟩ : Address).IsText := not_isText_of_decode rfl
  exact ⟨(shown_tells_apart.1 _ _ hlone hzero (by decide)).2.2,
    shown_tells_apart.2.2.1 _ _ (by decide) (by decide) (by decide) (by decide) (by decide)⟩

end Address
end DeployTrigger
