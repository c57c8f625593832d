import DeployTrigger.Address
import Mathlib.Tactic.SplitIfs

/-!
What the one-line form of an address holds. It has no control character, whatever the bytes
(`not_control_of_mem_shown`), and a text without control characters is its own form (`shown_utf8`).
-/
namespace DeployTrigger

/-- The control characters: those below the blank, and the row from delete on. -/
def Control (c : Char) : Prop := c.toNat ≤ 0x1F ∨ (0x7F ≤ c.toNat ∧ c.toNat ≤ 0x9F)

instance (c : Char) : Decidable (Control c) := inferInstanceAs (Decidable (_ ∨ _))

theorem exists_digitChar_of_mem_toDigits {b n : Nat} (hb : 1 < b) {c : Char}
    (h : c ∈ Nat.toDigits b n) : ∃ d, c = Nat.digitChar d := by
  induction n using Nat.strongRecOn with
  | ind n ih =>
    rw [Nat.toDigits_eq_if hb] at h
    split at h
    · exact ⟨n, List.mem_singleton.mp h⟩
    · rename_i hge
      have hlt : n / b < n := Nat.div_lt_self (by omega) hb
      obtain hmem | hlast := List.mem_append.mp h
      · exact ih _ hlt hmem
      · exact ⟨_, List.mem_singleton.mp hlast⟩

theorem not_control_digitChar (d : Nat) : ¬ Control (Nat.digitChar d) := by
  have hsmall : ∀ d < 16, ¬ Control (Nat.digitChar d) := by decide
  by_cases hd : d < 16
  · exact hsmall d hd
  · rw [Nat.digitChar_eq_star.mpr (by omega)]
    decide

namespace Base58

theorem letter_mem_alphabet (d : Nat) : letter d ∈ alphabet := by
  unfold letter
  cases h : alphabet[d]? with
  | none => decide
  | some c => exact List.mem_of_getElem? h

theorem not_control_of_mem_encode (b : Bytes) {c : Char} (h : c ∈ (encode b).toList) :
    ¬ Control c := by
  have halphabet : alphabet.all (fun c => decide (¬ Control c)) = true := by decide
  rw [encode, String.toList_ofList] at h
  obtain hzero | hdigit := List.mem_append.mp h
  · obtain rfl := List.eq_of_mem_replicate hzero
    decide
  · obtain ⟨d, _, rfl⟩ := List.mem_map.mp hdigit
    exact of_decide_eq_true (List.all_eq_true.mp halphabet _ (letter_mem_alphabet d))

end Base58

namespace Address

theorem isControl_iff (c : Char) : isControl c = true ↔ Control c := by
  simp only [isControl, Control, Bool.or_eq_true, Bool.and_eq_true, decide_eq_true_eq]
  omega

theorem short?_cases {c e : Char} (h : Quoted.short? c = some e) : e = 't' ∨ e = 'r' ∨ e = 'n' := by
  unfold Quoted.short? at h
  split_ifs at h <;> cases h <;> simp

theorem not_control_of_mem_codePoint {c x : Char} (h : x ∈ Quoted.codePoint c) : ¬ Control x := by
  rw [Quoted.codePoint, List.mem_append, List.mem_append] at h
  obtain (hopen | hdigit) | hclose := h
  · have hall : ['\\', 'u', '\x7b'].all (fun x => decide (¬ Control x)) = true := by decide
    exact of_decide_eq_true (List.all_eq_true.mp hall x hopen)
  · obtain ⟨d, rfl⟩ := exists_digitChar_of_mem_toDigits (by decide) hdigit
    exact not_control_digitChar d
  · obtain rfl := List.mem_singleton.mp hclose
    decide

theorem not_control_of_mem_shownChar {c x : Char} (h : x ∈ shownChar c) : ¬ Control x := by
  unfold shownChar at h
  split at h
  · split at h
    · rename_i e he
      obtain rfl | hx := List.mem_cons.mp h
      · decide
      · obtain rfl := List.mem_singleton.mp hx
        obtain rfl | rfl | rfl := short?_cases he <;> decide
    · exact not_control_of_mem_codePoint h
  · rename_i hc
    obtain rfl := List.mem_singleton.mp h
    rwa [isControl_iff] at hc

theorem shownChar_of_not_control {c : Char} (h : ¬ Control c) : shownChar c = [c] := by
  rw [shownChar, if_neg (by rwa [isControl_iff])]

theorem not_control_of_mem_shown (a : Address) {c : Char} (h : c ∈ a.shown.toList) :
    ¬ Control c := by
  unfold shown at h
  split at h
  · rename_i s _
    rw [shownText, String.toList_ofList] at h
    obtain ⟨x, _, hx⟩ := List.mem_flatMap.mp h
    exact not_control_of_mem_shownChar hx
  · exact Base58.not_control_of_mem_encode a.bytes h

theorem flatMap_shownChar {cs : List Char} (h : ∀ c ∈ cs, ¬ Control c) :
    cs.flatMap shownChar = cs := by
  induction cs with
  | nil => rfl
  | cons c cs ih =>
    have hc := shownChar_of_not_control (h c List.mem_cons_self)
    have hcs := ih fun x hx => h x (List.mem_cons_of_mem c hx)
    rw [List.flatMap_cons, hc, hcs, List.singleton_append]

theorem text?_eq_some_iff {a : Address} {s : String} :
    a.text? = some s ↔ s ≠ "" ∧ a.bytes = utf8 s := by
  rw [text?, ← Utf8.decode?_eq_some_iff]
  cases Utf8.decode? a.bytes with
  | none => simp
  | some t =>
    dsimp only
    by_cases ht : t.isEmpty = true
    · rw [if_pos ht]
      constructor
      · intro h
        cases h
      · rintro ⟨hne, h⟩
        cases h
        exact absurd (String.isEmpty_iff.mp ht) hne
    · rw [if_neg ht]
      constructor
      · intro h
        cases h
        exact ⟨fun hempty => ht (String.isEmpty_iff.mpr hempty), rfl⟩
      · exact fun h => h.2

theorem shown_of_text {s : String} (hne : s ≠ "") : (⟨utf8 s⟩ : Address).shown = shownText s := by
  rw [shown, text?_eq_some_iff.mpr ⟨hne, rfl⟩]

theorem shown_utf8 {s : String} (hne : s ≠ "") (h : ∀ c ∈ s.toList, ¬ Control c) :
    (⟨utf8 s⟩ : Address).shown = s := by
  rw [shown_of_text hne, shownText, flatMap_shownChar h, String.ofList_toList]

end Address
end DeployTrigger
