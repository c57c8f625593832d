import DeployTrigger.Json.Value
import DeployTrigger.Proofs.Numeral

/-!
Readers that take what stands in front of a document, wherever it stands. `Takes` says what a reader
takes and what it leaves; sequences of readers take one thing after the other (`Takes.bind`).
-/
namespace DeployTrigger.Json
variable {α β : Type}

/-- From `cs` the reader takes the value `a` and leaves `rest`. -/
def Takes (r : Reader α) (cs : List Char) (a : α) (rest : List Char) : Prop :=
  ∀ p, ∃ q, r.run ⟨cs, p⟩ = .ok (a, ⟨rest, q⟩)

/-- Blanks in front of a rest. -/
inductive Blanks : List Char → List Char → Prop where
  | nil (cs : List Char) : Blanks cs cs
  | cons {c : Char} {cs rest : List Char} (hc : isBlank c = true) (h : Blanks cs rest) :
      Blanks (c :: cs) rest

theorem Blanks.length_le {cs rest : List Char} (h : Blanks cs rest) : rest.length ≤ cs.length := by
  induction h with
  | nil => exact Nat.le_refl _
  | cons _ _ ih => exact Nat.le_succ_of_le ih

theorem Blanks.skipBlanksFrom {cs rest : List Char} (h : Blanks cs rest) (p : Position) :
    ∃ q, Cursor.skipBlanksFrom p cs = Cursor.skipBlanksFrom q rest := by
  induction h generalizing p with
  | nil => exact ⟨p, rfl⟩
  | cons hc _ ih =>
    obtain ⟨q, hq⟩ := ih (p.after _)
    exact ⟨q, by rw [Cursor.skipBlanksFrom, if_pos hc, hq]⟩

namespace Takes
variable {r : Reader α} {cs mid rest : List Char} {a : α} {b : β} {c : Char}

theorem pure (a : α) (cs : List Char) : Takes (Pure.pure a) cs a cs := fun p => ⟨p, rfl⟩

theorem bind {f : α → Reader β} (h : Takes r cs a mid) (hf : Takes (f a) mid b rest) :
    Takes (r >>= f) cs b rest := by
  intro p
  obtain ⟨q, hq⟩ := h p
  obtain ⟨q', hq'⟩ := hf q
  refine ⟨q', ?_⟩
  rw [StateT.run_bind, hq]
  exact hq'

/-- A reader that looks at its cursor takes what it takes with that cursor. -/
theorem get {f : Cursor → Reader β} (h : ∀ p, Takes (f ⟨cs, p⟩) cs b rest) :
    Takes (MonadState.get >>= f) cs b rest := fun p => h p p

theorem map {f : α → β} (h : Takes r cs a rest) : Takes (f <$> r) cs (f a) rest := by
  intro p
  obtain ⟨q, hq⟩ := h p
  refine ⟨q, ?_⟩
  rw [StateT.run_map, hq]
  rfl

theorem peek (cs : List Char) : Takes Reader.peek cs cs.head? cs := fun p => ⟨p, rfl⟩

theorem advance (c : Char) (cs : List Char) : Takes Reader.advance (c :: cs) () cs :=
  fun p => ⟨p.after c, rfl⟩

theorem skipBlanks (hb : Blanks cs (c :: rest)) (h : isBlank c = false) :
    Takes Reader.skipBlanks cs () (c :: rest) := by
  intro p
  obtain ⟨q, hq⟩ := hb.skipBlanksFrom p
  refine ⟨q, ?_⟩
  change Except.ok ((), Cursor.skipBlanksFrom p cs) = _
  rw [hq, Cursor.skipBlanksFrom, h]
  rfl

theorem peekToken (hb : Blanks cs (c :: rest)) (h : isBlank c = false) :
    Takes Reader.peekToken cs (some c) (c :: rest) := (skipBlanks hb h).bind (peek _)

theorem peekToken_nil (hb : Blanks cs []) : Takes Reader.peekToken cs none [] := by
  intro p
  obtain ⟨q, hq⟩ := hb.skipBlanksFrom p
  refine ⟨q, ?_⟩
  change Except.ok ((Cursor.skipBlanksFrom p cs).rest.head?, Cursor.skipBlanksFrom p cs) = _
  rw [hq]
  rfl

theorem word (ws cs : List Char) : Takes (Reader.word ws) (ws ++ cs) () cs := by
  induction ws with
  | nil => exact pure () cs
  | cons w ws ih =>
    refine (peek _).bind ?_
    change Takes (if w = w then _ else _) _ _ _
    rw [if_pos rfl]
    exact (advance w (ws ++ cs)).bind ih

theorem digits {ds : List Char} (hd : ∀ d ∈ ds, d.isDigit = true) (hr : NoDigit rest) :
    Takes Reader.digits (ds ++ rest) ds rest := by
  intro p
  refine ⟨⟨p.line, p.column + ds.length⟩, ?_⟩
  change Except.ok ((ds ++ rest).takeWhile Char.isDigit, (⟨(ds ++ rest).dropWhile Char.isDigit,
    ⟨p.line, p.column + ((ds ++ rest).takeWhile Char.isDigit).length⟩⟩ : Cursor)) = _
  rw [takeWhile_digits hd hr, dropWhile_digits hd hr]

end Takes

section Numbers
variable {n taken : Nat} {ds rest : List Char}

theorem absorb_eq (h : digitsFrom n ds < UInt64.size) :
    Number.absorb n taken ds = (digitsFrom n ds, taken + ds.length) := by
  induction ds generalizing n taken with
  | nil => rfl
  | cons d ds ih =>
    have hfits : n * 10 + digitValue d < UInt64.size :=
      Nat.lt_of_le_of_lt (WordNumeral.le_digitsFrom _ ds) h
    have hstep : Number.absorb n taken (d :: ds) =
        Number.absorb (n * 10 + digitValue d) (taken + 1) ds := if_pos hfits
    rw [hstep, ih h, List.length_cons, Nat.add_assoc, Nat.add_comm 1]
    rfl

/-- The characters behind which a whole number is at its end. -/
def Ends (cs : List Char) : Prop := cs.head? = some ',' ∨ cs.head? = some '\x7d'

theorem Ends.noDigit (h : Ends rest) : NoDigit rest := by
  intro c hc
  obtain h | h := h
  · rw [h] at hc
    cases hc
    rfl
  · rw [h] at hc
    cases hc
    rfl

/-- A numeral without needless zeros that ends here is a whole number. -/
theorem Takes.unsigned {d : Char} {more : List Char} (hd : ∀ c ∈ d :: more, c.isDigit = true)
    (hzero : d = '0' → more = []) (hlt : digitsFrom 0 (d :: more) < UInt64.size) (hr : Ends rest) :
    Takes (Reader.unsigned false) (d :: more ++ rest)
      (.natural (UInt64.ofNat (digitsFrom 0 (d :: more)))) rest := by
  refine (Takes.digits hd hr.noDigit).bind ?_
  have hneedless : ¬ (d = '0' && !more.isEmpty) = true := by
    simpa using hzero
  have habsorb : Number.absorb 0 0 (d :: more) =
      (digitsFrom 0 (d :: more), 0 + (d :: more).length) := absorb_eq hlt
  rw [Nat.zero_add] at habsorb
  change Takes (if (d = '0' && !more.isEmpty) = true then _ else _) _ _ _
  rw [if_neg hneedless, habsorb]
  refine (Takes.peek rest).bind ?_
  have hnone : ((d :: more).length - (d :: more).length : Nat) = (0 : Int) := by
    rw [Nat.sub_self]
    rfl
  obtain hend | hend := hr
  · rw [hend]
    change Takes (if _ then _ else _) _ _ _
    rw [if_pos hnone]
    exact Takes.pure _ _
  · rw [hend]
    change Takes (if _ then _ else _) _ _ _
    rw [if_pos hnone]
    exact Takes.pure _ _

theorem Takes.number (n : UInt64) (hr : Ends rest) :
    Takes Reader.number (Nat.toDigits 10 n.toNat ++ rest) (.natural n) rest := by
  have hdigit : ∀ d ∈ Nat.toDigits 10 n.toNat, d.isDigit = true := fun d => isDigit_of_mem_toDigits
  have hvalue := WordNumeral.digitsFrom_toDigits n.toNat
  have hzero : Nat.toDigits 10 n.toNat = ['0'] ∨ (Nat.toDigits 10 n.toNat).head? ≠ some '0' := by
    obtain hzero | hpos := Nat.eq_zero_or_pos n.toNat
    · exact .inl (by rw [hzero]; rfl)
    · exact .inr (head?_toDigits_ne_zero hpos)
  cases hds : Nat.toDigits 10 n.toNat with
  | nil => exact absurd hds Nat.toDigits_ne_nil
  | cons d more =>
    rw [hds] at hdigit hvalue hzero
    have hminus : d ≠ '-' := by
      rintro rfl
      exact absurd (hdigit '-' List.mem_cons_self) (by decide)
    have hfirst : d = '0' → more = [] := by
      rintro rfl
      obtain hzero | hzero := hzero
      · exact List.tail_eq_of_cons_eq hzero
      · exact absurd rfl hzero
    have hread := Takes.unsigned hdigit hfirst (by rw [hvalue]; exact n.toNat_lt) hr
    rw [hvalue, UInt64.ofNat_toNat] at hread
    refine (Takes.peek _).bind ?_
    rw [List.cons_append, List.head?_cons]
    split
    · rename_i heq
      exact absurd (Option.some.inj heq) hminus
    · exact hread

end Numbers
end DeployTrigger.Json
