import DeployTrigger.Proofs.Json.Answers
import DeployTrigger.Proofs.Json.Text

/-!
Members of an object: their keys between the punctuation, and whole numbers as their values. A
reader that takes all of a text reads the document (`document_of_takes`).
-/
namespace DeployTrigger.Json

section Keys
variable {cs mid key rest : List Char} {k : String}

theorem Takes.nextKey_first (hb : Blanks cs ('"' :: key)) (hkey : Text.Letters key k.toList rest) :
    Takes (Reader.nextKey true) cs (some k) rest :=
  (Takes.peekToken hb (by decide)).bind ((Takes.peek _).bind (Takes.letters hkey).map)

theorem Takes.nextKey (hcomma : Blanks cs (',' :: mid)) (hb : Blanks mid ('"' :: key))
    (hkey : Text.Letters key k.toList rest) :
    Takes (Reader.nextKey false) cs (some k) rest :=
  (Takes.peekToken hcomma (by decide)).bind ((Takes.advance _ _).bind
    ((Takes.skipBlanks hb (by decide)).bind ((Takes.peek _).bind (Takes.letters hkey).map)))

theorem Takes.nextKey_first_write (k : String) (rest : List Char) :
    Takes (Reader.nextKey true) ((Text.write k).toList ++ rest) (some k) rest := by
  rw [Text.toList_write_append]
  exact nextKey_first (.nil _) (Text.letters_write k.toList rest)

theorem Takes.nextKey_write (k : String) (rest : List Char) :
    Takes (Reader.nextKey false) (',' :: ((Text.write k).toList ++ rest)) (some k) rest := by
  rw [Text.toList_write_append]
  exact nextKey (.nil _) (.nil _) (Text.letters_write k.toList rest)

theorem Takes.nextKey_brace (first : Bool) (h : Blanks cs ('\x7d' :: rest)) :
    Takes (Reader.nextKey first) cs none ('\x7d' :: rest) :=
  (Takes.peekToken h (by decide)).bind (Takes.pure _ _)

theorem Takes.colon (h : Blanks cs (':' :: rest)) : Takes Reader.colon cs () rest :=
  (Takes.peekToken h (by decide)).bind (Takes.advance _ _)

end Keys

theorem ne_of_isDigit {c d : Char} (hc : c.isDigit = true) (hd : d.isDigit = false) : c ≠ d := by
  rintro rfl
  exact absurd (hd.symm.trans hc) Bool.false_ne_true

theorem isBlank_of_isDigit {c : Char} (hc : c.isDigit = true) : isBlank c = false := by
  simp [isBlank, ne_of_isDigit hc (d := ' ') (by decide), ne_of_isDigit hc (d := '\n') (by decide),
    ne_of_isDigit hc (d := '\t') (by decide), ne_of_isDigit hc (d := '\r') (by decide)]

section Values
variable {array object : Reader Value} {c : Char} {cs first rest : List Char} {v : Value} {n : Number}

theorem Takes.valueWith (hb : Blanks cs (c :: first)) (hc : isBlank c = false)
    (h : Takes (Reader.valueFrom array object c) (c :: first) v rest) :
    Takes (Reader.valueWith array object) cs v rest := (Takes.peekToken hb hc).bind h

theorem Takes.valueFrom_number (hc : c = '-' ∨ c.isDigit = true)
    (h : Takes Reader.number (c :: cs) n rest) :
    Takes (Reader.valueFrom array object c) (c :: cs) (.number n) rest := by
  have hnumber : Reader.valueFrom array object c = Value.number <$> Reader.number := by
    obtain rfl | hc := hc
    · rfl
    · have hne {d : Char} : d.isDigit = false → c ≠ d := ne_of_isDigit hc
      rw [Reader.valueFrom, if_neg (hne (by decide)), if_neg (hne (by decide)),
        if_neg (hne (by decide)), if_neg (hne (by decide)), if_neg (hne (by decide)),
        if_neg (hne (by decide)), hc, Bool.or_true]
      rfl
  rw [hnumber]
  exact h.map

/-- Scalars are read at every depth. -/
theorem Takes.scalar {depth : Nat} (hb : Blanks cs (c :: first)) (hc : isBlank c = false)
    (h : ∀ array object, Takes (Reader.valueFrom array object c) (c :: first) v rest) :
    Takes (Reader.value depth) cs v rest := by
  cases depth <;> exact Takes.valueWith hb hc (h _ _)

theorem Takes.value_number (depth : Nat) (n : UInt64) (hr : Ends rest) :
    Takes (Reader.value depth) (Nat.toDigits 10 n.toNat ++ rest) (.number (.natural n)) rest := by
  have hnumber := Takes.number n hr
  cases hds : Nat.toDigits 10 n.toNat with
  | nil => exact absurd hds Nat.toDigits_ne_nil
  | cons d more =>
    rw [hds] at hnumber
    have hdigit : d.isDigit = true := by
      have hmem : d ∈ Nat.toDigits 10 n.toNat := hds ▸ List.mem_cons_self
      exact isDigit_of_mem_toDigits hmem
    exact Takes.scalar (.nil _) (isBlank_of_isDigit hdigit)
      fun _ _ => Takes.valueFrom_number (.inr hdigit) hnumber

end Values

theorem document_of_takes {α : Type} {reader : Reader α} {s : String} {a : α} {rest : List Char}
    (h : Takes reader s.toList a rest) (hend : Blanks rest []) :
    Reader.document reader s = .ok a := by
  have hended : Takes Reader.ended rest () [] := (Takes.peekToken_nil hend).bind (Takes.pure _ _)
  have hall : Takes (do let a ← reader; Reader.ended; pure a) s.toList a [] :=
    h.bind (hended.bind (Takes.pure _ _))
  obtain ⟨q, hq⟩ := hall ⟨1, 0⟩
  change ((do let a ← reader; Reader.ended; pure a : Reader α).run ⟨s.toList, ⟨1, 0⟩⟩ >>= _) = _
  rw [hq]
  rfl

end DeployTrigger.Json
