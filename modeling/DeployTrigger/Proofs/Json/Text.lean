import DeployTrigger.Proofs.Json.Reading

/-!
Texts between quotes: what stands there (`Letters`), told without a reader, and that it is read. Every
character comes back from each of its forms (`readFrom_letter`), and texts are written in one of them
(`letters_write`), so a text is read back from its written form.
-/
namespace DeployTrigger.Json.Text
variable {out cs rest : List Char} {c : Char} {p : Position}

/-- Four digits in front of a rest, and their value. -/
inductive FourHex : List Char → Nat → List Char → Prop where
  | mk {a b c d : Char} {i j k l : Nat} (ha : hexDigit? a = some i) (hb : hexDigit? b = some j)
      (hc : hexDigit? c = some k) (hd : hexDigit? d = some l) (rest : List Char) :
      FourHex (a :: b :: c :: d :: rest) (((i * 16 + j) * 16 + k) * 16 + l) rest

/-- A character between quotes in front of a rest: as it is or as an escape. Beyond 16 bits it is two
escapes. -/
inductive Letter : List Char → Char → List Char → Prop where
  | plain {c : Char} (rest : List Char) (hquote : c ≠ '"') (hbackslash : c ≠ '\\')
      (hcontrol : ¬ c.toNat < 32) : Letter (c :: rest) c rest
  | short {e c : Char} (rest : List Char) (h : shortEscape? e = some c) :
      Letter ('\\' :: e :: rest) c rest
  | code {cs rest : List Char} {n : Nat} (h : FourHex cs n rest) (hleading : isLeading n = false)
      (htrailing : isTrailing n = false) : Letter ('\\' :: 'u' :: cs) (Char.ofNat n) rest
  | pair {cs mid rest : List Char} {m n : Nat} (h : FourHex cs m ('\\' :: 'u' :: mid))
      (hleading : isLeading m = true) (h' : FourHex mid n rest) (htrailing : isTrailing n = true) :
      Letter ('\\' :: 'u' :: cs)
        (Char.ofNat ((m - 0xD800) * 0x400 + (n - 0xDC00) + 0x10000)) rest

/-- Characters up to the closing quote, which is taken along. -/
inductive Letters : List Char → List Char → List Char → Prop where
  | nil (rest : List Char) : Letters ('"' :: rest) [] rest
  | cons {cs mid s rest : List Char} {c : Char} (h : Letter cs c mid) (hs : Letters mid s rest) :
      Letters cs (c :: s) rest

theorem utf8Size_of_hexDigit? {n : Nat} (h : hexDigit? c = some n) : c.utf8Size = 1 := by
  have hascii : c.val ≤ 127 := by
    unfold hexDigit? at h
    split at h
    · rename_i hd
      simp only [Char.isDigit, Bool.and_eq_true, decide_eq_true_eq] at hd
      exact UInt32.le_trans hd.2 (by decide)
    split at h
    · rename_i hlower
      simp only [Bool.and_eq_true, decide_eq_true_eq] at hlower
      exact UInt32.le_trans hlower.2 (by decide)
    split at h
    · rename_i hupper
      simp only [Bool.and_eq_true, decide_eq_true_eq] at hupper
      exact UInt32.le_trans hupper.2 (by decide)
    · cases h
  exact Char.utf8Size_eq_one_iff.mpr hascii

theorem bytesAhead_of_narrow (h : ∀ c ∈ cs, c.utf8Size = 1) :
    ∃ q, bytesAhead p cs.length (cs ++ rest) = some q := by
  induction cs generalizing p with
  | nil => exact ⟨p, by rw [List.length_nil, bytesAhead]⟩
  | cons c cs ih =>
    have hc : c.utf8Size = 1 := h c List.mem_cons_self
    have hfits : ¬ cs.length + 1 < c.utf8Size := by omega
    have hleft : cs.length + 1 - c.utf8Size = cs.length := by omega
    obtain ⟨q, hq⟩ := ih (p := p.after c) fun x hx => h x (List.mem_cons_of_mem c hx)
    exact ⟨q, by rw [List.length_cons, List.cons_append, bytesAhead, if_neg hfits, hleft, hq]⟩

/-- Four digits are in order, for they take one byte each. -/
theorem hexFault?_eq_none {n : Nat} (h : FourHex cs n rest) : hexFault? p cs = none := by
  cases h with
  | @mk a b c d _ _ _ _ ha hb hc hd =>
  have hnarrow : ∀ x ∈ [a, b, c, d], x.utf8Size = 1 := by
    simp [utf8Size_of_hexDigit? ha, utf8Size_of_hexDigit? hb, utf8Size_of_hexDigit? hc,
      utf8Size_of_hexDigit? hd]
  obtain ⟨q, hq⟩ : ∃ q, bytesAhead p 4 (a :: b :: c :: d :: rest) = some q :=
    bytesAhead_of_narrow hnarrow
  rw [hexFault?, hq]
  exact if_pos (by simp [ha, hb, hc, hd])

theorem readFrom_hex {lead : Option Nat} {n : Nat} {place : Place} {taken : List Char}
    (h : FourHex cs n rest) (hplace : Place.ofHex lead n = .ok (place, taken)) :
    ∃ q, readFrom out (.hex lead 4 0) p cs = readFrom (taken ++ out) place q rest := by
  obtain ⟨ha, hb, hc, hd, _⟩ := h
  simp only [readFrom, ha, hb, hc, hd, Option.getD_some, Nat.zero_mul, Nat.zero_add]
  simp only [hplace]
  exact ⟨_, rfl⟩

/-- An escape by its code is read as its four digits are. -/
theorem readFrom_code {n : Nat} {place : Place} {taken : List Char} (h : FourHex cs n rest)
    (hplace : Place.ofHex none n = .ok (place, taken)) :
    ∃ q, readFrom out .plain p ('\\' :: 'u' :: cs) = readFrom (taken ++ out) place q rest := by
  rw [readFrom, if_neg (by decide), if_pos rfl, readFrom, if_pos rfl, hexFault?_eq_none h]
  exact readFrom_hex h hplace

theorem readFrom_second {m n : Nat} {place : Place} {taken : List Char} (h : FourHex cs n rest)
    (hplace : Place.ofHex (some m) n = .ok (place, taken)) :
    ∃ q, readFrom out (.leading m) p ('\\' :: 'u' :: cs) = readFrom (taken ++ out) place q rest := by
  rw [readFrom, if_pos rfl, readFrom, if_pos rfl, hexFault?_eq_none h]
  exact readFrom_hex h hplace

/-- A character is read from each of its forms. -/
theorem readFrom_letter (h : Letter cs c rest) (out : List Char) (p : Position) :
    ∃ q, readFrom out .plain p cs = readFrom (c :: out) .plain q rest := by
  cases h with
  | plain _ hquote hbackslash hcontrol =>
    exact ⟨_, by rw [readFrom, if_neg hquote, if_neg hbackslash, if_neg hcontrol]⟩
  | @short e _ _ hshort =>
    have hcode : e ≠ 'u' := by
      rintro rfl
      have hnone : shortEscape? 'u' = none := by decide
      rw [hnone] at hshort
      cases hshort
    refine ⟨(p.after '\\').after e, ?_⟩
    rw [readFrom, if_neg (by decide), if_pos rfl, readFrom, if_neg hcode, hshort]
  | code hn hleading htrailing =>
    exact readFrom_code hn (by rw [Place.ofHex, htrailing, hleading]; rfl)
  | @pair _ _ _ m n hm hleading hn htrailing =>
    have hnot : isTrailing m = false := by
      simp only [isLeading, isTrailing, Bool.and_eq_true, Bool.and_eq_false_iff, decide_eq_true_eq,
        decide_eq_false_iff_not] at hleading ⊢
      omega
    obtain ⟨q, hfirst⟩ : ∃ q, readFrom out .plain p _ = readFrom ([] ++ out) (.leading m) q _ :=
      readFrom_code hm (by rw [Place.ofHex, hnot, hleading]; rfl)
    obtain ⟨q', hsecond⟩ : ∃ q', readFrom out (.leading m) q _ =
        readFrom ([Char.ofNat ((m - 0xD800) * 0x400 + (n - 0xDC00) + 0x10000)] ++ out) .plain q' _ :=
      readFrom_second hn (by rw [Place.ofHex, htrailing]; rfl)
    exact ⟨q', hfirst.trans hsecond⟩

theorem readFrom_letters {s : List Char} (h : Letters cs s rest) (out : List Char) (p : Position) :
    ∃ q, readFrom out .plain p cs = .ok (s.reverse ++ out, ⟨rest, q⟩) := by
  induction h generalizing out p with
  | nil rest => exact ⟨_, by rw [readFrom, if_pos rfl]; rfl⟩
  | @cons _ _ s _ c hc _ ih =>
    obtain ⟨q, hq⟩ := readFrom_letter hc out p
    obtain ⟨q', hq'⟩ := ih (c :: out) q
    refine ⟨q', ?_⟩
    rw [hq, hq', List.reverse_cons, List.append_assoc]
    rfl

theorem fourHex_control : ∀ n < 32,
    fourHex n = ['0', '0', Nat.digitChar (n / 16), Nat.digitChar (n % 16)] := by decide

theorem hexDigit?_digitChar : ∀ d < 16, hexDigit? (Nat.digitChar d) = some d := by decide

theorem isFourHex_control {n : Nat} (h : n < 32) (rest : List Char) :
    FourHex (fourHex n ++ rest) n rest := by
  have hvalue : ((0 * 16 + 0) * 16 + n / 16) * 16 + n % 16 = n := by omega
  have hzero : hexDigit? '0' = some 0 := by decide
  have hdigits := FourHex.mk hzero hzero (hexDigit?_digitChar (n / 16) (by omega))
    (hexDigit?_digitChar (n % 16) (by omega)) rest
  rw [hvalue] at hdigits
  rw [fourHex_control n h]
  exact hdigits

/-- A character is written as a short escape, as an escape with four digits or as it is. -/
theorem letter_writeChar (c : Char) (rest : List Char) : Letter (writeChar c ++ rest) c rest := by
  have hofNat : Char.ofNat c.toNat = c := Char.ofNat_toNat c
  by_cases hquote : c = '"'
  · subst hquote
    exact .short rest (e := '"') rfl
  by_cases hbackslash : c = '\\'
  · subst hbackslash
    exact .short rest (e := '\\') rfl
  by_cases hfeed : c = '\n'
  · subst hfeed
    exact .short rest (e := 'n') rfl
  by_cases hreturn : c = '\r'
  · subst hreturn
    exact .short rest (e := 'r') rfl
  by_cases htab : c = '\t'
  · subst htab
    exact .short rest (e := 't') rfl
  by_cases hback : c.toNat = 8
  · rw [hback] at hofNat
    subst hofNat
    exact .short rest (e := 'b') rfl
  by_cases hform : c.toNat = 12
  · rw [hform] at hofNat
    subst hofNat
    exact .short rest (e := 'f') rfl
  rw [writeChar, if_neg hquote, if_neg hbackslash, if_neg hfeed, if_neg hreturn, if_neg htab,
    if_neg hback, if_neg hform]
  by_cases hcontrol : c.toNat < 32
  · have hleading : isLeading c.toNat = false := by
      simp only [isLeading, Bool.and_eq_false_iff, decide_eq_false_iff_not]
      omega
    have htrailing : isTrailing c.toNat = false := by
      simp only [isTrailing, Bool.and_eq_false_iff, decide_eq_false_iff_not]
      omega
    have hcode := Letter.code (isFourHex_control hcontrol rest) hleading htrailing
    rw [hofNat] at hcode
    rw [if_pos hcontrol]
    exact hcode
  · rw [if_neg hcontrol]
    exact .plain rest hquote hbackslash hcontrol

theorem letters_write (s rest : List Char) : Letters (s.flatMap writeChar ++ '"' :: rest) s rest := by
  induction s with
  | nil => exact .nil rest
  | cons c s ih =>
    rw [List.flatMap_cons, List.append_assoc]
    exact .cons (letter_writeChar c _) ih

theorem toList_write_append (s : String) (rest : List Char) :
    (write s).toList ++ rest = '"' :: (s.toList.flatMap writeChar ++ '"' :: rest) := by
  rw [write, String.toList_ofList, List.append_assoc]
  rfl

end Text

theorem Takes.letters {cs rest : List Char} {s : String} (h : Text.Letters cs s.toList rest) :
    Takes Reader.text ('"' :: cs) s rest := by
  refine (Takes.advance _ _).bind (Takes.get fun p => ?_)
  intro p'
  obtain ⟨q, hq⟩ := Text.readFrom_letters h [] p
  refine ⟨q, ?_⟩
  dsimp only
  rw [hq]
  dsimp only
  rw [List.append_nil, List.reverse_reverse, String.ofList_toList]
  rfl

theorem Takes.text (s : String) (rest : List Char) :
    Takes Reader.text ((Text.write s).toList ++ rest) s rest := by
  rw [Text.toList_write_append]
  exact Takes.letters (Text.letters_write s.toList rest)

end DeployTrigger.Json
