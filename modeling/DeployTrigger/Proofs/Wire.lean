import DeployTrigger.Kit.Reason
import Mathlib.Logic.Function.Basic

/-!
The wire form of module errors. The host reads exactly the encodings, each as the error it came from
(`ModuleError.decode_eq_ok_iff`), and a module's own reasons are written and read the same way
(`Kit.Reason.encode?_toModuleError`, `Kit.Reason.map_decode`).
-/
namespace DeployTrigger

theorem LittleEndian.decode_lt (b : Bytes) : LittleEndian.decode b < Nat.pow 256 b.length := by
  induction b with
  | nil => exact Nat.one_pos
  | cons x r ih =>
    have hx : x.toNat < 256 := x.toNat_lt
    have hp : Nat.pow 256 (r.length + 1) = Nat.pow 256 r.length * 256 := rfl
    rw [LittleEndian.decode, List.length_cons, hp]
    omega

theorem Utf8.decode_eq_ok_iff {b : Bytes} {s : String} : Utf8.decode b = .ok s ↔ b = utf8 s := by
  rw [← Utf8.decode?_eq_some_iff, Utf8.decode]
  cases Utf8.decode? b <;> simp

namespace ModuleError

theorem encodeText?_eq_some_iff {s : String} {t : Bytes} :
    encodeText? s = some t ↔
      (utf8 s).length < UInt32.size ∧ t = LittleEndian.encode 4 (utf8 s).length ++ utf8 s := by
  by_cases h : (utf8 s).length < UInt32.size <;> simp [encodeText?, h, eq_comm]

/-- The four bytes of a length and the text behind them, read apart. -/
theorem decodeText_append {size : Bytes} (h : size.length = 4) (rest : Bytes) :
    decodeText (size ++ rest) =
      if rest.length < LittleEndian.decode size then .error .short
      else
        match Utf8.decode (rest.take (LittleEndian.decode size)) with
        | .ok s => .ok (s, rest.drop (LittleEndian.decode size))
        | .error fault => .error (.notText fault) := by
  have htake : (size ++ rest).take 4 = size := by rw [← h, List.take_left]
  have hdrop : (size ++ rest).drop 4 = rest := by rw [← h, List.drop_left]
  have hfour : ¬ size.length < 4 := by omega
  rw [decodeText, htake, hdrop]
  exact if_neg hfour

theorem decodeText_of_short {b : Bytes} (h : b.length < 4) : decodeText b = .error .short := by
  have hlen : (b.take 4).length < 4 := by rw [List.length_take]; omega
  rw [decodeText, if_pos hlen]

/-- A text is read where its encoding stands, and nowhere else. -/
theorem decodeText_eq_ok_iff {b left : Bytes} {s : String} :
    decodeText b = .ok (s, left) ↔ ∃ t, encodeText? s = some t ∧ b = t ++ left := by
  simp only [encodeText?_eq_some_iff]
  constructor
  · intro h
    by_cases hb : b.length < 4
    · rw [decodeText_of_short hb] at h
      cases h
    obtain ⟨size, rest, hfour, rfl⟩ : ∃ size rest : Bytes, size.length = 4 ∧ b = size ++ rest :=
      ⟨b.take 4, b.drop 4, by rw [List.length_take]; omega, (List.take_append_drop 4 b).symm⟩
    rw [decodeText_append hfour] at h
    split at h
    · cases h
    rename_i hsize
    split at h
    · rename_i ht
      cases h
      have htext := Utf8.decode_eq_ok_iff.mp ht
      have hlen : (utf8 s).length = LittleEndian.decode size := by
        rw [← htext, List.length_take]
        omega
      have hlt := LittleEndian.decode_lt size
      have henc := LittleEndian.encode_decode size
      rw [hfour, ← hlen] at hlt henc
      exact ⟨_, ⟨hlt, rfl⟩, by rw [henc, ← htext, List.append_assoc, List.take_append_drop]⟩
    · cases h
  · rintro ⟨_, ⟨hlt, rfl⟩, rfl⟩
    have hsize : LittleEndian.decode (LittleEndian.encode 4 (utf8 s).length) = (utf8 s).length := by
      rw [LittleEndian.decode_encode]
      exact Nat.mod_eq_of_lt hlt
    rw [List.append_assoc, decodeText_append (LittleEndian.length_encode _ _), hsize]
    have hge : ¬ (utf8 s ++ left).length < (utf8 s).length := by
      rw [List.length_append]
      omega
    rw [if_neg hge, List.take_left, List.drop_left, Utf8.decode_eq_ok_iff.mpr rfl]

/-- The errors with a text, by their tags. -/
inductive Tagged : UInt8 → (String → ModuleError) → Prop where
  | unavailable : Tagged 1 .unavailable
  | rejected : Tagged 2 .rejected
  | other : Tagged 3 .other

variable {tag : UInt8} {make : String → ModuleError}

theorem Tagged.encode? (h : Tagged tag make) (s : String) :
    (make s).encode? = (encodeText? s).map (tag :: ·) := by
  cases h <;> rfl

theorem Tagged.decodeFirst (h : Tagged tag make) (b : Bytes) :
    decodeFirst (tag :: b) = (decodeText b).map fun (s, left) => (make s, left) := by
  cases h <;> rfl

theorem eq_invalidTimestamp_or_tagged (e : ModuleError) :
    e = invalidTimestamp ∨ ∃ tag make s, Tagged tag make ∧ e = make s := by
  cases e with
  | invalidTimestamp => exact .inl rfl
  | unavailable s => exact .inr ⟨1, _, s, .unavailable, rfl⟩
  | rejected s => exact .inr ⟨2, _, s, .rejected, rfl⟩
  | other s => exact .inr ⟨3, _, s, .other, rfl⟩

theorem tag_cases (tag : UInt8) : tag = 0 ∨ (∃ make, Tagged tag make) ∨ 3 < tag := by
  by_cases h0 : tag = 0
  · exact .inl h0
  by_cases h1 : tag = 1
  · subst h1
    exact .inr (.inl ⟨_, .unavailable⟩)
  by_cases h2 : tag = 2
  · subst h2
    exact .inr (.inl ⟨_, .rejected⟩)
  by_cases h3 : tag = 3
  · subst h3
    exact .inr (.inl ⟨_, .other⟩)
  · refine .inr (.inr (UInt8.lt_iff_toNat_lt.mpr ?_))
    simp only [← UInt8.toNat_inj, UInt8.toNat_ofNat] at h0 h1 h2 h3 ⊢
    omega

theorem decodeFirst_of_unknown (h : 3 < tag) (b : Bytes) :
    decodeFirst (tag :: b) = .error (.unknownTag tag) := by
  have hne : tag ≠ 0 ∧ tag ≠ 1 ∧ tag ≠ 2 ∧ tag ≠ 3 := by
    refine ⟨?_, ?_, ?_, ?_⟩ <;> rintro rfl <;> revert h <;> decide
  simp [decodeFirst, hne]

/-- An error is read where its encoding stands, and nowhere else. -/
theorem decodeFirst_eq_ok_iff {b left : Bytes} {e : ModuleError} :
    decodeFirst b = .ok (e, left) ↔ ∃ t, e.encode? = some t ∧ b = t ++ left := by
  constructor
  · intro h
    cases b with
    | nil => cases h
    | cons tag b =>
      obtain rfl | ⟨make, ht⟩ | ht := tag_cases tag
      · cases h
        exact ⟨[0], rfl, rfl⟩
      · rw [ht.decodeFirst] at h
        cases hd : decodeText b with
        | error err =>
          rw [hd] at h
          cases h
        | ok read =>
          rw [hd] at h
          cases h
          obtain ⟨t, hs, rfl⟩ := decodeText_eq_ok_iff.mp hd
          exact ⟨tag :: t, by rw [ht.encode?, hs]; rfl, rfl⟩
      · rw [decodeFirst_of_unknown ht] at h
        cases h
  · rintro ⟨t, he, rfl⟩
    obtain rfl | ⟨tag, make, s, ht, rfl⟩ := eq_invalidTimestamp_or_tagged e
    · cases he
      rfl
    · rw [ht.encode?, Option.map_eq_some_iff] at he
      obtain ⟨t, hs, rfl⟩ := he
      rw [List.cons_append, ht.decodeFirst, decodeText_eq_ok_iff.mpr ⟨t, hs, rfl⟩]
      rfl

theorem decode_eq_ok_iff_decodeFirst {b : Bytes} {e : ModuleError} :
    decode b = .ok e ↔ decodeFirst b = .ok (e, []) := by
  rw [decode]
  cases decodeFirst b with
  | error err => simp
  | ok read =>
    obtain ⟨e', left⟩ := read
    cases left <;> simp

/-- The bytes that are read as an error are its encoding. -/
theorem decode_eq_ok_iff {b : Bytes} {e : ModuleError} : decode b = .ok e ↔ e.encode? = some b := by
  rw [decode_eq_ok_iff_decodeFirst, decodeFirst_eq_ok_iff]
  simp

/-- No encoding goes on where another one ends. -/
theorem eq_nil_of_encode?_append {e e' : ModuleError} {b x : Bytes} (h : e.encode? = some b)
    (h' : e'.encode? = some (b ++ x)) : x = [] := by
  have hfst : decodeFirst (b ++ x) = .ok (e, x) := decodeFirst_eq_ok_iff.mpr ⟨b, h, rfl⟩
  have hsnd : decodeFirst (b ++ x) = .ok (e', []) :=
    decodeFirst_eq_ok_iff.mpr ⟨b ++ x, h', (List.append_nil _).symm⟩
  rw [hfst] at hsnd
  cases hsnd
  rfl

/-- Behind the tag and the length of an encoding stands a text of that length. -/
theorem exists_text_of_encode? {e : ModuleError} {size body : Bytes}
    (h : e.encode? = some (tag :: (size ++ body))) (htag : tag ≠ 0) (hsize : size.length = 4) :
    ∃ s, body = utf8 s ∧ LittleEndian.decode size = body.length := by
  obtain rfl | ⟨tag', make, s, ht, rfl⟩ := eq_invalidTimestamp_or_tagged e
  · injection h with h
    injection h with h _
    exact absurd h.symm htag
  · rw [ht.encode?, Option.map_eq_some_iff] at h
    obtain ⟨t, ht, heq⟩ := h
    obtain ⟨hlt, rfl⟩ := encodeText?_eq_some_iff.mp ht
    injection heq with _ heq
    have hlen : (LittleEndian.encode 4 (utf8 s).length).length = size.length := by
      rw [LittleEndian.length_encode, hsize]
    obtain ⟨rfl, rfl⟩ := List.append_inj heq hlen
    refine ⟨s, rfl, ?_⟩
    rw [LittleEndian.decode_encode]
    exact Nat.mod_eq_of_lt hlt

end ModuleError

namespace Kit.Reason
open ModuleError (Tagged)

/-- Four bytes of a word are its digits to the base 256. -/
theorem wordBytes_eq (n : UInt32) : wordBytes n = LittleEndian.encode 4 n.toNat := by
  have h8 : (n >>> 8).toNat = n.toNat / 256 := by simp [Nat.shiftRight_eq_div_pow]
  have h16 : (n >>> 16).toNat = n.toNat / 256 / 256 := by
    simp [Nat.shiftRight_eq_div_pow, Nat.div_div_eq_div_mul]
  have h24 : (n >>> 24).toNat = n.toNat / 256 / 256 / 256 := by
    simp [Nat.shiftRight_eq_div_pow, Nat.div_div_eq_div_mul]
  have hbyte (w : UInt32) : w.toUInt8 = UInt8.ofNat (w.toNat % 256) := by
    rw [← UInt8.toNat_inj]
    simp
  simp only [wordBytes, LittleEndian.encode, hbyte, h8, h16, h24]

theorem encodeText?_eq (s : String) :
    ModuleError.encodeText? s =
      if (utf8 s).length ≤ 0xFFFFFFFF then
        some (wordBytes (UInt32.ofNat (utf8 s).length) ++ utf8 s)
      else none := by
  by_cases h : (utf8 s).length ≤ 0xFFFFFFFF
  · have hlt : (utf8 s).length < UInt32.size := by
      rw [UInt32.size]
      omega
    have hword : (UInt32.ofNat (utf8 s).length).toNat = (utf8 s).length :=
      UInt32.toNat_ofNat_of_lt' hlt
    rw [ModuleError.encodeText?, if_pos hlt, if_pos h, wordBytes_eq, hword]
  · have hge : ¬ (utf8 s).length < UInt32.size := by
      rw [UInt32.size]
      omega
    rw [ModuleError.encodeText?, if_neg hge, if_neg h]

/-- A module writes a reason as the host would write the error that it makes of it. -/
theorem encode?_toModuleError (r : Reason) : r.toModuleError.encode? = r.encode? := by
  cases r with
  | invalidTimestamp => rfl
  | unavailable s | rejected s | other s =>
    simp only [toModuleError, ModuleError.encode?, encodeText?_eq, encode?, text?, tag]
    split <;> rfl

/-- The text of a reason has to be all that is left. -/
theorem decodeText_eq (b : Bytes) :
    decodeText b =
      match ModuleError.decodeText b with
      | .ok (s, left) => if left.isEmpty then .ok s else .error .leftOver
      | .error e => .error e := by
  match b with
  | [] | [_] | [_, _] | [_, _, _] => rfl
  | a :: b :: c :: d :: body =>
    have hsize : LittleEndian.decode [a, b, c, d] =
        a.toNat + b.toNat * 0x100 + c.toNat * 0x10000 + d.toNat * 0x1000000 := by
      simp only [LittleEndian.decode]
      omega
    have hread := @ModuleError.decodeText_append [a, b, c, d] rfl body
    rw [List.cons_append, List.cons_append, List.cons_append, List.cons_append, List.nil_append,
      hsize] at hread
    rw [hread, decodeText]
    generalize a.toNat + b.toNat * 0x100 + c.toNat * 0x10000 + d.toNat * 0x1000000 = size
    by_cases hshort : body.length < size
    · simp [hshort]
    · simp only [hshort, if_false]
      cases Utf8.decode (body.take size) with
      | error fault => rfl
      | ok s =>
        have hall : body.length = size ↔ (body.drop size).isEmpty = true := by
          rw [List.isEmpty_iff, List.drop_eq_nil_iff]
          omega
        simp only [hall]

/-- A module reads a reason where the host reads the error, and fails for the same cause. -/
theorem map_decode (b : Bytes) : (decode b).map toModuleError = ModuleError.decode b := by
  cases b with
  | nil => rfl
  | cons tag b =>
    have htext {make : String → Reason} {make' : String → ModuleError} (h : Tagged tag make')
        (hform : forms[tag.toNat]? = some (.withText make))
        (hmake : ∀ s, (make s).toModuleError = make' s) :
        (decode (tag :: b)).map toModuleError = ModuleError.decode (tag :: b) := by
      rw [decode, hform, ModuleError.decode, h.decodeFirst]
      simp only [decodeText_eq]
      cases ModuleError.decodeText b with
      | error e => rfl
      | ok read =>
        obtain ⟨s, left⟩ := read
        cases left with
        | nil => exact congrArg Except.ok (hmake s)
        | cons x left => rfl
    obtain rfl | ⟨make, ht⟩ | ht := ModuleError.tag_cases tag
    · cases b <;> rfl
    · have ht' := ht
      cases ht with
      | unavailable | rejected | other => exact htext ht' rfl fun _ => rfl
    · have hnone : forms[tag.toNat]? = none := by
        rw [List.getElem?_eq_none_iff]
        exact UInt8.lt_iff_toNat_lt.mp ht
      rw [decode, hnone, ModuleError.decode, ModuleError.decodeFirst_of_unknown ht]
      rfl

theorem bijective_toModuleError : Function.Bijective toModuleError := by
  constructor
  · intro r r' h
    cases r <;> cases r' <;> simp_all [toModuleError]
  · intro e
    cases e with
    | invalidTimestamp => exact ⟨.invalidTimestamp, rfl⟩
    | unavailable s => exact ⟨.unavailable s, rfl⟩
    | rejected s => exact ⟨.rejected s, rfl⟩
    | other s => exact ⟨.other s, rfl⟩

theorem decode_eq_ok_iff {b : Bytes} {r : Reason} : decode b = .ok r ↔ r.encode? = some b := by
  rw [← encode?_toModuleError, ← ModuleError.decode_eq_ok_iff, ← map_decode]
  cases decode b with
  | error e => simp [Except.map]
  | ok r' => simp [Except.map, bijective_toModuleError.1.eq_iff]

theorem exists_encode? {r : Reason} (h : ∀ s, r.text? = some s → (utf8 s).length < UInt32.size) :
    ∃ b, r.encode? = some b := by
  have htext {s : String} (hs : (utf8 s).length < UInt32.size) :
      (utf8 s).length ≤ 0xFFFFFFFF := by
    rw [UInt32.size] at hs
    omega
  cases r with
  | invalidTimestamp => exact ⟨_, rfl⟩
  | unavailable s | rejected s | other s => exact ⟨_, if_pos (htext (h s rfl))⟩

/-- Neither the host nor the module reads anything from the bytes. -/
def Refused (b : Bytes) : Prop :=
  (∀ e, ModuleError.decode b ≠ .ok e) ∧ ∀ r, decode b ≠ .ok r

theorem refused_of_not_encoding {b : Bytes} (h : ∀ e : ModuleError, e.encode? ≠ some b) :
    Refused b := by
  refine ⟨fun e he => h e (ModuleError.decode_eq_ok_iff.mp he), fun r hr => ?_⟩
  apply h r.toModuleError
  rw [encode?_toModuleError]
  exact decode_eq_ok_iff.mp hr

/-- What a module hands over is what the host gets. Both sides write a reason alike and the host
reads it back; both read the same bytes as the same reason, and these are the encodings. So bytes cut
short or followed by more, an unknown tag, a wrong length and a text that is none are refused. -/
theorem reasons_cross_unchanged :
    Function.Bijective toModuleError ∧
    (∀ r : Reason, (∀ s, r.text? = some s → (utf8 s).length < UInt32.size) →
      ∃ b, r.encode? = some b ∧ r.toModuleError.encode? = some b ∧
        ModuleError.decode b = .ok r.toModuleError) ∧
    (∀ b, (decode b).map toModuleError = ModuleError.decode b) ∧
    (∀ (b : Bytes) (e : ModuleError), ModuleError.decode b = .ok e ↔ e.encode? = some b) ∧
    (∀ (b : Bytes) (r : Reason), decode b = .ok r ↔ r.encode? = some b) ∧
    (∀ (e : ModuleError) (b x : Bytes), x ≠ [] → e.encode? = some (b ++ x) → Refused b) ∧
    (∀ (e : ModuleError) (b x : Bytes), x ≠ [] → e.encode? = some b → Refused (b ++ x)) ∧
    (∀ (tag : UInt8) (b : Bytes), 3 < tag → Refused (tag :: b)) ∧
    (∀ (tag : UInt8) (size body : Bytes), tag ≠ 0 → size.length = 4 →
      LittleEndian.decode size ≠ body.length ∨ Utf8.decode? body = none →
      Refused (tag :: (size ++ body))) := by
  refine ⟨bijective_toModuleError, ?_, map_decode, fun _ _ => ModuleError.decode_eq_ok_iff,
    fun _ _ => decode_eq_ok_iff, ?_, ?_, ?_, ?_⟩
  · intro r hr
    obtain ⟨b, hb⟩ := exists_encode? hr
    have hb' : r.toModuleError.encode? = some b := by rw [encode?_toModuleError, hb]
    exact ⟨b, hb, hb', ModuleError.decode_eq_ok_iff.mpr hb'⟩
  · intro e b x hx he
    exact refused_of_not_encoding fun e' he' => hx (ModuleError.eq_nil_of_encode?_append he' he)
  · intro e b x hx he
    exact refused_of_not_encoding fun e' he' => hx (ModuleError.eq_nil_of_encode?_append he he')
  · intro tag b htag
    refine refused_of_not_encoding fun e he => ?_
    have hread := ModuleError.decode_eq_ok_iff.mpr he
    rw [ModuleError.decode, ModuleError.decodeFirst_of_unknown htag] at hread
    cases hread
  · intro tag size body htag hsize hbad
    refine refused_of_not_encoding fun e he => ?_
    obtain ⟨s, rfl, hlen⟩ := ModuleError.exists_text_of_encode? he htag hsize
    obtain hne | hnone := hbad
    · exact hne hlen
    · rw [Utf8.decode?_utf8] at hnone
      cases hnone

end Kit.Reason
end DeployTrigger
