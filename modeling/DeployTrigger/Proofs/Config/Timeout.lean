import DeployTrigger.Proofs.Config.Layers
import DeployTrigger.Proofs.Duration.Sums

/-!
The timeout in a file of settings. It is the exact sum of its amounts, or there is none
(`timeout_exact`); whatever else the file holds is read as it is without the timeout
(`settingsOf_insert`).
-/
namespace DeployTrigger.Config
open Json Duration

section Members
variable {m m' : Members} {before after ms : List (String × Value)} {key : String} {v : Value}
  {t : Option Duration} {c : Config}

/-- The ways in which a member is taken. Only a timeout can fail otherwise than with a complaint. -/
inductive Took (m : Members) (key : String) (v : Value) : Except (Fault Unit) Members → Prop where
  | entrypoint (hkey : key = "entrypoint") (s : String) :
      Took m key v (.ok { m with entrypoint := some s })
  | timeout {t : Option Duration} (hkey : key = "timeout") (hnone : m.timeout = none)
      (hv : timeoutOf v = .ok t) : Took m key v (.ok { m with timeout := some t })
  | other (h : key ≠ "timeout") : Took m key v (.ok { m with others := (key, v) :: m.others })
  | refused : Took m key v (.error (.error ()))
  | fault {e : Fault Unit} (hkey : key = "timeout") (hv : timeoutOf v = .error e) :
      Took m key v (.error e)

theorem took (m : Members) (key : String) (v : Value) : Took m key v (m.take (key, v)) := by
  rw [Members.take]
  dsimp only
  split
  · rename_i hkey
    split
    · exact .refused
    cases v with
    | text s => exact .entrypoint hkey s
    | null | bool _ | number _ | array _ | object _ => exact .refused
  split
  · rename_i hkey
    split
    · exact .refused
    rename_i hnone
    cases hv : timeoutOf v with
    | ok t => exact .timeout hkey (Option.not_isSome_iff_eq_none.mp hnone) hv
    | error e => exact .fault hkey hv
  · rename_i hkey
    exact .other hkey

theorem foldlM_take_cons {e : Except (Fault Unit) Members}
    (h : ((key, v) :: ms).foldlM Members.take m = e) :
    (∃ next, Took m key v (.ok next) ∧ ms.foldlM Members.take next = e) ∨
      ∃ fault, Took m key v (.error fault) ∧ e = .error fault := by
  have htook := took m key v
  rw [List.foldlM_cons] at h
  cases htake : m.take (key, v) with
  | ok next =>
    rw [htake] at h htook
    exact .inl ⟨next, htook, h⟩
  | error fault =>
    rw [htake] at h htook
    exact .inr ⟨fault, htook, h.symm⟩

/-- A timeout that was read stays. -/
theorem timeout_of_foldlM (hm : m.timeout = some t) (h : ms.foldlM Members.take m = .ok m') :
    m'.timeout = some t := by
  induction ms generalizing m with
  | nil =>
    cases h
    exact hm
  | cons member ms ih =>
    obtain ⟨next, htook, h⟩ | ⟨_, _, h⟩ := foldlM_take_cons h
    · cases htook with
      | entrypoint _ s => exact ih (m := { m with entrypoint := some s }) hm h
      | timeout _ hnone _ =>
        rw [hm] at hnone
        cases hnone
      | other _ => exact ih (m := { m with others := member :: m.others }) hm h
    · cases h

theorem timeoutOf_of_foldlM (h : ms.foldlM Members.take m = .ok m') (hv : ("timeout", v) ∈ ms) :
    ∃ t, timeoutOf v = .ok t ∧ m'.timeout = some t := by
  induction ms generalizing m with
  | nil => exact absurd hv List.not_mem_nil
  | cons member ms ih =>
    obtain ⟨next, htook, h⟩ | ⟨_, _, h⟩ := foldlM_take_cons h
    · obtain rfl | hv := List.mem_cons.mp hv
      · cases htook with
        | entrypoint hkey _ => exact absurd hkey (by simp)
        | timeout _ _ ht => exact ⟨_, ht, timeout_of_foldlM rfl h⟩
        | other hkey => exact absurd rfl hkey
      · exact ih h hv
    · cases h

/-- Settings have the timeout of every member of that name. -/
theorem timeoutOf_of_settingsOf (h : settingsOf ms = .ok c) (hv : ("timeout", v) ∈ ms) :
    timeoutOf v = .ok c.timeout := by
  rw [settingsOf] at h
  cases hfold : ms.foldlM Members.take ⟨none, none, []⟩ with
  | error e =>
    rw [hfold] at h
    cases h
  | ok m =>
    rw [hfold] at h
    obtain ⟨t, ht, hm⟩ := timeoutOf_of_foldlM hfold hv
    change m.settle = .ok c at h
    rw [Members.settle, ofMembers] at h
    cases hlimits : limitsFrom none none m.others.reverse with
    | error flaw =>
      rw [hlimits] at h
      cases h
    | ok limits =>
      rw [hlimits] at h
      cases h
      rw [ht, hm]
      rfl

theorem settle_ne_breakdown (m : Members) : m.settle ≠ .error .breakdown := by
  intro h
  rw [Members.settle] at h
  cases hm : ofMembers m with
  | ok c =>
    rw [hm] at h
    cases h
  | error flaw =>
    rw [hm] at h
    cases h

/-- Nothing but a timeout breaks the reader down. -/
theorem timeoutOf_of_breakdown (h : ms.foldlM Members.take m >>= Members.settle = .error .breakdown) :
    ∃ v, ("timeout", v) ∈ ms ∧ timeoutOf v = .error .breakdown := by
  have hfold : ms.foldlM Members.take m = .error .breakdown := by
    cases hfold : ms.foldlM Members.take m with
    | ok m' =>
      rw [hfold] at h
      exact absurd h (settle_ne_breakdown m')
    | error e =>
      rw [hfold] at h
      cases h
      rfl
  clear h
  induction ms generalizing m with
  | nil => cases hfold
  | cons member ms ih =>
    obtain ⟨next, _, h⟩ | ⟨fault, htook, h⟩ := foldlM_take_cons hfold
    · obtain ⟨u, hu, hbreak⟩ := ih h
      exact ⟨u, List.mem_cons_of_mem _ hu, hbreak⟩
    · cases h
      cases htook with
      | fault hkey hv => exact ⟨member.2, hkey ▸ List.mem_cons_self, hv⟩

end Members

section Frame
variable {before after ms : List (String × Value)} {v : Value} {c : Config}

/-- Other members are taken the same whatever the timeout. -/
theorem foldlM_take_withTimeout {m : Members} (h : "timeout" ∉ ms.map Prod.fst)
    (t : Option (Option Duration)) :
    ms.foldlM Members.take { m with timeout := t } =
      (ms.foldlM Members.take m).map fun m' => { m' with timeout := t } := by
  induction ms generalizing m with
  | nil => rfl
  | cons member ms ih =>
    obtain ⟨key, v⟩ := member
    obtain ⟨hkey, hrest⟩ : "timeout" ≠ key ∧ "timeout" ∉ ms.map Prod.fst := by simpa using h
    have htake : Members.take { m with timeout := t } (key, v) =
        (m.take (key, v)).map fun m' => { m' with timeout := t } := by
      simp only [Members.take, if_neg (Ne.symm hkey)]
      split
      · split
        · rfl
        · cases entrypointOf v <;> rfl
      · rfl
    rw [List.foldlM_cons, List.foldlM_cons, htake]
    cases m.take (key, v) with
    | ok next => exact ih hrest
    | error e => rfl

theorem settle_withTimeout (m : Members) (t : Option Duration) :
    Members.settle { m with timeout := some t } = m.settle.map fun c => { c with timeout := t } := by
  simp only [Members.settle, ofMembers]
  cases limitsFrom none none m.others.reverse <;> rfl

/-- A timeout among members that stand for something changes the timeout and nothing else. -/
theorem settingsOf_insert (hbefore : "timeout" ∉ before.map Prod.fst)
    (hafter : "timeout" ∉ after.map Prod.fst) (h : settingsOf (before ++ after) = .ok c) :
    settingsOf (before ++ ("timeout", v) :: after) =
      (timeoutOf v).map fun t => { c with timeout := t } := by
  have hnone := foldlM_take_withTimeout (m := ⟨none, none, []⟩) hbefore none
  rw [settingsOf, List.foldlM_append] at h ⊢
  cases hfold : before.foldlM Members.take ⟨none, none, []⟩ with
  | error e =>
    rw [hfold] at h
    cases h
  | ok m =>
    rw [hfold] at h hnone
    have hm : m.timeout = none := by
      have hsame := Except.ok.inj hnone
      rw [hsame]
    change (after.foldlM Members.take m >>= Members.settle) = .ok c at h
    change ((("timeout", v) :: after).foldlM Members.take m >>= Members.settle) = _
    have htake : m.take ("timeout", v) = (timeoutOf v).map fun t => { m with timeout := some t } := by
      rw [Members.take, if_neg (by simp), if_pos rfl, hm]
      rfl
    rw [List.foldlM_cons, htake]
    cases timeoutOf v with
    | error e => rfl
    | ok t =>
      change (after.foldlM Members.take { m with timeout := some t } >>= Members.settle) = _
      rw [foldlM_take_withTimeout hafter]
      cases hrest : after.foldlM Members.take m with
      | error e =>
        rw [hrest] at h
        cases h
      | ok m' =>
        rw [hrest] at h
        change Members.settle { m' with timeout := some t } = _
        rw [settle_withTimeout, show m'.settle = .ok c from h]
        rfl

end Frame
section Files
variable {w w' : World} {path path' : Bytes} {before after ms : List (String × Value)} {t : String}
  {as : List Amount} {c : Config}

theorem Contains.tells (h : Contains w path ms) :
    ∃ s, ofFile w path = (ofDocument s).mapError (Fault.map Error.toIoError) ∧
      Tells (ofDocument s) (settingsOf ms) := by
  obtain ⟨place, s, hplace, hs, hholds⟩ := h
  exact ⟨s, ofFile_of_text hplace hs, ofDocument_tells hholds⟩

theorem Contains.ofFile_eq_ok_iff (h : Contains w path ms) :
    ofFile w path = .ok c ↔ settingsOf ms = .ok c := by
  obtain ⟨s, hfile, htells⟩ := h.tells
  rw [hfile, ← htells.eq_ok_iff]
  exact mapError_eq_ok_iff

theorem Contains.ofFile_of_breakdown (h : Contains w path ms)
    (hms : settingsOf ms = .error .breakdown) : ofFile w path = .error .breakdown := by
  obtain ⟨s, hfile, htells⟩ := h.tells
  rw [hms] at htells
  rw [hfile, show ofDocument s = .error .breakdown from htells]
  rfl

theorem Contains.ofFile_of_complaint (h : Contains w path ms)
    (hms : settingsOf ms = .error (.error ())) :
    ∃ e, ofFile w path = .error (.error e) ∧ e.kind = .invalidData := by
  obtain ⟨s, hfile, htells⟩ := h.tells
  rw [hms] at htells
  obtain ⟨message, p, hs⟩ := htells
  rw [hfile, hs]
  exact ⟨_, rfl, rfl⟩

theorem timeoutOf_text (h : Spells as t.toList) : ∃ r, Sums 0 as r ∧
    ((∃ n d, r = .ok n ∧ timeoutOf (.text t) = .ok (some d) ∧ d.toNanos = sum as) ∨
      ∃ e, r = .error e ∧ timeoutOf (.text t) = .error (faultOf e)) := by
  obtain ⟨r, hr, ht⟩ := ofUnits_spells h
  refine ⟨r, hr, ?_⟩
  rw [timeoutOf]
  cases r with
  | ok n =>
    obtain ⟨d, hd, hn⟩ := ht
    refine .inl ⟨n, d, rfl, by rw [hd]; rfl, ?_⟩
    rw [hn, hr.eq_sum, Nat.zero_add]
  | error e =>
    have hd : ofUnits t = .error e := ht
    exact .inr ⟨e, rfl, by rw [hd]; rfl⟩

theorem timeoutOf_of_overruns (h : Spells as t.toList) (hoverruns : Overruns as) :
    timeoutOf (.text t) = .error .breakdown := by
  have hoverrun := sums_overrun_iff.mpr hoverruns
  obtain ⟨r, hr, ⟨_, _, rfl, _⟩ | ⟨e, rfl, ht⟩⟩ := timeoutOf_text h
  · exact absurd (hoverrun.unique hr) (by simp)
  · cases hoverrun.unique hr
    exact ht

/-- What a timeout does to a file of settings that is otherwise made of `others`. -/
structure TimeoutLaw (w : World) (path : Bytes) (others : List (String × Value))
    (as : List Amount) : Prop where
  exact : ∀ c, ofFile w path = .ok c → ∃ d, c.timeout = some d ∧ d.toNanos = sum as
  refused : ¬ Overruns as → (∃ c, ofFile w path = .ok c) ∨
    ∃ e, ofFile w path = .error (.error e) ∧ e.kind = .invalidData
  /-- Below 2³² seconds a timeout is no reason to refuse a file. -/
  accepted : sum as < UInt32.size * 1000000000 → ∀ w' path' c, Contains w' path' others →
    ofFile w' path' = .ok c →
      ∃ d, ofFile w path = .ok { c with timeout := some d } ∧ d.toNanos = sum as
  broken : Overruns as → ∀ w' path' c, Contains w' path' others → ofFile w' path' = .ok c →
    ofFile w path = .error .breakdown

/-- A timeout is the exact sum of its amounts, or there are no settings. -/
theorem timeout_exact (hfile : Contains w path (before ++ ("timeout", .text t) :: after))
    (hbefore : "timeout" ∉ before.map Prod.fst) (hafter : "timeout" ∉ after.map Prod.fst)
    (hsum : Spells as t.toList) : TimeoutLaw w path (before ++ after) as := by
  have hmem : ("timeout", Value.text t) ∈ before ++ ("timeout", .text t) :: after := by simp
  obtain ⟨r, hr, ht⟩ := timeoutOf_text hsum
  constructor
  · intro c hc
    have htimeout := timeoutOf_of_settingsOf (hfile.ofFile_eq_ok_iff.mp hc) hmem
    obtain ⟨_, d, _, hd, hnanos⟩ | ⟨e, _, hd⟩ := ht
    · exact ⟨d, (Except.ok.inj (hd.symm.trans htimeout)).symm, hnanos⟩
    · rw [hd] at htimeout
      cases htimeout
  · intro hnot
    cases hms : settingsOf (before ++ ("timeout", .text t) :: after) with
    | ok c => exact .inl ⟨c, hfile.ofFile_eq_ok_iff.mpr hms⟩
    | error fault =>
      cases fault with
      | error u => exact .inr (hfile.ofFile_of_complaint hms)
      | breakdown =>
        obtain ⟨v, hv, hbreak⟩ := timeoutOf_of_breakdown hms
        have hkey {ms : List (String × Value)} (h : "timeout" ∉ ms.map Prod.fst) :
            ("timeout", v) ∉ ms := fun hv => h (List.mem_map_of_mem hv)
        have htext : v = .text t := by simpa [hkey hbefore, hkey hafter] using hv
        rw [htext] at hbreak
        obtain ⟨_, d, _, hd, _⟩ | ⟨e, rfl, hd⟩ := ht
        · rw [hd] at hbreak
          cases hbreak
        · rw [hd] at hbreak
          cases e with
          | refused => cases hbreak
          | overrun => exact absurd (sums_overrun_iff.mp hr) hnot
  · intro hsmall w' path' c hothers hc
    have hinsert := settingsOf_insert (v := .text t) hbefore hafter (hothers.ofFile_eq_ok_iff.mp hc)
    have hok : Sums 0 as (.ok (0 + sum as)) := sums_of_small (by omega)
    obtain ⟨_, d, _, hd, hnanos⟩ | ⟨e, rfl, _⟩ := ht
    · rw [hd] at hinsert
      exact ⟨d, hfile.ofFile_eq_ok_iff.mpr hinsert, hnanos⟩
    · exact absurd (hok.unique hr) (by simp)
  · intro hoverruns w' path' c hothers hc
    have hinsert := settingsOf_insert (v := .text t) hbefore hafter (hothers.ofFile_eq_ok_iff.mp hc)
    rw [timeoutOf_of_overruns hsum hoverruns] at hinsert
    exact hfile.ofFile_of_breakdown hinsert

def timedText : String := "\x7b\"timeout\":\"1month  90s\",\"maxAddressLen\":64\x7d"

def otherText : String := "\x7b\"maxAddressLen\":64\x7d"

/-- A file with a timeout, and the same file without it. -/
def timed : World :=
  ⟨World.filesAt [(utf8 "timed", .ok (utf8 timedText)), (utf8 "other", .ok (utf8 otherText))], [], none⟩

theorem spells_month : Spells [⟨1, .month, "month"⟩, ⟨90, .second, "s"⟩] "1month  90s".toList := by
  have hmonth : Amount.Spelled ⟨1, .month, "month"⟩ ['1'] :=
    ⟨by decide, List.all_eq_true.mp (by decide), by decide, by decide⟩
  have hseconds : Amount.Spelled ⟨90, .second, "s"⟩ ['9', '0'] :=
    ⟨by decide, List.all_eq_true.mp (by decide), by decide, by decide⟩
  exact .cons hmonth 1 (.one hseconds)

theorem contains_timed : Contains timed (utf8 "timed")
    ([] ++ ("timeout", .text "1month  90s") :: [("maxAddressLen", .number (.natural 64))]) := by
  have htext : timedText.toList = '\x7b' :: ((Text.write "timeout").toList ++
      ':' :: ((Text.write "1month  90s").toList ++ ',' :: ((Text.write "maxAddressLen").toList ++
        ':' :: '6' :: '4' :: ['\x7d']))) := by decide
  simp only [Text.toList_write_append] at htext
  have hlimit : Takes Reader.number ['6', '4', '\x7d'] (.natural 64) ['\x7d'] :=
    Takes.number 64 (.inr rfl)
  refine contains_of_bytes (expandPath_of_no_dollar (by simp) (by simp)) rfl (holds_of_derives (.nil _) ?_ (.nil []))
  rw [htext]
  refine .object (.members (.nil _) (Text.letters_write _ _) (.nil _) (.nil _)
    (.text _ (Text.letters_write _ _)) ?_)
  exact .moreMembers (.nil _) (.nil _) (Text.letters_write _ _) (.nil _) (.nil _)
    (.number _ (.inr rfl) (by decide) hlimit) (.endMembers _ (.nil _))

theorem contains_other : Contains timed (utf8 "other") [("maxAddressLen", .number (.natural 64))] := by
  have htext : otherText.toList = '\x7b' :: ((Text.write "maxAddressLen").toList ++
      ':' :: '6' :: '4' :: ['\x7d']) := by decide
  rw [Text.toList_write_append] at htext
  have hlimit : Takes Reader.number ['6', '4', '\x7d'] (.natural 64) ['\x7d'] :=
    Takes.number 64 (.inr rfl)
  refine contains_of_bytes (expandPath_of_no_dollar (by simp) (by simp)) rfl (holds_of_derives (.nil _) ?_ (.nil []))
  rw [htext]
  exact .object (.members (.nil _) (Text.letters_write _ _) (.nil _) (.nil _)
    (.number _ (.inr rfl) (by decide) hlimit) (.endMembers _ (.nil _)))

theorem month_and_seconds_add_up : ∃ d, d.toNanos = (2630016 + 90) * 1000000000 ∧
    ofFile timed (utf8 "timed") = .ok ⟨"deploy_contract", some d, ⟨64, 1048576⟩⟩ := by
  have hlaw := timeout_exact contains_timed (by simp) (by simp) spells_month
  obtain ⟨d, hd, hnanos⟩ := hlaw.accepted (by decide) _ _ _ contains_other
    (contains_other.ofFile_eq_ok_iff.mpr rfl)
  exact ⟨d, hnanos, hd⟩

/-- One second on top of the last one is no complaint: the reader breaks down on it. -/
theorem full_seconds_break_down :
    Spells [⟨18446744073709551615, .second, "s"⟩, ⟨1000000000, .nano, "ns"⟩]
      "18446744073709551615s 1000000000ns".toList ∧
    ofDocument "\x7b\"timeout\":\"18446744073709551615s 1000000000ns\"\x7d" = .error .breakdown := by
  have hseconds : Amount.Spelled ⟨18446744073709551615, .second, "s"⟩
      "18446744073709551615".toList :=
    ⟨by decide, List.all_eq_true.mp (by decide), by decide, by decide⟩
  have hnanos : Amount.Spelled ⟨1000000000, .nano, "ns"⟩ "1000000000".toList :=
    ⟨by decide, List.all_eq_true.mp (by decide), by decide, by decide⟩
  have hspells : Spells [⟨18446744073709551615, .second, "s"⟩, ⟨1000000000, .nano, "ns"⟩]
      "18446744073709551615s 1000000000ns".toList := .cons hseconds 0 (.one hnanos)
  have hoverruns : Overruns [⟨18446744073709551615, .second, "s"⟩, ⟨1000000000, .nano, "ns"⟩] :=
    sums_overrun_iff.mp (.fits ⟨by decide, by decide⟩ (.meets _ ⟨rfl, by decide, by decide⟩))
  have hbreak : settingsOf ([] ++ [("timeout", .text "18446744073709551615s 1000000000ns")]) =
      .error .breakdown := by
    rw [settingsOf_insert (c := {}) List.not_mem_nil List.not_mem_nil rfl,
      timeoutOf_of_overruns hspells hoverruns]
    rfl
  have htext : "\x7b\"timeout\":\"18446744073709551615s 1000000000ns\"\x7d".toList =
      '\x7b' :: ((Text.write "timeout").toList ++
        ':' :: ((Text.write "18446744073709551615s 1000000000ns").toList ++ ['\x7d'])) := by decide
  simp only [Text.toList_write_append] at htext
  have hderives : Derives (maxDepth + 1)
      (.value (.object [("timeout", .text "18446744073709551615s 1000000000ns")]))
      "\x7b\"timeout\":\"18446744073709551615s 1000000000ns\"\x7d".toList [] := by
    rw [htext]
    exact .object (.members (.nil _) (Text.letters_write _ _) (.nil _) (.nil _)
      (.text _ (Text.letters_write _ _)) (.endMembers _ (.nil _)))
  have htells : Tells (ofDocument _)
      (settingsOf ([] ++ [("timeout", .text "18446744073709551615s 1000000000ns")])) :=
    ofDocument_tells (holds_of_derives (.nil _) hderives (.nil _))
  rw [hbreak] at htells
  exact ⟨hspells, htells⟩

end Files
end DeployTrigger.Config
