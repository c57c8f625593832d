import DeployTrigger.Proofs.Address
import DeployTrigger.Proofs.Except
import DeployTrigger.Proofs.Guest.Delivery
import DeployTrigger.Proofs.Hexadecimal
import DeployTrigger.Sample.Echo

/-!
The address that the sample module makes of a timestamp. It spells the timestamp in hexadecimal, so it
tells timestamps apart, and the host takes it and shows it as it stands (`address_spells_timestamp`).
-/
namespace DeployTrigger.Sample.Echo
open Kit Deploy Guest Machine Sandbox

/-- The text is `0x` and the numeral of the timestamp, in one to sixteen digits. -/
def Spells (text : String) (t : UInt64) : Prop :=
  ∃ ds, text.toList = '0' :: 'x' :: ds ∧ Hexadecimal.Spells ds t.toNat ∧
    1 ≤ ds.length ∧ ds.length ≤ 16

section Spelling
variable {text text' : String} {t t' : UInt64}

theorem toList_hex (n : Nat) :
    ("0x" ++ hex n).toList = '0' :: 'x' :: (Nat.toDigits 16 n).map Char.toUpper := by
  simp [hex]

theorem spells_hex (h : t ≠ 0) : Spells ("0x" ++ hex t.toNat) t := by
  have hpos : 0 < t.toNat := Nat.pos_of_ne_zero fun hzero => h (UInt64.toNat_inj.mp hzero)
  refine ⟨_, toList_hex _, Hexadecimal.spells_toDigits hpos, ?_, ?_⟩
  · rw [List.length_map]
    exact Nat.length_toDigits_pos
  · rw [List.length_map]
    exact (Nat.length_toDigits_le_iff (by decide) (by decide)).mpr t.toNat_lt

theorem Spells.ne_zero (h : Spells text t) : t ≠ 0 := by
  obtain ⟨ds, -, hds, hlength, -⟩ := h
  rintro rfl
  obtain rfl := hds.eq_nil_iff.mpr rfl
  exact absurd hlength (by decide)

/-- A timestamp has one spelling only. -/
theorem Spells.unique (h : Spells text t) (h' : Spells text' t) : text = text' := by
  obtain ⟨ds, htext, hds, -, -⟩ := h
  obtain ⟨es, htext', hes, -, -⟩ := h'
  rw [← String.toList_inj, htext, htext', hds.unique hes]

/-- A text spells one timestamp only. -/
theorem Spells.inj (h : Spells text t) (h' : Spells text t') : t = t' := by
  obtain ⟨ds, htext, hds, -, -⟩ := h
  obtain ⟨es, htext', hes, -, -⟩ := h'
  obtain rfl : ds = es := by simpa [htext] using htext'
  exact UInt64.toNat_inj.mp (hds.value.symm.trans hes.value)

theorem Spells.plain (h : Spells text t) : ∀ c ∈ text.toList, c.utf8Size = 1 ∧ ¬ Control c := by
  obtain ⟨ds, htext, hds, -, -⟩ := h
  have hmark : ('0' :: 'x' :: Hexadecimal.digits).all
      (fun c => decide (c.utf8Size = 1 ∧ ¬ Control c)) = true := by decide
  have hplain : ∀ c ∈ '0' :: 'x' :: Hexadecimal.digits, c.utf8Size = 1 ∧ ¬ Control c :=
    fun c hc => of_decide_eq_true (List.all_eq_true.mp hmark c hc)
  rw [htext]
  exact fun c hc => hplain c (List.cons_subset_cons _ (List.cons_subset_cons _ hds.digit) hc)

theorem Spells.ne_empty (h : Spells text t) : text ≠ "" := by
  obtain ⟨ds, htext, -, -, -⟩ := h
  rintro rfl
  cases htext

theorem Spells.length_utf8 (h : Spells text t) :
    3 ≤ (utf8 text).length ∧ (utf8 text).length ≤ 18 := by
  have hlength := length_utf8_of_narrow fun c hc => (h.plain c hc).1
  obtain ⟨ds, htext, -, hle, hle'⟩ := h
  rw [String.ofList_toList, htext, List.length_cons, List.length_cons] at hlength
  omega

theorem Spells.length_pos (h : Spells text t) : 0 < (utf8 text).length :=
  Nat.lt_of_lt_of_le (by decide) h.length_utf8.1

theorem Spells.length_lt (h : Spells text t) : (utf8 text).length < UInt32.size :=
  Nat.lt_of_le_of_lt h.length_utf8.2 (by decide)

/-- The default limit leaves room for it. -/
theorem Spells.fits (h : Spells text t) : (utf8 text).length ≤ ({} : Limits).maxAddressLen.toNat :=
  Nat.le_trans h.length_utf8.2 (by decide)

end Spelling

section Entrypoint
variable {text : String} {t start w : UInt64} {r : Reason}

theorem deploy_eq_error_iff : deploy t = .error r ↔ t = 0 ∧ r = .invalidTimestamp := by
  unfold deploy
  split
  · rename_i hzero
    simpa [hzero] using eq_comm
  · rename_i hne
    simp [hne]

theorem deploy_eq_ok_iff : deploy t = .ok text ↔ Spells text t := by
  constructor
  · intro h
    unfold deploy at h
    split at h
    · cases h
    · cases h
      exact spells_hex (by assumption)
  · intro h
    rw [h.unique (spells_hex h.ne_zero), deploy, if_neg h.ne_zero]

theorem deployContract_eq (start t : UInt64) :
    deployContract start t = (deploy t).map fun text => packBytes start (utf8 text) := by
  rw [deployContract, exported]
  cases deploy t <;> rfl

theorem deployContract_eq_error_iff : deployContract start t = .error r ↔ deploy t = .error r := by
  rw [deployContract_eq, map_eq_error_iff]

theorem deployContract_eq_ok_iff : deployContract start t = .ok w ↔
    ∃ text, deploy t = .ok text ∧ packBytes start (utf8 text) = w := by
  rw [deployContract_eq, map_eq_ok_iff]

end Entrypoint

/-- The text is the address of the timestamp, from the module to what the host shows. -/
structure Delivered (t : UInt64) (text : String) : Prop where
  spells : Spells text t
  /-- No other timestamp has this address. -/
  alone (t' : UInt64) (h : deploy t' = .ok text) : t' = t
  packed (start : UInt64) : ∃ w, deployContract start t = .ok w ∧
    w.toUInt32.toNat = (utf8 text).length
  /-- A call that leaves the text at the place that it returns gives it as the address. -/
  invoked {s : Sandbox} {name : String} (x : s.Entry name .wordToWord) {start : UInt32} {w : UInt64}
    {after : Store} (hlimits : s.limits = {}) (hw : deployContract start.toUInt64 t = .ok w)
    (h : Ends s.module (x.machine [t]) (.value w) after)
    (left : after.memory.Holds start.toNat (utf8 text)) :
    ∃ events, Settles (s.invoking name ⟨t⟩) (.ok ⟨utf8 text⟩) events
  fits : (utf8 text).length ≤ ({} : Limits).maxAddressLen.toNat
  /-- So it is not shown in base 58. -/
  isText : (⟨utf8 text⟩ : Address).text? = some text
  unescaped : ∀ c ∈ text.toList, Address.shownChar c = [c]
  shown : (⟨utf8 text⟩ : Address).shown = text

theorem Spells.delivered {text : String} {t : UInt64} (h : Spells text t) : Delivered t text where
  spells := h
  alone t' ht' := (deploy_eq_ok_iff.mp ht').inj h
  packed start := ⟨_, deployContract_eq_ok_iff.mpr ⟨text, deploy_eq_ok_iff.mpr h, rfl⟩,
    toNat_toUInt32_packBytes start h.length_lt⟩
  invoked {s name} x start w after hlimits hw hends left := by
    obtain ⟨text', htext', rfl⟩ := deployContract_eq_ok_iff.mp hw
    obtain rfl := h.unique (deploy_eq_ok_iff.mp htext')
    exact ⟨_, x.settles_invoking_of_left hends left h.length_lt h.length_pos (hlimits ▸ h.fits)⟩
  fits := h.fits
  isText := Address.text?_eq_some_iff.mpr ⟨h.ne_empty, rfl⟩
  unescaped c hc := Address.shownChar_of_not_control (h.plain c hc).2
  shown := Address.shown_utf8 h.ne_empty fun c hc => (h.plain c hc).2

/-- The epoch alone is refused. Every other timestamp has one address, which spells it and is delivered
as it is. -/
theorem address_spells_timestamp (t : UInt64) :
    (deploy t = .error .invalidTimestamp ↔ t = 0) ∧
    (∀ start, deployContract start t = .error .invalidTimestamp ↔ t = 0) ∧
    (∀ text, deploy t = .ok text ↔ Spells text t) ∧
    (t ≠ 0 → ∃ text, deploy t = .ok text ∧ Delivered t text) := by
  have hrefused : deploy t = .error .invalidTimestamp ↔ t = 0 :=
    deploy_eq_error_iff.trans (and_iff_left rfl)
  refine ⟨hrefused, fun start => deployContract_eq_error_iff.trans hrefused,
    fun text => deploy_eq_ok_iff, fun h => ?_⟩
  have hspells := spells_hex h
  exact ⟨_, deploy_eq_ok_iff.mpr hspells, hspells.delivered⟩

/-- Returns an address that lies in the memory from the beginning. -/
def november : Sandbox where
  module := .holding (utf8 "0x18BCFE56800") "deploy_contract"
    [.result (.const (packBytes 16 (utf8 "0x18BCFE56800")))]
  valid := by decide
  limits := {}
  fuel := 8

def novemberEntry : november.Entry "deploy_contract" .wordToWord where
  store := ⟨⟨november.module.initialMemory.toOption.getD (.zeros 0 0), []⟩, true, []⟩
  logged := []
  func := ⟨["deploy_contract"], .wordToWord, 0,
    [.result (.const (packBytes 16 (utf8 "0x18BCFE56800")))]⟩
  instantiated := (Module.stable_instantiate _).settles (n := 1) rfl
  memory := rfl
  exported := rfl

theorem holds_november :
    novemberEntry.store.memory.Holds (16 : UInt32).toNat (utf8 "0x18BCFE56800") where
  inside := by decide
  bytes := by decide

theorem november_delivered :
    (1700000000000 : UInt64) ≠ 0 ∧ deploy 1700000000000 = .ok "0x18BCFE56800" ∧
    (∃ w, deployContract 16 1700000000000 = .ok w ∧ w.toUInt32.toNat = 13) ∧
    (⟨utf8 "0x18BCFE56800"⟩ : Address).shown = "0x18BCFE56800" ∧
    ∃ events, Settles (november.invoking "deploy_contract" ⟨1700000000000⟩)
      (.ok ⟨utf8 "0x18BCFE56800"⟩) events := by
  have hne : (1700000000000 : UInt64) ≠ 0 := by decide
  obtain ⟨-, -, -, hdelivered⟩ := address_spells_timestamp 1700000000000
  obtain ⟨text, htext, h⟩ := hdelivered hne
  have hdeploy : deploy 1700000000000 = .ok "0x18BCFE56800" := by rfl
  obtain rfl : text = "0x18BCFE56800" := Except.ok.inj (htext.symm.trans hdeploy)
  have hpacked : deployContract (16 : UInt32).toUInt64 1700000000000 = .ok _ :=
    deployContract_eq_ok_iff.mpr ⟨_, hdeploy, rfl⟩
  have hrun : Machine.run november.module 8 (novemberEntry.machine [1700000000000]) =
      (.value (packBytes 16 (utf8 "0x18BCFE56800")), novemberEntry.store) := rfl
  exact ⟨hne, hdeploy, h.packed 16, h.shown,
    h.invoked novemberEntry rfl hpacked (ends_of_run hrun nofun) holds_november⟩

end DeployTrigger.Sample.Echo
