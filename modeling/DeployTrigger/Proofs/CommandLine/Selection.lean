import DeployTrigger.Proofs.CommandLine.Instant

/-!
Arguments that differ only in some switches. However these are given, and how often, all other
options are the same (`Options.sameBut_of_accepted`).
-/
namespace DeployTrigger.CommandLine

/-- The scans are the same, apart from some switches and their values. -/
structure Scan.SameBut (ks : List Switch) (s s' : Scan) : Prop where
  module : s'.module = s.module
  found : s'.found.filter (·.1 ∉ ks) = s.found.filter (·.1 ∉ ks)

/-- The arguments are the same, apart from some switches and their values. -/
def SameBut (ks : List Switch) (args args' : List Bytes) : Prop :=
  ∃ s s', Scan.ofArguments args = .ok s ∧ Scan.ofArguments args' = .ok s' ∧ s.SameBut ks s'

/-- The options are the same, apart from some switches. -/
structure Options.SameBut (ks : List Switch) (o o' : Options) : Prop where
  module : o'.module = o.module
  config (h : .config ∉ ks) : o'.config = o.config
  entrypoint (h : .entrypoint ∉ ks) : o'.entrypoint = o.entrypoint
  timeout (h : .timeout ∉ ks) : o'.timeout = o.timeout
  instant (h : .instant ∉ ks) : o'.instant = o.instant
  schemas (h : .schemas ∉ ks) : o'.schemas = o.schemas
  verbosity (h : .verbose ∉ ks) : o'.verbosity = o.verbosity

variable {ks : List Switch} {k : Switch}

namespace Scan
variable {s s' : Scan}

theorem values_filter (s : Scan) (hk : k ∉ ks) :
    s.values k = { s with found := s.found.filter (·.1 ∉ ks) }.values k := by
  simp only [values]
  induction s.found with
  | nil => rfl
  | cons f rest ih =>
    by_cases hf : f.1 ∈ ks
    · have hne : ¬ f.1 = k := fun heq => hk (heq ▸ hf)
      simp [hf, hne, ih]
    · simp [hf, List.filterMap_cons, ih]

theorem count_filter (s : Scan) (hk : k ∉ ks) :
    s.count k = { s with found := s.found.filter (·.1 ∉ ks) }.count k := by
  simp only [count]
  induction s.found with
  | nil => rfl
  | cons f rest ih =>
    by_cases hf : f.1 ∈ ks
    · have hne : ¬ f.1 = k := fun heq => hk (heq ▸ hf)
      simp [hf, hne, ih]
    · simp [hf, List.countP_cons, ih]

namespace SameBut

theorem values (h : s.SameBut ks s') (hk : k ∉ ks) : s'.values k = s.values k := by
  rw [values_filter s' hk, values_filter s hk, h.found]
  rfl

theorem count (h : s.SameBut ks s') (hk : k ∉ ks) : s'.count k = s.count k := by
  rw [count_filter s' hk, count_filter s hk, h.found]
  rfl

end SameBut

/-- One more occurrence of a switch makes a difference in this switch only. -/
theorem More.sameBut {v : Bytes} (hk : k ∈ ks) (h : More k v s s') : s.SameBut ks s' := by
  obtain ⟨before, after, hfound, rfl⟩ := h
  refine ⟨rfl, ?_⟩
  rw [hfound]
  simp [hk]

end Scan

/-- Arguments that differ in some switches and are accepted give options that differ in these. -/
theorem Options.sameBut_of_accepted {args args' : List Bytes} {o o' : Options}
    (h : CommandLine.SameBut ks args args') (ho : ofArguments args = .ok o)
    (ho' : ofArguments args' = .ok o') : o.SameBut ks o' := by
  obtain ⟨s, s', hs, hs', hsame⟩ := h
  obtain ⟨t, ht, hscan⟩ := bind_eq_ok_iff.mp ho
  obtain ⟨t', ht', hscan'⟩ := bind_eq_ok_iff.mp ho'
  obtain rfl := Except.ok.inj (hs.symm.trans ht)
  obtain rfl := Except.ok.inj (hs'.symm.trans ht')
  obtain ⟨path, hmodule, -, rfl⟩ := ofScan_eq_ok_iff.mp hscan
  obtain ⟨path', hmodule', -, rfl⟩ := ofScan_eq_ok_iff.mp hscan'
  obtain rfl := Option.some.inj (hmodule'.symm.trans (hsame.module.trans hmodule))
  constructor
  · rfl
  all_goals
    intro hk
    simp only [gathered, hsame.values hk, hsame.count hk]

/-- An instant more, at a place where a switch may stand, is such a difference. -/
theorem sameBut_instant {text : String} {before after given : List Bytes} {s : Scan}
    (hk : .instant ∈ ks) (hgiven : SetsInstant text given)
    (hplain : Argument.ofBytes (utf8 text) = .plain (utf8 text)) (hbefore : TakesSwitch before)
    (h : Scan.ofArguments (before ++ after) = .ok s) :
    SameBut ks (before ++ after) (before ++ given ++ after) := by
  obtain ⟨s', hs', hmore⟩ := Scan.ofArguments_instant hgiven hplain hbefore h
  exact ⟨s, s', h, hs', hmore.sameBut hk⟩

end DeployTrigger.CommandLine
