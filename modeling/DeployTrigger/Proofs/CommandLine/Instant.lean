import DeployTrigger.CommandLine.Options
import DeployTrigger.Proofs.CommandLine.Insertion

/-!
The instant on the command line. Given once more at a place where a switch may stand, with a text
that can be read, it is the instant of the options, and the other options are as before.
-/
namespace DeployTrigger.CommandLine

/-- The instant as it is given: in two arguments or in one. -/
def SetsInstant (text : String) (given : List Bytes) : Prop :=
  given = [utf8 "--at", utf8 text] ∨ given = [utf8 ("--at=" ++ text)]

/-- A switch may stand behind these arguments: no separator is among them, and the last switch has
its value. -/
def TakesSwitch (before : List Bytes) : Prop :=
  ∃ s, before.foldlM Scan.argument {} = .ok s ∧ s.separated = false ∧ ¬ s.Waits

namespace Scan
variable {s t : Scan} {text : String} {before after given : List Bytes}

theorem add_instant (text : String) (s : Scan) : s.add .instant (some (utf8 text)) =
    .ok { s with found := s.found ++ [(.instant, some (utf8 text))] } := by
  have hdecode : ((some (utf8 text)).bind Utf8.decode?).isNone = false := by
    rw [Option.bind_some, Utf8.decode?_utf8]
    rfl
  rw [add, hdecode, Bool.and_false, Bool.false_and]
  rfl

theorem ofBytes_instant : Argument.ofBytes (utf8 "--at") = .switches [.switch .instant none] := by
  decide

theorem ofBytes_instant_text (text : String) :
    Argument.ofBytes (utf8 ("--at=" ++ text)) = .switches [.switch .instant (some (utf8 text))] := by
  have hbytes : utf8 ("--at=" ++ text) = [0x2D, 0x2D, 0x61, 0x74, 0x3D] ++ utf8 text := by
    rw [utf8_append]
    rfl
  have hname : ([0x61, 0x74, 0x3D] ++ utf8 text).takeWhile (· ≠ Mention.equals) = [0x61, 0x74] := by
    simp [Mention.equals]
  have hswitch : (Utf8.decode? [0x61, 0x74]).bind Switch.ofLong? = some .instant := by
    have hdecode : Utf8.decode? [0x61, 0x74] = some "at" :=
      Utf8.decode?_eq_some_iff.mpr (by decide)
    rw [hdecode]
    rfl
  have hlong : Mention.ofLong ([0x61, 0x74, 0x3D] ++ utf8 text) =
      .switch .instant (some (utf8 text)) := by
    simp only [Mention.ofLong, hname, hswitch]
    rfl
  rw [hbytes]
  change Argument.switches [Mention.ofLong ([0x61, 0x74, 0x3D] ++ utf8 text)] = _
  rw [hlong]

/-- A text that does not start with a dash is no switch. -/
theorem ofBytes_of_head (h : text.toList.head? ≠ some '-') :
    Argument.ofBytes (utf8 text) = .plain (utf8 text) := by
  have hfirst : ∀ rest, utf8 text ≠ Mention.dash :: rest := by
    intro rest hrest
    have hbytes : ['-'].utf8Encode ++ rest.toByteArray = text.toList.utf8Encode := by
      have hutf8 := Utf8.toByteArray_utf8 text
      rw [hrest] at hutf8
      rw [String.utf8Encode_toList]
      refine Eq.trans ?_ hutf8
      have hdash : ['-'].utf8Encode.data.toList = [Mention.dash] := by decide
      apply ByteArray.ext
      simp [List.data_toByteArray, hdash]
    obtain ⟨more, hmore⟩ := List.isPrefix_of_utf8Encode_append_eq_utf8Encode _ hbytes
    exact h (by rw [← hmore]; rfl)
  exact ofBytes_of_ne_dash hfirst

/-- Behind the instant, the scan differs from the one without it by the instant only. -/
theorem inserted_separate (hplain : Argument.ofBytes (utf8 text) = .plain (utf8 text))
    (hseparated : s.separated = false) (hwait : ¬ s.Waits) (hsettle : s.settle = .ok t) :
    ∃ s', [utf8 "--at", utf8 text].foldlM argument s = .ok s' ∧
      Inserted .instant (utf8 text) s s' := by
  have hclosed := eq_of_settle hsettle
  have hmodule : t.module = s.module := by rw [hclosed]
  have hopen : t.separated = s.separated := by rw [hclosed]
  have hcurrent : t.current = none := by rw [hclosed]
  have hfirst : s.argument (utf8 "--at") = .ok { t with current := some (.instant, none) } := by
    rw [argument_of_switches hseparated ofBytes_instant, List.foldlM_cons,
      mention_none (by decide) (by decide), hsettle]
    rfl
  have hsecond : Scan.argument { t with current := some (.instant, none) } (utf8 text) =
      .ok { t with current := some (.instant, some (utf8 text)) } :=
    argument_of_waits rfl (hopen.trans hseparated) hplain
  have hgive : [utf8 "--at", utf8 text].foldlM argument s =
      .ok { t with current := some (.instant, some (utf8 text)) } := by
    rw [List.foldlM_cons, hfirst]
    change (Scan.argument _ (utf8 text) >>= pure) = _
    rw [hsecond]
    rfl
  -- The instant is still open, and is added when the next argument closes it.
  refine ⟨_, hgive, .pending hmodule hopen hwait ?_ hsettle ?_⟩
  · rintro ⟨j, hj⟩
    cases hj
  · refine (add_instant text { t with current := none }).trans ?_
    rw [hcurrent]

theorem inserted_attached (hseparated : s.separated = false) (hwait : ¬ s.Waits)
    (hsettle : s.settle = .ok t) :
    ∃ s', [utf8 ("--at=" ++ text)].foldlM argument s = .ok s' ∧
      Inserted .instant (utf8 text) s s' := by
  have hclosed := eq_of_settle hsettle
  have hmodule : t.module = s.module := by rw [hclosed]
  have hopen : t.separated = s.separated := by rw [hclosed]
  have hcurrent : t.current = none := by rw [hclosed]
  have hgive : [utf8 ("--at=" ++ text)].foldlM argument s =
      .ok { t with found := t.found ++ [(.instant, some (utf8 text))] } := by
    rw [List.foldlM_cons, argument_of_switches hseparated (ofBytes_instant_text text),
      List.foldlM_cons, mention, hsettle]
    change ((t.add .instant (some (utf8 text)) >>= pure) >>= pure) = _
    rw [add_instant]
    rfl
  refine ⟨_, hgive, .pending hmodule hopen hwait ?_ hsettle ?_⟩
  · rintro ⟨j, hj⟩
    change t.current = _ at hj
    rw [hcurrent] at hj
    cases hj
  · simp only [settle, hcurrent]

theorem inserted_instant (hgiven : SetsInstant text given)
    (hplain : Argument.ofBytes (utf8 text) = .plain (utf8 text)) (hseparated : s.separated = false)
    (hwait : ¬ s.Waits) (hsettle : s.settle = .ok t) :
    ∃ s', given.foldlM argument s = .ok s' ∧ Inserted .instant (utf8 text) s s' := by
  obtain rfl | rfl := hgiven
  · exact inserted_separate hplain hseparated hwait hsettle
  · exact inserted_attached hseparated hwait hsettle

theorem ofArguments_instant (hgiven : SetsInstant text given)
    (hplain : Argument.ofBytes (utf8 text) = .plain (utf8 text)) (hbefore : TakesSwitch before)
    (h : ofArguments (before ++ after) = .ok t) :
    ∃ t', ofArguments (before ++ given ++ after) = .ok t' ∧ More .instant (utf8 text) t t' := by
  obtain ⟨s, hs, hseparated, hwait⟩ := hbefore
  rw [ofArguments, List.foldlM_append, hs] at h
  obtain ⟨closed, hclosed⟩ := settles_of_finish h
  obtain ⟨u, hu, hfinish⟩ := bind_eq_ok_iff.mp h
  obtain ⟨s', hs', hinserted⟩ := inserted_instant hgiven hplain hseparated hwait hclosed
  obtain ⟨u', hu', hinserted'⟩ := hinserted.arguments hu
  obtain ⟨t', ht', hmore⟩ := hinserted'.finish hfinish
  refine ⟨t', ?_, hmore⟩
  rw [ofArguments, List.foldlM_append, List.foldlM_append, hs]
  change ((given.foldlM argument s >>= fun s' => after.foldlM argument s') >>= finish) = _
  rw [hs']
  change (after.foldlM argument s' >>= finish) = _
  rw [hu']
  exact ht'

end Scan

namespace Options
variable {s s' : Scan} {o : Options} {text : String} {i : Instant}

theorem forM_eq_ok_iff {ε α : Type} {f : α → Except ε Unit} {l : List α} :
    l.forM f = .ok () ↔ ∀ a ∈ l, f a = .ok () := by
  induction l with
  | nil => exact ⟨fun _ => List.forall_mem_nil _, fun _ => rfl⟩
  | cons a l ih =>
    change (f a >>= fun _ => l.forM f) = .ok () ↔ _
    rw [bind_eq_ok_iff, List.forall_mem_cons, ← ih]
    exact ⟨fun ⟨_, ha, hl⟩ => ⟨ha, hl⟩, fun ⟨ha, hl⟩ => ⟨(), ha, hl⟩⟩

/-- The options that the switches of a scan amount to. -/
def gathered (s : Scan) (path : Bytes) : Options where
  module := path
  config := (s.values .config).head?
  entrypoint := (s.values .entrypoint).head?.map Utf8.lossy
  timeout := ((s.values .timeout).head?.map Utf8.lossy).bind fun t => (WordNumeral.read t).toOption
  instant := ((s.values .instant).head?.map Utf8.lossy).bind fun t => (Rfc3339.read t).toOption
  schemas := 0 < s.count .schemas
  verbosity := s.count .verbose

theorem ofScan_eq_ok_iff : ofScan s = .ok o ↔ ∃ path, s.module = some path ∧
    (∀ k ∈ s.found.map (·.1), checkSwitch s k = .ok ()) ∧ o = gathered s path := by
  rw [ofScan]
  cases hmodule : s.module with
  | none => exact ⟨nofun, fun ⟨_, hpath, _⟩ => nomatch hpath⟩
  | some path =>
    dsimp only
    rw [bind_eq_ok_iff]
    constructor
    · rintro ⟨_, hchecks, ho⟩
      rw [forM_eq_ok_iff] at hchecks
      exact ⟨path, rfl, fun k hk => hchecks k (List.mem_eraseDups.mpr hk), (Except.ok.inj ho).symm⟩
    · rintro ⟨path', hpath, hchecks, rfl⟩
      obtain rfl := Option.some.inj hpath
      exact ⟨(), forM_eq_ok_iff.mpr fun k hk => hchecks k (List.mem_eraseDups.mp hk), rfl⟩

theorem checkSwitch_congr {k : Switch} (hvalues : s'.values k = s.values k)
    (hcount : s'.count k = s.count k) : checkSwitch s' k = checkSwitch s k := by
  rw [checkSwitch, checkSwitch, hvalues, hcount]

theorem checkSwitch_eq_ok_iff {k : Switch} : checkSwitch s k = .ok () ↔
    ¬ (k.takesValue && (s.values k).isEmpty) = true ∧
    (∀ b ∈ s.values k, checkValue k b = .ok ()) ∧ ¬ (k ≠ .verbose && 1 < s.count k) = true := by
  rw [checkSwitch, ← forM_eq_ok_iff]
  by_cases hempty : (k.takesValue && (s.values k).isEmpty) = true
  · rw [if_pos hempty]
    exact ⟨nofun, fun h => absurd hempty h.1⟩
  · rw [if_neg hempty, bind_eq_ok_iff]
    by_cases hrepeated : (k ≠ .verbose && 1 < s.count k) = true
    · rw [if_pos hrepeated]
      constructor
      · rintro ⟨_, _, h⟩
        cases h
      · rintro ⟨_, _, h⟩
        exact absurd hrepeated h
    · rw [if_neg hrepeated]
      constructor
      · rintro ⟨_, hvalues, _⟩
        exact ⟨hempty, hvalues, hrepeated⟩
      · rintro ⟨_, hvalues, _⟩
        exact ⟨(), hvalues, rfl⟩

theorem checkValue_instant_iff {b : Bytes} :
    checkValue .instant b = .ok () ↔ ∃ i, Rfc3339.read (Utf8.lossy b) = .ok i := by
  rw [checkValue, flaw?]
  cases Rfc3339.read (Utf8.lossy b) with
  | error e => exact ⟨nofun, fun ⟨_, hi⟩ => nomatch hi⟩
  | ok i => exact ⟨fun _ => ⟨i, rfl⟩, fun _ => rfl⟩

/-- Without an instant among the options, the switch was not found at all. -/
theorem instant_not_found (h : ofScan s = .ok o) (hnone : o.instant = none) :
    Switch.instant ∉ s.found.map (·.1) := by
  obtain ⟨path, -, hchecks, rfl⟩ := ofScan_eq_ok_iff.mp h
  intro hmem
  obtain ⟨hempty, hvalues, -⟩ := checkSwitch_eq_ok_iff.mp (hchecks .instant hmem)
  cases hv : s.values .instant with
  | nil => exact hempty (by rw [hv]; rfl)
  | cons b rest =>
    obtain ⟨i, hi⟩ := checkValue_instant_iff.mp (hvalues b (hv ▸ List.mem_cons_self))
    have hsome : (gathered s path).instant = some i := by
      rw [gathered, hv, List.head?_cons, Option.map_some, Option.bind_some, hi]
      rfl
    rw [hnone] at hsome
    cases hsome

theorem values_of_not_found {k : Switch} (h : k ∉ s.found.map (·.1)) :
    s.values k = [] ∧ s.count k = 0 := by
  have hother : ∀ f ∈ s.found, ¬ f.1 = k := fun f hf hk => h (List.mem_map.mpr ⟨f, hf, hk⟩)
  constructor
  · rw [Scan.values, List.filterMap_eq_nil_iff]
    exact fun f hf => if_neg (hother f hf)
  · rw [Scan.count, List.countP_eq_zero]
    exact fun f hf => by simpa using hother f hf

section More
variable (h : Scan.More .instant (utf8 text) s s') (hfree : Switch.instant ∉ s.found.map (·.1))
include h

theorem values_more {k : Switch} (hk : k ≠ .instant) : s'.values k = s.values k := by
  obtain ⟨before, after, hold, hnew⟩ := h.values_eq k
  rw [hold, hnew, if_neg hk.symm, List.nil_append]

theorem count_more {k : Switch} (hk : k ≠ .instant) : s'.count k = s.count k := by
  rw [h.count_eq k, if_neg hk.symm, Nat.add_zero]

include hfree

theorem values_instant : s'.values .instant = [utf8 text] := by
  obtain ⟨before, after, hold, hnew⟩ := h.values_eq .instant
  rw [(values_of_not_found hfree).1] at hold
  obtain ⟨rfl, rfl⟩ := List.append_eq_nil_iff.mp hold.symm
  rw [hnew, if_pos rfl]
  rfl

theorem count_instant : s'.count .instant = 1 := by
  rw [h.count_eq .instant, if_pos rfl, (values_of_not_found hfree).2]

theorem checkSwitch_more (hread : Rfc3339.read text = .ok i)
    (hchecks : ∀ k ∈ s.found.map (·.1), checkSwitch s k = .ok ()) :
    ∀ k ∈ s'.found.map (·.1), checkSwitch s' k = .ok () := by
  intro k hk
  by_cases hinstant : k = .instant
  · subst hinstant
    rw [checkSwitch_eq_ok_iff, values_instant h hfree, count_instant h hfree]
    refine ⟨Bool.false_ne_true, ?_, by decide⟩
    intro b hb
    rw [List.mem_singleton.mp hb, checkValue_instant_iff, Utf8.lossy_utf8]
    exact ⟨i, hread⟩
  · rw [checkSwitch_congr (values_more h hinstant) (count_more h hinstant)]
    obtain ⟨before, after, hfound, rfl⟩ := h
    refine hchecks k ?_
    rw [hfound, List.map_append]
    rw [List.map_append, List.map_cons] at hk
    obtain hk | hk := List.mem_append.mp hk
    · exact List.mem_append_left _ hk
    · exact List.mem_append_right _ ((List.mem_cons.mp hk).resolve_left hinstant)

theorem gathered_more (hread : Rfc3339.read text = .ok i) (path : Bytes) :
    gathered s' path = { gathered s path with instant := some i } := by
  have hinstant : ((s'.values .instant).head?.map Utf8.lossy).bind
      (fun t => (Rfc3339.read t).toOption) = some i := by
    rw [values_instant h hfree, List.head?_cons, Option.map_some, Option.bind_some,
      Utf8.lossy_utf8, hread]
    rfl
  simp only [gathered, hinstant, values_more h (k := .config) (by decide),
    values_more h (k := .entrypoint) (by decide), values_more h (k := .timeout) (by decide),
    count_more h (k := .schemas) (by decide), count_more h (k := .verbose) (by decide)]

end More

theorem ofScan_more (h : Scan.More .instant (utf8 text) s s') (hread : Rfc3339.read text = .ok i)
    (ho : ofScan s = .ok o) (hnone : o.instant = none) :
    ofScan s' = .ok { o with instant := some i } := by
  have hfree := instant_not_found ho hnone
  obtain ⟨path, hmodule, hchecks, rfl⟩ := ofScan_eq_ok_iff.mp ho
  exact ofScan_eq_ok_iff.mpr ⟨path, h.module_eq.trans hmodule,
    checkSwitch_more h hfree hread hchecks, (gathered_more h hfree hread path).symm⟩

/-- The instant, given at a place where a switch may stand, is the instant of the options. -/
theorem ofArguments_instant {before after given : List Bytes} (hgiven : SetsInstant text given)
    (hplain : Argument.ofBytes (utf8 text) = .plain (utf8 text)) (hread : Rfc3339.read text = .ok i)
    (hbefore : TakesSwitch before) (ho : ofArguments (before ++ after) = .ok o)
    (hnone : o.instant = none) :
    ofArguments (before ++ given ++ after) = .ok { o with instant := some i } := by
  obtain ⟨s, hs, hscan⟩ := bind_eq_ok_iff.mp ho
  obtain ⟨s', hs', hmore⟩ := Scan.ofArguments_instant hgiven hplain hbefore hs
  exact bind_eq_ok_iff.mpr ⟨s', hs', ofScan_more hmore hread hscan hnone⟩

end Options
end DeployTrigger.CommandLine
