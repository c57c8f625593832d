import DeployTrigger.Proofs.CommandLine.Scan

/-!
One switch more among the arguments. A scan that was given a switch with its value somewhere on the
way runs as before and finds that switch in addition (`Inserted.finish`): each argument keeps the two
scans alike, first with the new switch still open, then with it among those found.
-/
namespace DeployTrigger.CommandLine.Scan
variable {k j : Switch} {v b : Bytes} {s s' t : Scan} {w : Option Bytes} {m : Mention}
  {args : List Bytes}

/-- `s'` is `s` with one switch more among those found. -/
def More (k : Switch) (v : Bytes) (s s' : Scan) : Prop :=
  ∃ before after, s.found = before ++ after ∧
    s' = { s with found := before ++ (k, some v) :: after }

/-- A switch more has been given: it comes out as soon as the open switch is closed, or it was
found. -/
inductive Inserted (k : Switch) (v : Bytes) (s s' : Scan) : Prop
  | pending {t : Scan} (hmodule : s'.module = s.module) (hseparated : s'.separated = s.separated)
      (hwait : ¬ s.Waits) (hwait' : ¬ s'.Waits) (hsettle : s.settle = .ok t)
      (hsettle' : s'.settle = .ok { t with found := t.found ++ [(k, some v)] })
  | found (h : More k v s s')

namespace More

theorem current_eq (h : More k v s s') : s'.current = s.current := by
  obtain ⟨before, after, -, rfl⟩ := h
  rfl

theorem module_eq (h : More k v s s') : s'.module = s.module := by
  obtain ⟨before, after, -, rfl⟩ := h
  rfl

theorem separated_eq (h : More k v s s') : s'.separated = s.separated := by
  obtain ⟨before, after, -, rfl⟩ := h
  rfl

theorem append (h : More k v s s') (items : List (Switch × Option Bytes)) :
    More k v { s with found := s.found ++ items } { s' with found := s'.found ++ items } := by
  obtain ⟨before, after, hfound, rfl⟩ := h
  refine ⟨before, after ++ items, ?_, ?_⟩
  · rw [hfound, List.append_assoc]
  · rw [List.append_assoc, List.cons_append]

theorem withCurrent (h : More k v s s') (current : Option (Switch × Option Bytes)) :
    More k v { s with current := current } { s' with current := current } := by
  obtain ⟨before, after, hfound, rfl⟩ := h
  exact ⟨before, after, hfound, rfl⟩

theorem withModule (h : More k v s s') (module : Option Bytes) :
    More k v { s with module := module } { s' with module := module } := by
  obtain ⟨before, after, hfound, rfl⟩ := h
  exact ⟨before, after, hfound, rfl⟩

theorem withSeparated (h : More k v s s') (separated : Bool) :
    More k v { s with separated := separated } { s' with separated := separated } := by
  obtain ⟨before, after, hfound, rfl⟩ := h
  exact ⟨before, after, hfound, rfl⟩

theorem values_eq (h : More k v s s') (j : Switch) : ∃ before after,
    s.values j = before ++ after ∧ s'.values j = before ++ ((if k = j then [v] else []) ++ after) := by
  obtain ⟨before, after, hfound, rfl⟩ := h
  refine ⟨before.filterMap fun f => if f.1 = j then f.2 else none,
    after.filterMap fun f => if f.1 = j then f.2 else none, ?_, ?_⟩
  · rw [values, hfound, List.filterMap_append]
  · rw [values, List.filterMap_append, List.filterMap_cons]
    by_cases hj : k = j
    · simp [hj]
    · simp [hj]

theorem count_eq (h : More k v s s') (j : Switch) :
    s'.count j = s.count j + if k = j then 1 else 0 := by
  obtain ⟨before, after, hfound, rfl⟩ := h
  simp only [count, hfound, List.countP_append, List.countP_cons, decide_eq_true_eq]
  omega

theorem add (h : More k v s s') (hadd : s.add j w = .ok t) :
    ∃ t', s'.add j w = .ok t' ∧ More k v t t' := by
  refine ⟨_, add_of_add hadd s', ?_⟩
  rw [eq_of_add hadd]
  exact h.append _

theorem settle (h : More k v s s') (hsettle : s.settle = .ok t) :
    ∃ t', s'.settle = .ok t' ∧ More k v t t' := by
  refine ⟨_, settle_of_settle hsettle h.current_eq, ?_⟩
  rw [eq_of_settle hsettle, h.current_eq]
  exact (h.append _).withCurrent none

end More

namespace Inserted

theorem module_eq (h : Inserted k v s s') : s'.module = s.module := by
  cases h with
  | found h => exact h.module_eq
  | pending hmodule => exact hmodule

theorem separated_eq (h : Inserted k v s s') : s'.separated = s.separated := by
  cases h with
  | found h => exact h.separated_eq
  | pending _ hseparated => exact hseparated

theorem more_of_waits (h : Inserted k v s s') (hwait : s.Waits) : More k v s s' := by
  cases h with
  | found h => exact h
  | pending _ _ hnot => exact absurd hwait hnot

theorem not_waits (h : Inserted k v s s') (hwait : ¬ s.Waits) : ¬ s'.Waits := by
  cases h with
  | found h => exact fun ⟨j, hj⟩ => hwait ⟨j, h.current_eq.symm.trans hj⟩
  | pending _ _ _ hwait' => exact hwait'

theorem withSeparated (h : Inserted k v s s') :
    Inserted k v { s with separated := true } { s' with separated := true } := by
  cases h with
  | found h => exact .found (h.withSeparated true)
  | @pending t hmodule _ hwait hwait' hsettle hsettle' =>
    have hclosed : ({ s with separated := true } : Scan).settle = _ := settle_of_settle hsettle rfl
    have hclosed' : ({ s' with separated := true } : Scan).settle = _ :=
      settle_of_settle hsettle' rfl
    have hfound : s'.found ++ s'.current.toList = t.found ++ [(k, some v)] :=
      (congrArg Scan.found (eq_of_settle hsettle')).symm
    refine .pending hmodule rfl hwait hwait' hclosed ?_
    rw [hclosed', hfound, hmodule, eq_of_settle hsettle]

theorem settle (h : Inserted k v s s') (hsettle : s.settle = .ok t) :
    ∃ t', s'.settle = .ok t' ∧ More k v t t' := by
  cases h with
  | found h => exact h.settle hsettle
  | pending _ _ _ _ ht ht' =>
    rw [hsettle] at ht
    obtain rfl := Except.ok.inj ht
    exact ⟨_, ht', t.found, [], (List.append_nil _).symm, rfl⟩

theorem mention (h : Inserted k v s s') (hm : s.mention m = .ok t) :
    ∃ t', s'.mention m = .ok t' ∧ More k v t t' := by
  cases m with
  | unknown name => cases hm
  | switch j value =>
    cases value with
    | some value =>
      simp only [Scan.mention] at hm ⊢
      split at hm
      · rename_i htakes
        obtain ⟨u, hu, hadd⟩ := bind_eq_ok_iff.mp hm
        obtain ⟨u', hu', hmore⟩ := h.settle hu
        rw [if_pos htakes, hu']
        exact hmore.add hadd
      · cases hm
    | none =>
      obtain ⟨hhelp, hversion⟩ := ne_help_of_mention hm
      rw [mention_none hhelp hversion] at hm ⊢
      obtain ⟨u, hu, hrest⟩ := bind_eq_ok_iff.mp hm
      obtain ⟨u', hu', hmore⟩ := h.settle hu
      rw [hu']
      split at hrest
      · rename_i htakes
        obtain rfl := Except.ok.inj hrest
        exact ⟨_, if_pos htakes, hmore.withCurrent _⟩
      · rename_i htakes
        obtain ⟨t', ht', hmore'⟩ := hmore.add hrest
        exact ⟨t', (if_neg htakes).trans ht', hmore'⟩

theorem positional (h : Inserted k v s s') (hp : s.positional b = .ok t) :
    ∃ t', s'.positional b = .ok t' ∧ More k v t t' := by
  rw [Scan.positional] at hp ⊢
  rw [h.module_eq]
  cases hs : s.module with
  | some path =>
    rw [hs] at hp
    cases hp
  | none =>
    rw [hs] at hp
    obtain ⟨u, hu, hrest⟩ := bind_eq_ok_iff.mp hp
    obtain ⟨u', hu', hmore⟩ := h.settle hu
    obtain rfl := Except.ok.inj hrest
    dsimp only
    rw [hu']
    exact ⟨_, rfl, hmore.withModule (some b)⟩
theorem mentions {ms : List Mention} (h : Inserted k v s s')
    (hm : ms.foldlM Scan.mention s = .ok t) :
    ∃ t', ms.foldlM Scan.mention s' = .ok t' ∧ Inserted k v t t' := by
  refine foldlM_related (fun m h hm => ?_) h hm
  obtain ⟨t', ht', hmore⟩ := h.mention hm
  exact ⟨t', ht', .found hmore⟩

/-- One argument keeps the scans alike. -/
theorem argument (h : Inserted k v s s') (ha : s.argument b = .ok t) :
    ∃ t', s'.argument b = .ok t' ∧ Inserted k v t t' := by
  cases hs : s.separated with
  | true =>
    rw [argument_of_separated hs] at ha
    obtain ⟨t', ht', hmore⟩ := h.positional ha
    exact ⟨t', (argument_of_separated (h.separated_eq.trans hs)).trans ht', .found hmore⟩
  | false =>
    have hs' : s'.separated = false := h.separated_eq.trans hs
    cases hb : Argument.ofBytes b with
    | separator =>
      rw [argument_of_separator hs hb] at ha
      obtain rfl := Except.ok.inj ha
      exact ⟨_, argument_of_separator hs' hb, h.withSeparated⟩
    | switches ms =>
      rw [argument_of_switches hs hb] at ha
      rw [argument_of_switches hs' hb]
      exact h.mentions ha
    | plain c =>
      obtain rfl := eq_of_plain hb
      by_cases hwait : s.Waits
      · obtain ⟨j, hj⟩ := hwait
        rw [argument_of_waits hj hs hb] at ha
        obtain rfl := Except.ok.inj ha
        have hmore := h.more_of_waits ⟨j, hj⟩
        exact ⟨_, argument_of_waits (hmore.current_eq.trans hj) hs' hb, .found (hmore.withCurrent _)⟩
      · rw [argument_of_not_waits hwait hs hb] at ha
        obtain ⟨t', ht', hmore⟩ := h.positional ha
        exact ⟨t', (argument_of_not_waits (h.not_waits hwait) hs' hb).trans ht', .found hmore⟩

theorem arguments (h : Inserted k v s s') (ha : args.foldlM Scan.argument s = .ok t) :
    ∃ t', args.foldlM Scan.argument s' = .ok t' ∧ Inserted k v t t' :=
  foldlM_related (fun _ h ha => h.argument ha) h ha

theorem finish (h : Inserted k v s s') (hf : s.finish = .ok t) :
    ∃ t', s'.finish = .ok t' ∧ More k v t t' := by
  by_cases hwait : s.Waits
  · obtain ⟨j, hj⟩ := hwait
    have hmore := h.more_of_waits ⟨j, hj⟩
    rw [finish_of_waits hj] at hf
    obtain ⟨u, hu, hrest⟩ := bind_eq_ok_iff.mp hf
    obtain ⟨u', hu', hmore'⟩ := hmore.settle hu
    split at hrest
    · cases hrest
    · rename_i hvalues
      obtain rfl := Except.ok.inj hrest
      have hvalues' : ¬ (u'.values j).isEmpty = true := by
        obtain ⟨before, after, hold, hnew⟩ := hmore'.values_eq j
        rw [hold, List.isEmpty_iff, List.append_eq_nil_iff] at hvalues
        rw [hnew, List.isEmpty_iff, List.append_eq_nil_iff, List.append_eq_nil_iff]
        exact fun hempty => hvalues ⟨hempty.1, hempty.2.2⟩
      refine ⟨u', ?_, hmore'⟩
      rw [finish_of_waits (hmore.current_eq.trans hj), hu']
      exact if_neg hvalues'
  · rw [finish_of_not_waits hwait] at hf
    rw [finish_of_not_waits (h.not_waits hwait)]
    exact h.settle hf

end Inserted

end DeployTrigger.CommandLine.Scan
