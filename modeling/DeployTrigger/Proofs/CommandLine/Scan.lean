import DeployTrigger.CommandLine.Scan
import DeployTrigger.Proofs.Except

/-!
What one argument does to a scan. Nothing is added to what was found unless the open switch could be
closed, and if the rest of the arguments is accepted, it could (`settles_of_finish`).
-/
namespace DeployTrigger.CommandLine

/-- What every step keeps related stays related along the list. -/
theorem foldlM_related {ε α σ : Type} {R : σ → σ → Prop} {step : σ → α → Except ε σ} {s s' t : σ}
    (hstep : ∀ {s s' t} a, R s s' → step s a = .ok t → ∃ t', step s' a = .ok t' ∧ R t t')
    {l : List α} (h : R s s') (hl : l.foldlM step s = .ok t) :
    ∃ t', l.foldlM step s' = .ok t' ∧ R t t' := by
  induction l generalizing s s' with
  | nil =>
    obtain rfl := Except.ok.inj hl
    exact ⟨s', rfl, h⟩
  | cons a l ih =>
    rw [List.foldlM_cons] at hl
    obtain ⟨u, hu, hrest⟩ := bind_eq_ok_iff.mp hl
    obtain ⟨u', hu', hrelated⟩ := hstep a h hu
    obtain ⟨t', ht', hrelated'⟩ := ih hrelated hrest
    exact ⟨t', by rw [List.foldlM_cons, hu']; exact ht', hrelated'⟩

/-- What does not start with a dash is plain. -/
theorem ofBytes_of_ne_dash {b : Bytes} (h : ∀ rest, b ≠ Mention.dash :: rest) :
    Argument.ofBytes b = .plain b := by
  revert h
  fun_cases Argument.ofBytes b with
  | case1 rest => exact fun h => absurd rfl (h _)
  | case2 rest => exact fun h => absurd rfl (h _)
  | case3 y rest => exact fun h => absurd rfl (h _)
  | case4 => exact fun _ => rfl
  | case5 => exact fun _ => rfl

namespace Scan
variable {s s' t : Scan} {j : Switch} {w : Option Bytes} {b : Bytes} {m : Mention}
  {args : List Bytes}

theorem eq_of_add (h : s.add j w = .ok t) : t = { s with found := s.found ++ [(j, w)] } := by
  rw [add] at h
  split at h
  · cases h
  · exact (Except.ok.inj h).symm

/-- Whether a switch can be added does not depend on what was found. -/
theorem add_of_add (h : s.add j w = .ok t) (s' : Scan) :
    s'.add j w = .ok { s' with found := s'.found ++ [(j, w)] } := by
  rw [add] at h ⊢
  split at h
  · cases h
  · rename_i hok
    exact if_neg hok

theorem eq_of_settle (h : s.settle = .ok t) :
    t = { s with current := none, found := s.found ++ s.current.toList } := by
  rw [settle] at h
  split at h
  · rename_i hcurrent
    rw [eq_of_add h, hcurrent]
    rfl
  · rename_i hcurrent
    rw [← Except.ok.inj h, hcurrent, Option.toList_none, List.append_nil, ← hcurrent]

theorem settle_of_settle (h : s.settle = .ok t) (hcurrent : s'.current = s.current) :
    s'.settle = .ok { s' with current := none, found := s'.found ++ s'.current.toList } := by
  rw [settle] at h ⊢
  cases hs : s.current with
  | some opened =>
    rw [hs] at h hcurrent
    rw [hcurrent]
    exact add_of_add h _
  | none =>
    rw [hs] at hcurrent
    simp only [hcurrent, Option.toList_none, List.append_nil]
    rw [← hcurrent]

/-- The open switch waits for its value. -/
def Waits (s : Scan) : Prop := ∃ j, s.current = some (j, none)

/-- A switch without an attached value, the calls for help and for the version apart. -/
theorem mention_none (hhelp : j ≠ .help) (hversion : j ≠ .version) (s : Scan) :
    s.mention (.switch j none) = s.settle >>= fun u =>
      if j.takesValue then .ok { u with current := some (j, none) } else u.add j none := by
  cases j with
  | help => exact absurd rfl hhelp
  | version => exact absurd rfl hversion
  | config => rfl
  | entrypoint => rfl
  | timeout => rfl
  | instant => rfl
  | schemas => rfl
  | verbose => rfl

theorem ne_help_of_mention (hm : s.mention (.switch j none) = .ok t) :
    j ≠ .help ∧ j ≠ .version := by
  constructor
  · rintro rfl
    obtain ⟨u, -, hu⟩ := bind_eq_ok_iff.mp hm
    cases hu
  · rintro rfl
    obtain ⟨u, -, hu⟩ := bind_eq_ok_iff.mp hm
    cases hu

theorem argument_of_separated (h : s.separated = true) : s.argument b = s.positional b := if_pos h

theorem argument_of_separator (hs : s.separated = false) (hb : Argument.ofBytes b = .separator) :
    s.argument b = .ok { s with separated := true } := by
  rw [argument, hs, hb]
  rfl

theorem argument_of_switches {ms : List Mention} (hs : s.separated = false)
    (hb : Argument.ofBytes b = .switches ms) : s.argument b = ms.foldlM Scan.mention s := by
  rw [argument, hs, hb]
  rfl

theorem argument_of_not_waits (h : ¬ s.Waits) (hs : s.separated = false)
    (hb : Argument.ofBytes b = .plain b) : s.argument b = s.positional b := by
  rw [argument, hs, hb]
  dsimp only
  rw [if_neg Bool.false_ne_true]
  split
  · rename_i j hj
    exact absurd ⟨j, hj⟩ h
  · rfl

theorem argument_of_waits (h : s.current = some (j, none)) (hs : s.separated = false)
    (hb : Argument.ofBytes b = .plain b) :
    s.argument b = .ok { s with current := some (j, some b) } := by
  rw [argument, hs, hb]
  dsimp only
  rw [if_neg Bool.false_ne_true, h]

theorem finish_of_not_waits (h : ¬ s.Waits) : s.finish = s.settle := by
  rw [finish]
  cases hcurrent : s.current with
  | none => cases s.settle <;> rfl
  | some opened =>
    obtain ⟨j, value⟩ := opened
    cases value with
    | none => exact absurd ⟨j, hcurrent⟩ h
    | some b => cases s.settle <;> rfl

theorem finish_of_waits (h : s.current = some (j, none)) :
    s.finish = s.settle >>= fun closed =>
      if (closed.values j).isEmpty then misuse (.missingValue j) else .ok closed := by
  rw [finish, h]
  rfl

theorem eq_of_plain {c : Bytes} (h : Argument.ofBytes b = .plain c) : c = b := by
  revert h
  fun_cases Argument.ofBytes b with
  | case1 => exact nofun
  | case2 => exact nofun
  | case3 => exact nofun
  | case4 => exact fun h => (Argument.plain.inj h).symm
  | case5 => exact fun h => (Argument.plain.inj h).symm

/-- The open switch has a value that it can be closed with. -/
def Settles (s : Scan) : Prop := ∃ t, s.settle = .ok t

theorem settles_of_mention (hm : s.mention m = .ok t) : s.Settles := by
  cases m with
  | unknown name => cases hm
  | switch j value =>
    cases value with
    | some value =>
      simp only [mention] at hm
      split at hm
      · obtain ⟨u, hu, -⟩ := bind_eq_ok_iff.mp hm
        exact ⟨u, hu⟩
      · cases hm
    | none =>
      obtain ⟨u, hu, -⟩ := bind_eq_ok_iff.mp hm
      exact ⟨u, hu⟩

theorem settles_of_positional (hp : s.positional b = .ok t) : s.Settles := by
  rw [positional] at hp
  split at hp
  · cases hp
  · obtain ⟨u, hu, -⟩ := bind_eq_ok_iff.mp hp
    exact ⟨u, hu⟩

theorem settles_of_waits (h : s.Waits) : s.Settles := by
  obtain ⟨j, hj⟩ := h
  rw [Settles, settle, hj]
  exact ⟨_, if_neg (by simp)⟩

theorem settles_of_argument (ha : s.argument b = .ok t) (ht : t.Settles) : s.Settles := by
  cases hs : s.separated with
  | true =>
    rw [argument_of_separated hs] at ha
    exact settles_of_positional ha
  | false =>
    cases hb : Argument.ofBytes b with
    | separator =>
      rw [argument_of_separator hs hb] at ha
      obtain rfl := Except.ok.inj ha
      obtain ⟨u, hu⟩ := ht
      exact ⟨_, settle_of_settle hu rfl⟩
    | switches ms =>
      rw [argument_of_switches hs hb] at ha
      cases ms with
      | nil =>
        obtain rfl := Except.ok.inj ha
        exact ht
      | cons m ms =>
        obtain ⟨u, hu, -⟩ := bind_eq_ok_iff.mp ha
        exact settles_of_mention hu
    | plain c =>
      obtain rfl := eq_of_plain hb
      by_cases hwait : s.Waits
      · exact settles_of_waits hwait
      · rw [argument_of_not_waits hwait hs hb] at ha
        exact settles_of_positional ha

/-- If all further arguments are accepted, the open switch has a value that fits. -/
theorem settles_of_finish (h : args.foldlM argument s >>= finish = .ok t) : s.Settles := by
  obtain ⟨u, hu, hfinish⟩ := bind_eq_ok_iff.mp h
  induction args generalizing s with
  | nil =>
    obtain rfl := Except.ok.inj hu
    obtain ⟨closed, hclosed, -⟩ := bind_eq_ok_iff.mp hfinish
    exact ⟨closed, hclosed⟩
  | cons b args ih =>
    rw [List.foldlM_cons] at hu
    obtain ⟨next, hnext, hrest⟩ := bind_eq_ok_iff.mp hu
    exact settles_of_argument hnext (ih (bind_eq_ok_iff.mpr ⟨u, hrest, hfinish⟩) hrest)

end Scan
end DeployTrigger.CommandLine
