import DeployTrigger.Attempt

/-!
What comes of waiting for an attempt: its own result if it resolves in time, an error that names the
limit if it is late, and nothing if it never resolves and nothing bounds the wait. So waiting for a
call gives its result if its delay meets the limit, and otherwise that error, whatever the result
would have been (`within_ofOutcome_eq_ok_iff`, `within_ofOutcome_of_exceeds`).
-/
namespace DeployTrigger.Attempt

/-- The attempt resolves before the wait is over; one that is ready at once always does. -/
inductive InTime (limit : Option Duration) : Attempt → Except DeployError Address → Prop where
  | ready (result : Except DeployError Address) : InTime limit (.ready result) result
  | delayed (delay : Duration) (result : Except DeployError Address)
      (h : ∀ l, limit = some l → delay.toNanos < l.toNanos) :
      InTime limit (.delayed delay result) result

/-- The attempt does not resolve before a wait of that length is over. -/
inductive Late (limit : Duration) : Attempt → Prop where
  | delayed (delay : Duration) (result : Except DeployError Address)
      (h : limit.toNanos ≤ delay.toNanos) : Late limit (.delayed delay result)
  | never : Late limit .never

variable {limit : Option Duration} {attempt : Attempt}

theorem within_eq_ok_iff {a : Address} :
    attempt.within limit = some (.ok a) ↔ attempt.InTime limit (.ok a) := by
  constructor
  · intro h
    cases attempt with
    | ready result =>
      cases h
      exact .ready _
    | never => cases limit <;> cases h
    | delayed delay result =>
      cases limit with
      | none =>
        cases h
        exact .delayed _ _ nofun
      | some l =>
        simp only [within] at h
        split at h
        · rename_i hlt
          cases h
          refine .delayed _ _ fun l' hl => ?_
          cases hl
          exact hlt
        · cases h
  · intro h
    cases h with
    | ready => rfl
    | delayed delay result h =>
      cases limit with
      | none => rfl
      | some l => simp [within, h l rfl]

theorem within_eq_error_iff {e : DeployError} :
    attempt.within limit = some (.error e) ↔
      attempt.InTime limit (.error e) ∨
        ∃ l, limit = some l ∧ attempt.Late l ∧ e = .timeout l := by
  constructor
  · intro h
    cases attempt with
    | ready result =>
      cases h
      exact .inl (.ready _)
    | never =>
      cases limit with
      | none => cases h
      | some l =>
        cases h
        exact .inr ⟨l, rfl, .never, rfl⟩
    | delayed delay result =>
      cases limit with
      | none =>
        cases h
        exact .inl (.delayed _ _ nofun)
      | some l =>
        simp only [within] at h
        split at h
        · rename_i hlt
          cases h
          refine .inl (.delayed _ _ fun l' hl => ?_)
          cases hl
          exact hlt
        · rename_i hge
          cases h
          exact .inr ⟨l, rfl, .delayed _ _ (by omega), rfl⟩
  · rintro (h | ⟨l, rfl, hlate, rfl⟩)
    · cases h with
      | ready => rfl
      | delayed delay result h =>
        cases limit with
        | none => rfl
        | some l => simp [within, h l rfl]
    · cases hlate with
      | never => rfl
      | delayed delay result hle =>
        have hge : ¬ delay.toNanos < l.toNanos := by omega
        simp [within, hge]

theorem within_eq_none_iff : attempt.within limit = none ↔ limit = none ∧ attempt = .never := by
  cases attempt with
  | ready result => simp [within]
  | never => simp [within]
  | delayed delay result =>
    cases limit with
    | none => simp [within]
    | some l =>
      simp only [within]
      split <;> simp

/-- A delay that is over before the wait is. -/
def Meets (limit delay : Option Duration) : Prop :=
  ∀ l d, limit = some l → delay = some d → d.toNanos < l.toNanos

/-- A delay that lasts as long as the wait, or longer. -/
def Exceeds (limit : Duration) (delay : Option Duration) : Prop :=
  ∃ d, delay = some d ∧ limit.toNanos ≤ d.toNanos

section Delay
variable {l : Duration} {delay : Option Duration}

theorem meets_or_exceeds (limit delay : Option Duration) :
    Meets limit delay ∨ ∃ l, limit = some l ∧ Exceeds l delay := by
  by_cases h : ∃ l, limit = some l ∧ Exceeds l delay
  · exact .inr h
  · refine .inl fun l d hl hd => ?_
    by_cases hlt : d.toNanos < l.toNanos
    · exact hlt
    · exact absurd ⟨l, hl, d, hd, Nat.le_of_not_lt hlt⟩ h

theorem Meets.not_exceeds (h : Meets limit delay) (hl : limit = some l) : ¬ Exceeds l delay := by
  rintro ⟨d, hd, hle⟩
  exact absurd (h l d hl hd) (Nat.not_lt_of_le hle)

theorem meets_none (limit : Option Duration) : Meets limit none := nofun

theorem within_after (h : Meets limit delay) (result : Except DeployError Address) :
    (after delay result).within limit = some result := by
  cases delay with
  | none => rfl
  | some d =>
    cases limit with
    | none => rfl
    | some l => simp [after, within, h l d rfl rfl]

theorem within_ofOutcome_of_exceeds (h : Exceeds l delay) (outcome : Except Failure Address) :
    (ofOutcome delay outcome).within (some l) = some (.error (.timeout l)) := by
  obtain ⟨d, rfl, hle⟩ := h
  have hlate : ∀ result, (after (some d) result).within (some l) = some (.error (.timeout l)) := by
    intro result
    simp [after, within, Nat.not_lt_of_le hle]
  cases outcome with
  | ok a => exact hlate _
  | error failure =>
    cases failure with
    | error e => exact hlate _
    | unfinished => rfl

theorem within_ofOutcome_eq_ok_iff {outcome : Except Failure Address} {a : Address} :
    (ofOutcome delay outcome).within limit = some (.ok a) ↔ outcome = .ok a ∧ Meets limit delay := by
  obtain hm | ⟨l, rfl, he⟩ := meets_or_exceeds limit delay
  · cases outcome with
    | ok b => simp [ofOutcome, within_after hm, hm]
    | error failure =>
      cases failure with
      | error e => simp [ofOutcome, within_after hm]
      | unfinished => cases limit <;> simp [ofOutcome, within]
  · rw [within_ofOutcome_of_exceeds he]
    exact iff_of_false nofun fun ⟨_, hm⟩ => hm.not_exceeds rfl he

end Delay

end DeployTrigger.Attempt
