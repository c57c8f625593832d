import DeployTrigger.Sink

/-!
What a report stream takes of a text. Cutting the text into pieces makes no difference
(`writeAll_eq_write`), so a report is one write and one flush (`report_eq`): the stream takes as much
as its budget allows, and the report succeeds iff that is all of it and the flush succeeds. Step by step, a
report succeeds iff every step does, and fails as the first step that does not.
-/
namespace DeployTrigger.Sink

/-- The stream takes a write of `n` bytes as a whole. -/
def Takes (s : Sink) (n : Nat) : Prop := s.taken n = n

instance (s : Sink) (n : Nat) : Decidable (s.Takes n) := inferInstanceAs (Decidable (s.taken n = n))

/-- The bytes of a write that the stream takes. -/
def accepted (s : Sink) (b : Bytes) : Bytes := b.take (s.taken b.length)

/-- The stream after it took a write as a whole. -/
def wrote (s : Sink) (b : Bytes) : Sink :=
  { s with budget := s.budget.map (· - b.length), written := s.written ++ b }

theorem accepted_prefix (s : Sink) (b : Bytes) : s.accepted b <+: b := List.take_prefix _ _

theorem accepted_of_takes {s : Sink} {b : Bytes} (h : s.Takes b.length) : s.accepted b = b := by
  rw [accepted, h, List.take_length]

theorem prefix_accepted_iff (s : Sink) (b : Bytes) : b <+: s.accepted b ↔ s.Takes b.length := by
  constructor
  · intro h
    have hlen := h.length_le
    rw [accepted, List.length_take] at hlen
    have hle : s.taken b.length ≤ b.length := by
      cases hb : s.budget with
      | none => simp [taken, hb]
      | some room => simp only [taken, hb]; omega
    simp only [Takes]
    omega
  · intro h
    exact ⟨[], by rw [accepted_of_takes h, List.append_nil]⟩

/-- After a write that was taken as a whole, the budget goes on where the write ended. -/
theorem accepted_append {s : Sink} {b : Bytes} (h : s.Takes b.length) (c : Bytes) :
    s.accepted (b ++ c) = b ++ (s.wrote b).accepted c := by
  cases hb : s.budget with
  | none => simp [accepted, wrote, taken, hb, List.take_length_add_append]
  | some room =>
    simp only [Takes, taken, hb] at h
    have hroom : min room (b.length + c.length) = b.length + min (room - b.length) c.length := by
      omega
    simp [accepted, wrote, taken, hb, hroom, List.take_length_add_append]

theorem written_write (s : Sink) (b : Bytes) :
    (s.write b).2.written = s.written ++ s.accepted b := by
  simp only [write]
  split <;> rfl

theorem write_of_takes {s : Sink} {b : Bytes} (h : s.Takes b.length) :
    s.write b = (.ok (), s.wrote b) := by
  have hn : s.taken b.length = b.length := h
  simp [write, wrote, hn]

theorem write_of_not_takes {s : Sink} {b : Bytes} (h : ¬ s.Takes b.length) :
    s.write b = (.error s.full, (s.write b).2) := by
  have hn : ¬ s.taken b.length = b.length := h
  simp [write, hn]

/-- Two writes, the second left out if the first one fails, are one write of both. -/
theorem write_append (s : Sink) (b c : Bytes) :
    s.write (b ++ c) =
      match s.write b with
      | (.ok (), s') => s'.write c
      | (.error e, s') => (.error e, s') := by
  cases h : s.budget with
  | none => simp [write, taken, h, List.take_length_add_append]
  | some room =>
    by_cases hb : b.length ≤ room
    · have hfst : min room b.length = b.length := by omega
      have hsnd : min room (b.length + c.length) =
          b.length + min (room - b.length) c.length := by omega
      have hleft : room - (b.length + min (room - b.length) c.length) =
          room - b.length - min (room - b.length) c.length := by omega
      simp [write, taken, h, hfst, hsnd, hleft, List.take_length_add_append]
    · have hfst : min room b.length = room := by omega
      have hboth : min room (b.length + c.length) = room := by omega
      have hne : ¬ room = b.length := by omega
      have hne' : ¬ room = b.length + c.length := by omega
      have hz : room - b.length = 0 := by omega
      simp [write, taken, h, hfst, hboth, hne, hne', List.take_append, hz]

/-- A text may be written in any pieces: the stream takes the same bytes and fails alike. -/
theorem writeAll_eq_write (s : Sink) (bs : List Bytes) : s.writeAll bs = s.write bs.flatten := by
  induction bs generalizing s with
  | nil =>
    have hnil : s.Takes ([] : Bytes).length := by cases h : s.budget <;> simp [Takes, taken, h]
    rw [writeAll, List.flatten_nil, write_of_takes hnil]
    simp [wrote]
  | cons b bs ih =>
    rw [writeAll, List.flatten_cons, write_append]
    cases hw : s.write b with
    | mk r s' => cases r with
      | ok _ => exact ih s'
      | error e => rfl

/-- Writing does not touch the flushes: whether one succeeds can be told beforehand. -/
theorem flush_wrote (s : Sink) (b : Bytes) :
    (s.wrote b).flush = (s.flush.1, { s.wrote b with flushes := s.flushes + 1 }) := by
  cases hf : s.brokenFlush with
  | none => simp [flush, wrote, hf]
  | some kf =>
    simp only [flush, wrote, hf]
    split <;> rfl

theorem report_eq (s : Sink) (pieces : List String) :
    s.report pieces =
      if s.Takes (utf8 (String.join pieces)).length then
        (s.flush.1, { s.wrote (utf8 (String.join pieces)) with flushes := s.flushes + 1 })
      else (.error s.full, (s.write (utf8 (String.join pieces))).2) := by
  rw [report, writeAll_eq_write, ← utf8_join]
  by_cases h : s.Takes (utf8 (String.join pieces)).length
  · rw [write_of_takes h, if_pos h]
    exact flush_wrote _ _
  · rw [write_of_not_takes h, if_neg h]

theorem written_report (s : Sink) (pieces : List String) :
    (s.report pieces).2.written = s.written ++ s.accepted (utf8 (String.join pieces)) := by
  rw [report_eq]
  by_cases h : s.Takes (utf8 (String.join pieces)).length
  · rw [if_pos h, accepted_of_takes h]
    rfl
  · rw [if_neg h]
    exact written_write _ _

theorem report_ok_iff (s : Sink) (pieces : List String) :
    (s.report pieces).1 = .ok () ↔
      s.Takes (utf8 (String.join pieces)).length ∧ s.flush.1 = .ok () := by
  rw [report_eq]
  by_cases h : s.Takes (utf8 (String.join pieces)).length <;> simp [h]

section Steps

/-- One thing that is done to a stream. -/
inductive Step where
  | write (b : Bytes)
  | flush

def Step.on (s : Sink) : Step → Except IoError Unit × Sink
  | write b => s.write b
  | flush => s.flush

/-- The steps of a report: its pieces, then a flush. -/
def reportSteps (pieces : List String) : List Step :=
  pieces.map (fun piece => Step.write (utf8 piece)) ++ [.flush]

/-- All steps succeed and leave the stream as `s'`. -/
inductive Carries : Sink → List Step → Sink → Prop where
  | nil (s : Sink) : Carries s [] s
  | cons {s s' s'' : Sink} {step : Step} {rest : List Step} (h : step.on s = (.ok (), s'))
      (hr : Carries s' rest s'') : Carries s (step :: rest) s''

/-- Of the steps, the first that does not succeed fails with `e` and leaves the stream as `s'`. -/
inductive FailsWith : Sink → List Step → IoError → Sink → Prop where
  | here {s s' : Sink} {step : Step} {rest : List Step} {e : IoError}
      (h : step.on s = (.error e, s')) : FailsWith s (step :: rest) e s'
  | later {s s' s'' : Sink} {step : Step} {rest : List Step} {e : IoError}
      (h : step.on s = (.ok (), s')) (hr : FailsWith s' rest e s'') : FailsWith s (step :: rest) e s''

variable {s s' : Sink} {pieces : List String} {e : IoError}

theorem report_cons (s : Sink) (piece : String) (rest : List String) :
    s.report (piece :: rest) =
      match s.write (utf8 piece) with
      | (.ok (), s') => s'.report rest
      | (.error e, s') => (.error e, s') := by
  rw [report, List.map_cons, writeAll]
  obtain ⟨r, s', hw⟩ : ∃ r s', s.write (utf8 piece) = (r, s') := ⟨_, _, rfl⟩
  cases r <;> simp [hw, report]

theorem carries_of_report (h : s.report pieces = (.ok (), s')) :
    s.Carries (reportSteps pieces) s' := by
  induction pieces generalizing s with
  | nil => exact .cons h (.nil s')
  | cons piece rest ih =>
    rw [report_cons] at h
    split at h
    · rename_i hw
      exact .cons hw (ih h)
    · cases h

theorem failsWith_of_report (h : s.report pieces = (.error e, s')) :
    s.FailsWith (reportSteps pieces) e s' := by
  induction pieces generalizing s with
  | nil => exact .here h
  | cons piece rest ih =>
    rw [report_cons] at h
    split at h
    · rename_i hw
      exact .later hw (ih h)
    · rename_i hw
      cases h
      exact .here hw

/-- Steps either all succeed or one of them is the first to fail, and each in one way only. -/
theorem Carries.unique {steps : List Step} (h : s.Carries steps s') {s'' : Sink}
    (h' : s.Carries steps s'') : s' = s'' := by
  induction h with
  | nil s => cases h'; rfl
  | cons hs _ ih =>
    cases h' with
    | cons hs' hr' =>
      rw [hs] at hs'
      cases hs'
      exact ih hr'

theorem Carries.not_failsWith {steps : List Step} (h : s.Carries steps s') {s'' : Sink}
    (h' : s.FailsWith steps e s'') : False := by
  induction h with
  | nil s => cases h'
  | cons hs _ ih =>
    cases h' with
    | here hs' => rw [hs] at hs'; cases hs'
    | later hs' hr' =>
      rw [hs] at hs'
      cases hs'
      exact ih hr'

theorem FailsWith.unique {steps : List Step} (h : s.FailsWith steps e s') {e' : IoError}
    {s'' : Sink} (h' : s.FailsWith steps e' s'') : e = e' ∧ s' = s'' := by
  induction h with
  | here hs =>
    cases h' with
    | here hs' => rw [hs] at hs'; cases hs'; exact ⟨rfl, rfl⟩
    | later hs' _ => rw [hs] at hs'; cases hs'
  | later hs _ ih =>
    cases h' with
    | here hs' => rw [hs] at hs'; cases hs'
    | later hs' hr' =>
      rw [hs] at hs'
      cases hs'
      exact ih hr'

theorem report_eq_ok_iff : s.report pieces = (.ok (), s') ↔ s.Carries (reportSteps pieces) s' := by
  refine ⟨carries_of_report, fun h => ?_⟩
  obtain ⟨r, s'', hr⟩ : ∃ r s'', s.report pieces = (r, s'') := ⟨_, _, rfl⟩
  cases r with
  | ok u => rw [hr, h.unique (carries_of_report hr)]
  | error e => exact (h.not_failsWith (failsWith_of_report hr)).elim

theorem report_eq_error_iff :
    s.report pieces = (.error e, s') ↔ s.FailsWith (reportSteps pieces) e s' := by
  refine ⟨failsWith_of_report, fun h => ?_⟩
  obtain ⟨r, s'', hr⟩ : ∃ r s'', s.report pieces = (r, s'') := ⟨_, _, rfl⟩
  cases r with
  | ok u => exact ((carries_of_report hr).not_failsWith h).elim
  | error e' =>
    obtain ⟨rfl, rfl⟩ := h.unique (failsWith_of_report hr)
    exact hr

end Steps

end DeployTrigger.Sink
