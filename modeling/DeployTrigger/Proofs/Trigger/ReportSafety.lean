import DeployTrigger.Proofs.Sink
import DeployTrigger.Proofs.Trigger.Calls

/-!
What a report stream holds after a run, at whatever byte or flush it fails: nothing without a
timestamp, a part of the header without an address, and behind the whole header a part of the
address line. The deployer is asked only after the header is out.
-/
namespace DeployTrigger.Trigger
variable {σ : Type} {t : Trigger σ} {clock : Clock} {state : σ} {sink : Sink} {time : Timestamp}

theorem join_headerPieces (time : Timestamp) : String.join (headerPieces time) = header time := by
  unfold headerPieces header
  rw [String.join_cons, String.join_cons, String.join_cons, String.join_nil, String.append_empty,
    String.append_assoc]

theorem join_addressPieces (a : Address) : String.join (addressPieces a) = addressLine a := by
  unfold addressPieces addressLine
  rw [String.join_cons, String.join_cons, String.join_cons, String.join_nil, String.append_empty,
    String.append_assoc]

/-- The stream took the header as a whole and flushed it. -/
def HeaderOut (sink : Sink) (time : Timestamp) : Prop :=
  sink.Takes (utf8 (header time)).length ∧ (sink.wrote (utf8 (header time))).flush.1 = .ok ()

instance (sink : Sink) (time : Timestamp) : Decidable (HeaderOut sink time) :=
  match h : (sink.wrote (utf8 (header time))).flush.1 with
  | .ok () => decidable_of_iff (sink.Takes (utf8 (header time)).length) (by simp [HeaderOut, h])
  | .error _ => isFalse (by simp [HeaderOut, h])

theorem report_header_ok_iff :
    (sink.report (headerPieces time)).1 = .ok () ↔ HeaderOut sink time := by
  rw [Sink.report_ok_iff, join_headerPieces, HeaderOut, Sink.flush_wrote]

theorem report_header_error (h : ¬ HeaderOut sink time) :
    ∃ e, (sink.report (headerPieces time)).1 = .error e := by
  cases hr : (sink.report (headerPieces time)).1 with
  | error e => exact ⟨e, rfl⟩
  | ok u => exact absurd (report_header_ok_iff.mp hr) h

theorem Resolves.unique {a b : Address} (ha : t.Resolves time state a)
    (hb : t.Resolves time state b) : a = b := by
  have h : some (Except.ok a) = some (Except.ok b) := ha.symm.trans hb
  cases h
  rfl

theorem calls_of_headerOut (h : Timestamp.ofInstant clock.read.1 = .ok time)
    (ho : HeaderOut sink time) : t.calls clock state sink = [time] := by
  simp [calls_eq, h, report_header_ok_iff.mpr ho]

theorem calls_of_not_headerOut (h : Timestamp.ofInstant clock.read.1 = .ok time)
    (ho : ¬ HeaderOut sink time) : t.calls clock state sink = [] := by
  obtain ⟨e, he⟩ := report_header_error ho
  simp [calls_eq, h, he]

/-- With no address to report, the stream is given the header and nothing else. -/
theorem written_run_of_no_address (h : Timestamp.ofInstant clock.read.1 = .ok time)
    (hn : HeaderOut sink time → ∀ a, ¬ t.Resolves time state a) :
    (t.run clock state sink).sink.written =
      sink.written ++ sink.accepted (utf8 (header time)) := by
  have hw := sink.written_report (headerPieces time)
  rw [join_headerPieces] at hw
  by_cases ho : HeaderOut sink time
  · rw [run_of_reported h (report_header_ok_iff.mpr ho), sink_deploy_of_not_resolves (hn ho), hw]
  · obtain ⟨e, he⟩ := report_header_error ho
    rw [run_of_unreported h he, hw]

/-- The address line follows the header, with what is left of the budget. -/
theorem written_run_of_resolves {a : Address} (h : Timestamp.ofInstant clock.read.1 = .ok time)
    (ho : HeaderOut sink time) (ha : t.Resolves time state a) :
    (t.run clock state sink).sink.written =
      sink.written ++ sink.accepted (utf8 (header time) ++ utf8 (addressLine a)) := by
  have hr : (sink.report (headerPieces time)).2 =
      { sink.wrote (utf8 (header time)) with flushes := sink.flushes + 1 } := by
    rw [Sink.report_eq, join_headerPieces, if_pos ho.1]
  rw [run_of_reported h (report_header_ok_iff.mpr ho), sink_deploy_of_resolves ha, hr,
    Sink.written_report, join_addressPieces, Sink.accepted_append ho.1]
  simp only [Sink.wrote, List.append_assoc]
  rfl

/-- What a run for a timestamp leaves on the stream: of the header what the stream takes, behind the
whole header the address line, and this only if the deployer was asked and resolved. -/
structure SafeReport (t : Trigger σ) (clock : Clock) (state : σ) (sink : Sink) (time : Timestamp)
    (accepted : Bytes) : Prop where
  once : t.calls clock state sink = [] ∨ t.calls clock state sink = [time]
  called_iff : t.calls clock state sink = [time] ↔
    utf8 (header time) <+: accepted ∧ (sink.wrote (utf8 (header time))).flush.1 = .ok ()
  without_address (h : t.calls clock state sink = [] ∨ ∀ a, ¬ t.Resolves time state a) :
    accepted <+: utf8 (header time) ∧ accepted = sink.accepted (utf8 (header time))
  with_address {a : Address} (h : t.calls clock state sink = [time])
    (ha : t.Resolves time state a) :
    utf8 (header time) <+: accepted ∧
      accepted <+: utf8 (header time) ++ utf8 (addressLine a) ∧
      accepted = sink.accepted (utf8 (header time) ++ utf8 (addressLine a))

theorem safeReport_of_not_headerOut (h : Timestamp.ofInstant clock.read.1 = .ok time)
    (ho : ¬ HeaderOut sink time) :
    t.SafeReport clock state sink time (sink.accepted (utf8 (header time))) := by
  have hcalls : t.calls clock state sink = [] := calls_of_not_headerOut h ho
  refine ⟨.inl hcalls, ?_, fun _ => ⟨Sink.accepted_prefix _ _, rfl⟩, ?_⟩
  · rw [hcalls]
    constructor
    · intro hnil
      cases hnil
    · rintro ⟨hp, hf⟩
      exact absurd ⟨(Sink.prefix_accepted_iff _ _).mp hp, hf⟩ ho
  · intro a hcall
    rw [hcalls] at hcall
    cases hcall

theorem safeReport_of_not_resolves (h : Timestamp.ofInstant clock.read.1 = .ok time)
    (ho : HeaderOut sink time) (hn : ∀ a, ¬ t.Resolves time state a) :
    t.SafeReport clock state sink time (sink.accepted (utf8 (header time))) := by
  have hcalls : t.calls clock state sink = [time] := calls_of_headerOut h ho
  refine ⟨.inr hcalls, ?_, fun _ => ⟨Sink.accepted_prefix _ _, rfl⟩, ?_⟩
  · exact ⟨fun _ => ⟨(Sink.prefix_accepted_iff _ _).mpr ho.1, ho.2⟩, fun _ => hcalls⟩
  · intro a _ ha
    exact absurd ha (hn a)

theorem safeReport_of_resolves {a : Address} (h : Timestamp.ofInstant clock.read.1 = .ok time)
    (ho : HeaderOut sink time) (ha : t.Resolves time state a) :
    t.SafeReport clock state sink time
      (sink.accepted (utf8 (header time) ++ utf8 (addressLine a))) := by
  have hcalls : t.calls clock state sink = [time] := calls_of_headerOut h ho
  have hheader : utf8 (header time) <+:
      sink.accepted (utf8 (header time) ++ utf8 (addressLine a)) := by
    rw [Sink.accepted_append ho.1]
    exact List.prefix_append _ _
  refine ⟨.inr hcalls, ⟨fun _ => ⟨hheader, ho.2⟩, fun _ => hcalls⟩, ?_, ?_⟩
  · rintro (hnil | hnone)
    · rw [hcalls] at hnil
      cases hnil
    · exact absurd ha (hnone a)
  · intro b _ hb
    obtain rfl := ha.unique hb
    exact ⟨hheader, Sink.accepted_prefix _ _, rfl⟩

/-- Whatever the clock, the deployer, the wait and the stream do, a run is safe: without a timestamp
it writes nothing and asks no one, and with one its report is safe. The calls are those that the
deployer sees. -/
theorem report_safe (t : Trigger σ) (clock : Clock) (state : σ) (sink : Sink) :
    (t.recorded.run clock (state, []) sink).forget = t.run clock state sink ∧
    ∃ accepted, (t.run clock state sink).sink.written = sink.written ++ accepted ∧
      match Timestamp.ofInstant clock.read.1 with
      | .error _ => accepted = [] ∧ t.calls clock state sink = []
      | .ok time => t.SafeReport clock state sink time accepted := by
  refine ⟨forget_run_recorded t clock state [] sink, ?_⟩
  cases h : Timestamp.ofInstant clock.read.1 with
  | error e =>
    refine ⟨[], ?_, rfl, ?_⟩
    · simp [run_of_refused h]
    · simp [calls_eq, h]
  | ok time =>
    -- The deployer is called iff the header is out; only then it matters what it resolves with.
    by_cases ho : HeaderOut sink time
    · by_cases hr : ∃ a, t.Resolves time state a
      · obtain ⟨a, ha⟩ := hr
        exact ⟨_, written_run_of_resolves h ho ha, safeReport_of_resolves h ho ha⟩
      · have hn : ∀ a, ¬ t.Resolves time state a := fun a ha => hr ⟨a, ha⟩
        exact ⟨_, written_run_of_no_address h fun _ => hn, safeReport_of_not_resolves h ho hn⟩
    · exact ⟨_, written_run_of_no_address h fun ho' => absurd ho' ho,
        safeReport_of_not_headerOut h ho⟩

end DeployTrigger.Trigger
