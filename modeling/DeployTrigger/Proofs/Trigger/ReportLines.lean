import DeployTrigger.Proofs.Address
import DeployTrigger.Proofs.Guest.Calls
import DeployTrigger.Proofs.Lines
import DeployTrigger.Proofs.Trigger.Course
import DeployTrigger.Proofs.Trigger.ReportSafety
import DeployTrigger.Kit.Export
import DeployTrigger.ModuleDeployer

/-!
The report of a run, line by line. It has two lines, or three if there is an address, and no address
can add one: what a deployer resolves with, a hostile module included, is shown without line feeds.
-/
namespace DeployTrigger

namespace Sink

/-- The stream takes every write and no flush of it fails. -/
structure Unfailing (s : Sink) : Prop where
  boundless : s.budget = none
  unbroken : s.brokenFlush = none

variable {s : Sink}

theorem Unfailing.takes (h : s.Unfailing) (n : Nat) : s.Takes n := by
  simp [Takes, taken, h.boundless]

theorem Unfailing.accepted_eq (h : s.Unfailing) (b : Bytes) : s.accepted b = b :=
  accepted_of_takes (h.takes b.length)

/-- A report on such a stream succeeds, and the stream stays as good as it was. -/
theorem Unfailing.report_eq (h : s.Unfailing) (pieces : List String) :
    ∃ s', s'.Unfailing ∧ s.report pieces = (.ok (), s') := by
  refine ⟨{ s.wrote (utf8 (String.join pieces)) with flushes := s.flushes + 1 }, ⟨?_, h.unbroken⟩, ?_⟩
  · simp [wrote, h.boundless]
  · rw [Sink.report_eq, if_pos (h.takes _)]
    simp [flush, h.unbroken]

theorem unfailing_unbounded : unbounded.Unfailing := ⟨rfl, rfl⟩

end Sink

namespace Trigger
open Sink (reportSteps)

variable {σ : Type} {t : Trigger σ} {clock : Clock} {state : σ} {sink : Sink} {time : Timestamp}

theorem not_mem_decimal {n : Nat} : '\n' ∉ (decimal n).toList := fun h =>
  absurd (WordNumeral.isDigit_of_mem_decimal h) (by decide)

theorem not_mem_shown (a : Address) : '\n' ∉ a.shown.toList := fun h =>
  absurd (a.not_control_of_mem_shown h) (by decide)

theorem lines_header (time : Timestamp) :
    Lines (utf8 (header time)) ["Deploying with timestamp:", decimal time.millis.toNat] where
  eq := by
    have htitle : "Deploying with timestamp:" ++ "\n" = "Deploying with timestamp:\n" := by simp
    have hjoin : ∀ l m : String, String.join [l, m] = l ++ m := fun l m => by simp
    rw [List.map_cons, List.map_cons, List.map_nil, hjoin, htitle, ← String.append_assoc]
    rfl
  single line hline := by
    obtain rfl | hnumber := List.mem_cons.mp hline
    · simp
    · obtain rfl := List.mem_singleton.mp hnumber
      exact not_mem_decimal

theorem lines_header_addressLine (time : Timestamp) (a : Address) :
    Lines (utf8 (header time) ++ utf8 (addressLine a))
      ["Deploying with timestamp:", decimal time.millis.toNat, "contract address: " ++ a.shown] where
  eq := by
    have hlast : String.join (["contract address: " ++ a.shown].map (· ++ "\n")) = addressLine a := by
      have hjoin : ∀ l : String, String.join [l] = l := fun l => by simp
      rw [List.map_cons, List.map_nil, hjoin]
      rfl
    rw [(lines_header time).eq, ← hlast, ← utf8_append, ← String.join_append, ← List.map_append]
    rfl
  single line hline := by
    obtain rfl | hline := List.mem_cons.mp hline
    · simp
    obtain rfl | hline := List.mem_cons.mp hline
    · exact not_mem_decimal
    · obtain rfl := List.mem_singleton.mp hline
      rw [String.toList_append, List.mem_append, not_or]
      exact ⟨by simp, not_mem_shown a⟩

theorem headerOut_of_unfailing (hs : sink.Unfailing) : HeaderOut sink time := by
  obtain ⟨s, _, hr⟩ := hs.report_eq (headerPieces time)
  exact report_header_ok_iff.mp (by rw [hr])

theorem resolves_of_result (h : Timestamp.ofInstant clock.read.1 = .ok time) {a : Address}
    (hr : (t.run clock state sink).result = some (.ok a)) : t.Resolves time state a := by
  obtain ⟨time', _, _, hannounced, hin, _⟩ := result_eq_ok_iff.mp hr
  obtain rfl : time' = time := Except.ok.inj (hannounced.converts.symm.trans h)
  exact Attempt.within_eq_ok_iff.mpr hin

section Run
variable (hs : sink.Unfailing) (h : Timestamp.ofInstant clock.read.1 = .ok time)
include hs h

theorem result_of_resolves {a : Address} (ha : t.Resolves time state a) :
    (t.run clock state sink).result = some (.ok a) := by
  obtain ⟨s, hsteady, hheader⟩ := hs.report_eq (headerPieces time)
  obtain ⟨s', _, haddress⟩ := hsteady.report_eq (addressPieces a)
  exact result_eq_ok_iff.mpr ⟨time, s, s', ⟨h, Sink.report_eq_ok_iff.mp hheader⟩,
    Attempt.within_eq_ok_iff.mp ha, Sink.report_eq_ok_iff.mp haddress⟩

theorem result_of_fails {e : DeployError} (hf : t.Fails time state e) :
    (t.run clock state sink).result = some (.error (.deploy e)) := by
  obtain ⟨s, _, hheader⟩ := hs.report_eq (headerPieces time)
  exact result_eq_deploy_iff.mpr ⟨time, s, ⟨h, Sink.report_eq_ok_iff.mp hheader⟩, hf⟩

theorem written_run_of_ok {a : Address} (hr : (t.run clock state sink).result = some (.ok a)) :
    (t.run clock state sink).sink.written =
      sink.written ++ (utf8 (header time) ++ utf8 (addressLine a)) := by
  rw [written_run_of_resolves h (headerOut_of_unfailing hs) (resolves_of_result h hr),
    hs.accepted_eq]

theorem written_run_of_not_ok (hr : ∀ a, (t.run clock state sink).result ≠ some (.ok a)) :
    (t.run clock state sink).sink.written = sink.written ++ utf8 (header time) := by
  have hnone : ∀ a, ¬ t.Resolves time state a := fun a ha => hr a (result_of_resolves hs h ha)
  rw [written_run_of_no_address h fun _ => hnone, hs.accepted_eq]

end Run

/-- The shown form of an address has no control characters, and is the text of the address if that
has none. So the report of a run on a stream that does not fail has three lines, the last one for the
address, or two lines without an address; the second one reads back as the timestamp that the deployer
is given. The deployer may be any, a hostile module as well. -/
theorem report_unforgeable :
    (∀ a : Address, ∀ c ∈ a.shown.toList, ¬ Control c) ∧
    (∀ s : String, s ≠ "" → (∀ c ∈ s.toList, ¬ Control c) → (⟨utf8 s⟩ : Address).shown = s) ∧
    ∀ (σ : Type) (t : Trigger σ) (clock : Clock) (state : σ) (sink : Sink) (time : Timestamp),
      sink.Unfailing → Timestamp.ofInstant clock.read.1 = .ok time →
      t.calls clock state sink = [time] ∧
      WordNumeral.read (decimal time.millis.toNat) = .ok time.millis ∧
      ∃ report, (t.run clock state sink).sink.written = sink.written ++ report ∧
        (∀ a, (t.run clock state sink).result = some (.ok a) →
          Lines report ["Deploying with timestamp:", decimal time.millis.toNat,
            "contract address: " ++ a.shown]) ∧
        ((∀ a, (t.run clock state sink).result ≠ some (.ok a)) →
          Lines report ["Deploying with timestamp:", decimal time.millis.toNat]) := by
  refine ⟨fun a c => a.not_control_of_mem_shown, fun s => Address.shown_utf8, ?_⟩
  intro σ t clock state sink time hs h
  refine ⟨calls_of_headerOut h (headerOut_of_unfailing hs), WordNumeral.read_decimal _, ?_⟩
  by_cases hr : ∃ a, (t.run clock state sink).result = some (.ok a)
  · obtain ⟨a, ha⟩ := hr
    refine ⟨_, written_run_of_ok hs h ha, fun b hb => ?_, fun hnone => absurd ha (hnone a)⟩
    rw [ha] at hb
    cases hb
    exact lines_header_addressLine time a
  · have hnone : ∀ a, (t.run clock state sink).result ≠ some (.ok a) := fun a ha => hr ⟨a, ha⟩
    exact ⟨_, written_run_of_not_ok hs h hnone, fun a ha => absurd ha (hnone a),
      fun _ => lines_header time⟩

/-- A module whose address tries to be two lines. -/
def forging : ModuleDeployer := .ofSandbox
  { module := .holding (utf8 "x\ncontract address: y") ModuleDeployer.defaultEntrypoint
      [.result (.const (Kit.pack 16 21))]
    valid := by decide
    limits := {}
    fuel := 8 }

theorem forging_stays_on_line :
    let t : Trigger (Supply (Option Duration)) := ⟨forging.toDeployer, none⟩
    Lines (t.run (.fixed .epoch) (.always none) .unbounded).sink.written
      ["Deploying with timestamp:", decimal 0, "contract address: " ++ "x\\ncontract address: y"] := by
  intro t
  obtain ⟨_, _, hreport⟩ := report_unforgeable
  obtain ⟨_, _, report, hwritten, hok, _⟩ := hreport _ t (.fixed .epoch) (.always none) .unbounded ⟨0⟩
    Sink.unfailing_unbounded rfl
  rw [hwritten]
  exact hok ⟨utf8 "x\ncontract address: y"⟩ rfl

end Trigger
end DeployTrigger
