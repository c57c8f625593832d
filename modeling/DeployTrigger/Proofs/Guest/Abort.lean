import DeployTrigger.Kit.Export
import DeployTrigger.Proofs.Guest.Calls
import DeployTrigger.Proofs.Wire

/-!
Calls of the abort function. A call of an exported function is reported as aborted iff its
execution comes to such a call; the reason is read from the memory as it is then, and what the guest
would do next does not happen.
-/
namespace DeployTrigger.Guest
open Deploy Machine

/-- What a call of the abort function hands over, given the memory at the call. -/
inductive AbortReason (memory : Memory) (w : UInt64) : ModuleError → Prop where
  | decoded {e : ModuleError}
      (inside : w.toNat / UInt32.size + w.toNat % UInt32.size ≤ memory.size)
      (h : e.encode? = some (memory.slice (w.toNat / UInt32.size) (w.toNat % UInt32.size))) :
      AbortReason memory w e
  | malformed {fault : ModuleError.DecodeError}
      (inside : w.toNat / UInt32.size + w.toNat % UInt32.size ≤ memory.size)
      (invalid : ∀ e : ModuleError,
        e.encode? ≠ some (memory.slice (w.toNat / UInt32.size) (w.toNat % UInt32.size)))
      (h : ModuleError.decode (memory.slice (w.toNat / UInt32.size) (w.toNat % UInt32.size)) =
        .error fault) :
      AbortReason memory w (.other ("malformed abort payload: " ++ fault.toIoError.message))
  | outside (h : memory.size < w.toNat / UInt32.size + w.toNat % UInt32.size) :
      AbortReason memory w
        (.other ("abort payload at " ++
          (decimal (w.toNat / UInt32.size) ++ "+" ++ decimal (w.toNat % UInt32.size)) ++
          " out of bounds"))

theorem Store.hostRead?_of_visible {s : Store} (hv : s.visible = true) (r : Location) :
    s.hostRead? r = s.memory.read? r.start.toNat r.length.toNat := by
  rw [hostRead?, if_pos hv, Memory.view?_eq_read?]

/-- Host functions that see the memory read the reason from it. -/
theorem Store.abortReason_eq_iff {s : Store} (hv : s.visible = true) {w : UInt64}
    {reason : ModuleError} :
    s.abortReason (.unpack w) = reason ↔ AbortReason s.memory w reason := by
  have hread : s.hostRead? (.unpack w) =
      s.memory.read? (w.toNat / UInt32.size) (w.toNat % UInt32.size) := by
    rw [hostRead?_of_visible hv, Location.start_unpack, Location.length_unpack]
  have hshown : (Location.unpack w).shown =
      decimal (w.toNat / UInt32.size) ++ "+" ++ decimal (w.toNat % UInt32.size) := by
    rw [Location.shown, Location.start_unpack, Location.length_unpack]
  rw [abortReason, hread, hshown, Memory.read?]
  constructor
  · rintro rfl
    by_cases hin : w.toNat / UInt32.size + w.toNat % UInt32.size ≤ s.memory.size
    · rw [if_pos hin]
      dsimp only
      cases hd : ModuleError.decode _ with
      | error fault =>
        refine .malformed hin (fun e he => ?_) hd
        rw [ModuleError.decode_eq_ok_iff.mpr he] at hd
        cases hd
      | ok e => exact .decoded hin (ModuleError.decode_eq_ok_iff.mp hd)
    · rw [if_neg hin]
      exact .outside (Nat.lt_of_not_le hin)
  · intro h
    cases h with
    | decoded inside h =>
      rw [if_pos inside]
      dsimp only
      rw [ModuleError.decode_eq_ok_iff.mpr h]
    | malformed inside _ h =>
      rw [if_pos inside]
      dsimp only
      rw [h]
    | outside h => rw [if_neg (Nat.not_le_of_lt h)]

namespace Machine
variable {m : Module} {c d : Machine} {w : UInt64} {after : Store}

theorem ends_of_callsAbort (h : Leads m c d) (hw : d.CallsAbort w) :
    Ends m c (.stopped (.abort (d.store.abortReason (.unpack w)))) d.store :=
  .stopped h (step_of_callsAbort hw)

/-- An execution that ends with an abort came to a call of the abort function. -/
theorem callsAbort_of_ends {reason : ModuleError}
    (h : Ends m c (.stopped (.abort reason)) after) :
    ∃ d w, Leads m c d ∧ d.CallsAbort w ∧ d.store.abortReason (.unpack w) = reason ∧
      after = d.store := by
  cases h with
  | @stopped d _ _ hl hs =>
    obtain ⟨w, hw, rfl, rfl⟩ := callsAbort_of_step hs
    exact ⟨d, w, hl, hw, rfl, rfl⟩

end Machine

variable {α : Type} {m : Module} {c d : Machine} {w : UInt64} {before : List Log.Event}
  {work : Nat → Deploy α}

/-- Work that logs some events, runs a machine and hands on how it stops. Of a value the work may
make what it wants, only not an abort. -/
structure Reports (m : Module) (c : Machine) (before : List Log.Event) (work : Nat → Deploy α) :
    Prop where
  stable : Stable work
  ends {r : Except DeployError α} {events : List Log.Event} (h : Settles work r events) :
    ∃ o after, Ends m c o after
  stopped {why : Stop} {after : Store} (h : Ends m c (.stopped why) after) :
    Settles work (.error why.toDeployError) (before ++ after.events)
  value {v : UInt64} {after : Store} (h : Ends m c (.value v) after) :
    ∃ r events, Settles work r events ∧ ∀ reason, r ≠ .error (.aborted reason)

/-- What aborts mean for work that runs a machine. -/
structure AbortLaw (m : Module) (c : Machine) (before : List Log.Event) (work : Nat → Deploy α) :
    Prop where
  /-- A larger bound on the steps changes nothing but work that gave up. -/
  stable : Stable work
  aborted_iff (reason : ModuleError) :
    (∃ events, Settles work (.error (.aborted reason)) events) ↔
      ∃ d w, Leads m c d ∧ d.CallsAbort w ∧ AbortReason d.store.memory w reason
  /-- The result and the log are there when abort is called. -/
  nothing_after {d : Machine} {w : UInt64} (h : Leads m c d) (hw : d.CallsAbort w)
    (r : Except DeployError α) (events : List Log.Event) :
    Settles work r events ↔
      ∃ reason, AbortReason d.store.memory w reason ∧ r = .error (.aborted reason) ∧
        events = before ++ d.store.events
  /-- A reason that the module encoded and packed arrives. -/
  crosses {d : Machine} {range : Location} {reason : Kit.Reason} (h : Leads m c d)
    (hw : d.CallsAbort (Kit.pack range.start.toUInt64 range.length.toUInt64))
    (inside : range.start.toNat + range.length.toNat ≤ d.store.memory.size)
    (stored : reason.encode? =
      some (d.store.memory.slice range.start.toNat range.length.toNat)) :
    Settles work (.error (.aborted reason.toModuleError)) (before ++ d.store.events)
  trapped {trap : Trap} {after : Store} (h : Ends m c (.stopped (.trap trap)) after)
    (r : Except DeployError α) (events : List Log.Event) :
    Settles work r events ↔ r = .error (.trapped trap.message) ∧ events = before ++ after.events

/-- Work that settles at the stop of a machine settles to nothing else. -/
theorem Reports.settles_iff (hr : Reports m c before work) {why : Stop} {after : Store}
    (h : Ends m c (.stopped why) after) (r : Except DeployError α) (events : List Log.Event) :
    Settles work r events ↔ r = .error why.toDeployError ∧ events = before ++ after.events := by
  constructor
  · intro hs
    exact hs.unique (hr.stopped h)
  · rintro ⟨rfl, rfl⟩
    exact hr.stopped h

theorem Reports.ends_of_aborted (hr : Reports m c before work) {reason : ModuleError}
    {events : List Log.Event} (h : Settles work (.error (.aborted reason)) events) :
    ∃ after, Ends m c (.stopped (.abort reason)) after := by
  obtain ⟨o, after, hends⟩ := hr.ends h
  cases o with
  | unfinished => exact hends.not_unfinished.elim
  | value v =>
    obtain ⟨r, _, hs, hne⟩ := hr.value hends
    exact absurd (hs.unique h).1 (hne reason)
  | stopped why =>
    have heq := ((hr.settles_iff hends _ _).mp h).1
    cases why with
    | trap t => cases heq
    | abort reason' =>
      cases heq
      exact ⟨after, hends⟩

/-- The guest cannot hide its memory, so it is still visible at a call. -/
theorem abortReason_iff_of_leads (hv : c.store.visible = true) (h : Leads m c d)
    {reason : ModuleError} :
    d.store.abortReason (.unpack w) = reason ↔ AbortReason d.store.memory w reason :=
  Store.abortReason_eq_iff (h.visible.trans hv)

theorem Reports.settles_iff_of_callsAbort (hr : Reports m c before work)
    (hv : c.store.visible = true) (h : Leads m c d) (hw : d.CallsAbort w)
    (r : Except DeployError α) (events : List Log.Event) :
    Settles work r events ↔
      ∃ reason, AbortReason d.store.memory w reason ∧ r = .error (.aborted reason) ∧
        events = before ++ d.store.events := by
  rw [hr.settles_iff (ends_of_callsAbort h hw)]
  constructor
  · rintro ⟨rfl, rfl⟩
    exact ⟨_, (abortReason_iff_of_leads hv h).mp rfl, rfl, rfl⟩
  · rintro ⟨reason, hreason, rfl, rfl⟩
    rw [← (abortReason_iff_of_leads hv h).mpr hreason]
    exact ⟨rfl, rfl⟩

theorem Reports.aborted_iff (hr : Reports m c before work) (hv : c.store.visible = true)
    (reason : ModuleError) :
    (∃ events, Settles work (.error (.aborted reason)) events) ↔
      ∃ d w, Leads m c d ∧ d.CallsAbort w ∧ AbortReason d.store.memory w reason := by
  constructor
  · rintro ⟨events, h⟩
    obtain ⟨_, hends⟩ := hr.ends_of_aborted h
    obtain ⟨d, w, hl, hw, heq, _⟩ := callsAbort_of_ends hends
    exact ⟨d, w, hl, hw, (abortReason_iff_of_leads hv hl).mp heq⟩
  · rintro ⟨d, w, hl, hw, h⟩
    exact ⟨_, (hr.settles_iff_of_callsAbort hv hl hw _ _).mpr ⟨reason, h, rfl, rfl⟩⟩

/-- The host decodes what the module encoded, at the place that the module packed. -/
theorem abortReason_of_encode? {memory : Memory} {range : Location} {reason : Kit.Reason}
    (inside : range.start.toNat + range.length.toNat ≤ memory.size)
    (stored : reason.encode? = some (memory.slice range.start.toNat range.length.toNat)) :
    AbortReason memory (Kit.pack range.start.toUInt64 range.length.toUInt64)
      reason.toModuleError := by
  rw [← Kit.unpack_pack range] at inside stored
  rw [Location.start_unpack, Location.length_unpack] at inside stored
  rw [← Kit.Reason.encode?_toModuleError] at stored
  exact .decoded inside stored

theorem Reports.abortLaw (hr : Reports m c before work) (hv : c.store.visible = true) :
    AbortLaw m c before work where
  stable := hr.stable
  aborted_iff := hr.aborted_iff hv
  nothing_after h hw := hr.settles_iff_of_callsAbort hv h hw
  crosses h hw inside stored := by
    have hreason := abortReason_of_encode? inside stored
    exact (hr.settles_iff_of_callsAbort hv h hw _ _).mpr ⟨_, hreason, rfl, rfl⟩
  trapped h := hr.settles_iff h

namespace Sandbox
variable {s : Sandbox} {name : String} {t : Timestamp}

/-- A range that is no address, or no document, is not an abort. -/
theorem addressAt_ne_aborted (limits : Limits) (memory : Memory) (r : Location)
    (reason : ModuleError) : addressAt limits memory r ≠ .error (.aborted reason) := by
  rw [addressAt]
  repeat' split
  all_goals exact nofun

theorem schemasAt_ne_aborted (limits : Limits) (memory : Memory) (r : Location)
    (reason : ModuleError) : schemasAt limits memory r ≠ .error (.aborted reason) := by
  rw [schemasAt]
  repeat' split
  all_goals exact nofun

theorem Entry.reports_invoking (x : s.Entry name .wordToWord) (t : Timestamp) :
    Reports s.module (x.machine [t.millis]) (x.logged ++ [invokingEvent name t])
      (s.invoking name t) where
  stable := s.stable_invoking name t
  ends h := x.ends_of_settles_invoking h
  stopped h := by
    rw [List.append_assoc]
    exact x.settles_invoking_of_stopped h
  value h := ⟨_, _, x.settles_invoking_of_value h, addressAt_ne_aborted _ _ _⟩

theorem Entry.reports_describing (x : s.Entry schemasExport .word) :
    Reports s.module (x.machine []) x.logged s.describing where
  stable := stable_describing x.publishes
  ends h := x.ends_of_settles_describing h
  stopped h := x.settles_describing_of_stopped h
  value {p after} h := by
    refine ⟨_, _, x.settles_describing_of_value h, fun reason hr => ?_⟩
    cases hat : schemasAt s.limits after.memory (.unpack p) with
    | error e =>
      rw [hat] at hr
      cases hr
      exact schemasAt_ne_aborted _ _ _ _ hat
    | ok doc =>
      rw [hat] at hr
      cases hr

/-- Both calls of a module treat aborts alike, whatever the module does before it gives up. -/
theorem calls_obey_abortLaw (s : Sandbox) :
    (∀ (name : String) (t : Timestamp) (x : s.Entry name .wordToWord),
      AbortLaw s.module (x.machine [t.millis]) (x.logged ++ [invokingEvent name t])
        (s.invoking name t)) ∧
    (∀ x : s.Entry schemasExport .word,
      AbortLaw s.module (x.machine []) x.logged s.describing) := by
  constructor
  · intro name t x
    exact (x.reports_invoking t).abortLaw (Module.visible_of_instantiated x.instantiated)
  · intro x
    exact x.reports_describing.abortLaw (Module.visible_of_instantiated x.instantiated)

def rejecting : Sandbox where
  module := .holding [2, 4, 0, 0, 0, 110, 111, 112, 101] "deploy"
    [.abort (.const (Kit.pack 16 9))]
  valid := by decide
  limits := {}
  fuel := 8

def rejectingEntry : rejecting.Entry "deploy" .wordToWord where
  store := ⟨⟨rejecting.module.initialMemory.toOption.getD (.zeros 0 0), []⟩, true, []⟩
  logged := []
  func := ⟨["deploy"], .wordToWord, 0, [.abort (.const (Kit.pack 16 9))]⟩
  instantiated := (Module.stable_instantiate _).settles (n := 1) rfl
  memory := rfl
  exported := rfl

theorem rejecting_aborts :
    Settles (rejecting.invoking "deploy" ⟨5⟩) (.error (.aborted (.rejected "nope")))
      [invokingEvent "deploy" ⟨5⟩] := by
  have law := (calls_obey_abortLaw rejecting).1 "deploy" ⟨5⟩ rejectingEntry
  have hcall : Leads rejecting.module (rejectingEntry.machine [5])
      ⟨.value (Kit.pack 16 9), [.abort, .block []], [5], 0, rejectingEntry.store⟩ :=
    .head rfl (.head rfl (.refl _))
  exact @law.crosses _ ⟨16, 9⟩ (.rejected "nope") hcall ⟨rfl, _, rfl⟩ (by decide) rfl

end Sandbox
end DeployTrigger.Guest
