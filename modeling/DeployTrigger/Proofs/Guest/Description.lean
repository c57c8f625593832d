import DeployTrigger.Guest.Engine
import DeployTrigger.Kit.Export
import DeployTrigger.Proofs.Except
import DeployTrigger.Proofs.Guest.Events
import DeployTrigger.Proofs.Wire

/-!
What the call of the schemas function gives. A module without that export is left alone. Any other
gives a document exactly if there is an instance, the instance has the exports, its function returns a
word, and the range in that word is not too long, inside the memory as it is then, and holds a text
(`schemas_describe_exactly`). Of what fails, the first decides the error.
-/
namespace DeployTrigger.Guest.Sandbox
open Deploy Machine

/-- No export has the name of the schemas function, whatever its kind. -/
def Unpublished (s : Sandbox) : Prop := ∀ x ∈ s.module.exports, x.1 ≠ schemasExport

/-- Why a range is no document, the faults being looked for in this order. -/
inductive DocumentFault (limits : Limits) (memory : Memory) (start len : Nat) : String → Prop where
  | tooLong (h : limits.maxSchemasLen.toNat < len) :
      DocumentFault limits memory start len
        (decimal len ++ " bytes exceeds the limit of " ++ decimal limits.maxSchemasLen.toNat)
  | outside (hlen : len ≤ limits.maxSchemasLen.toNat) (h : memory.size < start + len) :
      DocumentFault limits memory start len
        ("range " ++ (decimal start ++ "+" ++ decimal len) ++ " is outside of module memory")
  | garbled (hlen : len ≤ limits.maxSchemasLen.toNat) (inside : start + len ≤ memory.size)
      (h : ∀ doc, memory.slice start len ≠ utf8 doc) {fault : Utf8.Fault}
      (hfault : Utf8.decode (memory.slice start len) = .error fault) :
      DocumentFault limits memory start len fault.message

/-- Everything that the call of the schemas function needs for a document, and the document. -/
def Documents (s : Sandbox) (doc : String) : Prop :=
  ∃ (store after : Store) (logged : List Log.Event) (i : Nat) (f : Func) (p : UInt64),
    Settles s.module.instantiate (.ok store) logged ∧
    s.module.export? "memory" = some .memory ∧
    (s.module.export? "schemas" = some (.func i) ∧ s.module.funcs[i]? = some f ∧
      f.type = ⟨[], [.i64]⟩) ∧
    Ends s.module (f.machine [] store) (.value p) after ∧
    p.toNat % UInt32.size ≤ s.limits.maxSchemasLen.toNat ∧
    p.toNat / UInt32.size + p.toNat % UInt32.size ≤ after.memory.size ∧
    after.memory.slice (p.toNat / UInt32.size) (p.toNat % UInt32.size) = utf8 doc

inductive FirstObstacle (s : Sandbox) : DeployError → Prop where
  | entry {e : DeployError} {events : List Log.Event} (hp : ¬ s.Unpublished)
      (h : EntryFailure s schemasExport .word e events) : FirstObstacle s e
  | trapped (x : s.Entry schemasExport .word) {trap : Trap} {after : Store}
      (h : Ends s.module (x.machine []) (.stopped (.trap trap)) after) :
      FirstObstacle s (.trapped trap.message)
  | aborted (x : s.Entry schemasExport .word) {reason : ModuleError} {after : Store}
      (h : Ends s.module (x.machine []) (.stopped (.abort reason)) after) :
      FirstObstacle s (.aborted reason)
  | document (x : s.Entry schemasExport .word) {p : UInt64} {after : Store} {detail : String}
      (h : Ends s.module (x.machine []) (.value p) after)
      (hfault : DocumentFault s.limits after.memory (p.toNat / UInt32.size)
        (p.toNat % UInt32.size) detail) :
      FirstObstacle s (.invalidSchemas detail)

section Range
variable {limits : Limits} {memory : Memory} {r : Location} {doc : String}

/-- The checks of a document, over numbers. -/
theorem schemasAt_eq (limits : Limits) (memory : Memory) (r : Location) :
    schemasAt limits memory r =
      if limits.maxSchemasLen.toNat < r.length.toNat then
        .error (.invalidSchemas (overLimit r limits.maxSchemasLen))
      else if r.start.toNat + r.length.toNat ≤ memory.size then
        (Utf8.decode (memory.slice r.start.toNat r.length.toNat)).mapError
          fun fault => .invalidSchemas fault.message
      else .error (.invalidSchemas (outside r)) := by
  have hlimit : limits.maxSchemasLen < r.length.toUInt64 ↔
      limits.maxSchemasLen.toNat < r.length.toNat := by
    rw [UInt64.lt_iff_toNat_lt, UInt32.toNat_toUInt64]
  simp only [schemasAt, hlimit, Memory.view?_eq_read?, Memory.read?]
  by_cases hin : r.start.toNat + r.length.toNat ≤ memory.size
  · rw [if_pos hin, if_pos hin]
    dsimp only
    cases Utf8.decode (memory.slice r.start.toNat r.length.toNat) <;> rfl
  · rw [if_neg hin, if_neg hin]

theorem schemasAt_eq_ok_iff :
    schemasAt limits memory r = .ok doc ↔
      r.length.toNat ≤ limits.maxSchemasLen.toNat ∧
        r.start.toNat + r.length.toNat ≤ memory.size ∧
        memory.slice r.start.toNat r.length.toNat = utf8 doc := by
  rw [schemasAt_eq, ← Utf8.decode_eq_ok_iff]
  constructor
  · intro h
    split at h
    · cases h
    split at h
    · cases hd : Utf8.decode (memory.slice r.start.toNat r.length.toNat) with
      | error fault =>
        rw [hd] at h
        cases h
      | ok doc' =>
        rw [hd] at h
        cases h
        exact ⟨by omega, by assumption, rfl⟩
    · cases h
  · rintro ⟨hlen, hin, hdoc⟩
    rw [if_neg (by omega), if_pos hin, hdoc]
    rfl

theorem schemasAt_eq_error_iff {e : DeployError} :
    schemasAt limits memory r = .error e ↔
      ∃ detail, e = .invalidSchemas detail ∧
        DocumentFault limits memory r.start.toNat r.length.toNat detail := by
  rw [schemasAt_eq]
  constructor
  · intro h
    split at h
    · cases h
      exact ⟨_, rfl, .tooLong (by assumption)⟩
    split at h
    · cases hd : Utf8.decode (memory.slice r.start.toNat r.length.toNat) with
      | ok doc =>
        rw [hd] at h
        cases h
      | error fault =>
        rw [hd] at h
        cases h
        refine ⟨_, rfl, .garbled (by omega) (by assumption) (fun doc hdoc => ?_) hd⟩
        rw [Utf8.decode_eq_ok_iff.mpr hdoc] at hd
        cases hd
    · cases h
      exact ⟨_, rfl, .outside (by omega) (by omega)⟩
  · rintro ⟨_, rfl, hfault⟩
    cases hfault with
    | tooLong h =>
      rw [if_pos h]
      rfl
    | outside hlen h =>
      rw [if_neg (by omega), if_neg (by omega)]
      rfl
    | garbled hlen inside _ hd =>
      rw [if_neg (by omega), if_pos inside, hd]
      rfl

end Range

/-- All ways of the call, with what is logged on each. -/
inductive Description (s : Sandbox) : Except DeployError (Option String) → List Log.Event → Prop
  | unpublished (h : s.Unpublished) : Description s (.ok none) []
  | refused (hp : ¬ s.Unpublished) {e : DeployError} {events : List Log.Event}
      (h : EntryFailure s schemasExport .word e events) : Description s (.error e) events
  | stopped (x : s.Entry schemasExport .word) {why : Stop} {after : Store}
      (h : Ends s.module (x.machine []) (.stopped why) after) :
      Description s (.error why.toDeployError) (x.logged ++ after.events)
  | returned (x : s.Entry schemasExport .word) {p : UInt64} {after : Store}
      (h : Ends s.module (x.machine []) (.value p) after) :
      Description s ((schemasAt s.limits after.memory (.unpack p)).map some)
        (x.logged ++ after.events)

variable {s : Sandbox} {r : Except DeployError (Option String)} {events : List Log.Event}

theorem publishes_iff : s.publishes ↔ ¬ s.Unpublished := by
  simp [publishes, Unpublished]

theorem settles_describing_of_description (h : Description s r events) :
    Settles s.describing r events := by
  cases h with
  | unpublished h =>
    rw [describing_of_not_publishes fun hp => publishes_iff.mp hp h]
    exact settles_const_iff.mpr rfl
  | refused hp h =>
    rw [describing_of_publishes (publishes_iff.mpr hp)]
    exact (settles_entering_of_failure h).bind_error _
  | stopped x h => exact x.settles_describing_of_stopped h
  | returned x h => exact x.settles_describing_of_value h

theorem Entry.exists_description (x : s.Entry schemasExport .word) {o : Outcome} {after : Store}
    (h : Ends s.module (x.machine []) o after) : ∃ r events, Description s r events := by
  cases o with
  | unfinished => exact h.not_unfinished.elim
  | stopped why => exact ⟨_, _, .stopped x h⟩
  | value p => exact ⟨_, _, .returned x h⟩

theorem exists_description_of_settles (h : Settles s.describing r events) :
    ∃ r events, Description s r events := by
  by_cases hp : s.Unpublished
  · exact ⟨_, _, .unpublished hp⟩
  · have hrest := h
    rw [describing_of_publishes (publishes_iff.mpr hp)] at hrest
    -- Either the way in fails, or it leads to the function, whose execution then ends as well.
    obtain ⟨e, he, rfl⟩ | ⟨y, _, _, hy, -⟩ := hrest.of_bind (s.stable_entering schemasExport .word)
    · obtain ⟨e', he', -⟩ | ⟨_, heq, _⟩ := entry_of_settles he
      · exact ⟨_, _, .refused hp he'⟩
      · cases heq
    · obtain ⟨_, _, heq⟩ | ⟨x, -, -⟩ := entry_of_settles hy
      · cases heq
      · obtain ⟨o, after, hends⟩ := x.ends_of_settles_describing h
        exact x.exists_description hends

/-- The call settles to what one of its ways ends with, and there is only one. -/
theorem settles_describing_iff : Settles s.describing r events ↔ Description s r events := by
  refine ⟨fun h => ?_, settles_describing_of_description⟩
  obtain ⟨r', events', hd⟩ := exists_description_of_settles h
  obtain ⟨rfl, rfl⟩ := h.unique (settles_describing_of_description hd)
  exact hd

theorem documents_iff {doc : String} : s.Documents doc ↔
    ∃ (x : s.Entry schemasExport .word) (p : UInt64) (after : Store),
      Ends s.module (x.machine []) (.value p) after ∧
        schemasAt s.limits after.memory (.unpack p) = .ok doc := by
  simp only [schemasAt_eq_ok_iff, Location.start_unpack, Location.length_unpack]
  constructor
  · rintro ⟨store, after, logged, i, f, p, hs, hm, hf, hv, hcheck⟩
    have hmemory := Module.exportsMemory_eq_ok_iff.mpr hm
    have hfunc := Module.exportedFunc_eq_ok_iff.mpr ⟨i, hf⟩
    exact ⟨⟨store, logged, f, hs, hmemory, hfunc⟩, p, after, hv, hcheck⟩
  · rintro ⟨x, p, after, hv, hcheck⟩
    obtain ⟨i, hf⟩ := Module.exportedFunc_eq_ok_iff.mp x.exported
    have hm := Module.exportsMemory_eq_ok_iff.mp x.memory
    exact ⟨x.store, after, x.logged, i, x.func, p, x.instantiated, hm, hf, hv, hcheck⟩

theorem description_none_iff : (∃ events, Description s (.ok none) events) ↔ s.Unpublished := by
  constructor
  · rintro ⟨events, h⟩
    generalize hr : Except.ok none = r at h
    cases h with
    | unpublished h => exact h
    | refused | stopped => cases hr
    | returned x h =>
      obtain ⟨doc, -, hnone⟩ := map_eq_ok_iff.mp hr.symm
      cases hnone
  · exact fun h => ⟨[], .unpublished h⟩

theorem description_some_iff {doc : String} :
    (∃ events, Description s (.ok (some doc)) events) ↔ s.Documents doc := by
  rw [documents_iff]
  constructor
  · rintro ⟨events, h⟩
    generalize hr : Except.ok (some doc) = r at h
    cases h with
    | unpublished | refused | stopped => cases hr
    | returned x h =>
      obtain ⟨doc', hat, hdoc⟩ := map_eq_ok_iff.mp hr.symm
      cases hdoc
      exact ⟨x, _, _, h, hat⟩
  · rintro ⟨x, p, after, h, hat⟩
    have hd := Description.returned x h
    rw [hat] at hd
    exact ⟨_, hd⟩

theorem description_error_iff {e : DeployError} :
    (∃ events, Description s (.error e) events) ↔ FirstObstacle s e := by
  constructor
  · rintro ⟨events, h⟩
    generalize hr : Except.error e = r at h
    cases h with
    | unpublished => cases hr
    | refused hp h =>
      cases hr
      exact .entry hp h
    | @stopped x why after h =>
      cases hr
      cases why with
      | trap trap => exact .trapped x h
      | abort reason => exact .aborted x h
    | returned x h =>
      obtain ⟨detail, rfl, hfault⟩ := schemasAt_eq_error_iff.mp (map_eq_error_iff.mp hr.symm)
      rw [Location.start_unpack, Location.length_unpack] at hfault
      exact .document x h hfault
  · intro h
    cases h with
    | entry hp h => exact ⟨_, .refused hp h⟩
    | trapped x h => exact ⟨_, .stopped x h⟩
    | aborted x h => exact ⟨_, .stopped x h⟩
    | @document x p after detail h hfault =>
      rw [← Location.start_unpack, ← Location.length_unpack] at hfault
      have hd := Description.returned x h
      rw [schemasAt_eq_error_iff.mpr ⟨detail, rfl, hfault⟩] at hd
      exact ⟨_, hd⟩

/-- The call comes to an end iff it is not made, or the start function and the schemas function do. -/
theorem settles_describing_ends_iff : (∃ r events, Settles s.describing r events) ↔
    s.Unpublished ∨ (∃ r logged, Settles s.module.instantiate r logged) ∧
      ∀ x : s.Entry schemasExport .word, ∃ o after, Ends s.module (x.machine []) o after := by
  constructor
  · rintro ⟨r, events, h⟩
    by_cases hp : s.Unpublished
    · exact .inl hp
    · refine .inr ⟨?_, fun x => x.ends_of_settles_describing h⟩
      cases settles_describing_iff.mp h with
      | unpublished hnone => exact absurd hnone hp
      | refused _ hfailure =>
        obtain ⟨r, hr⟩ := hfailure.settles_instantiate
        exact ⟨r, _, hr⟩
      | stopped x _ => exact ⟨_, _, x.instantiated⟩
      | returned x _ => exact ⟨_, _, x.instantiated⟩
  · intro h
    by_cases hp : s.Unpublished
    · exact ⟨_, _, settles_describing_of_description (.unpublished hp)⟩
    · obtain ⟨⟨r, logged, hr⟩, hall⟩ := h.resolve_left hp
      have hdone : ∃ r events, Description s r events := by
        obtain ⟨e, he⟩ | ⟨⟨x⟩⟩ := entryFailure_or_entry schemasExport .word hr
        · exact ⟨_, _, .refused hp he⟩
        · obtain ⟨o, after, hends⟩ := hall x
          exact x.exists_description hends
      obtain ⟨r, events, hd⟩ := hdone
      exact ⟨r, events, settles_describing_of_description hd⟩

/-- What a call of the schemas function gives and what it does not, for a module and its limits. -/
structure DescriptionLaw (s : Sandbox) : Prop where
  none_iff : (∃ events, Settles s.describing (.ok none) events) ↔ s.Unpublished
  some_iff (doc : String) :
    (∃ events, Settles s.describing (.ok (some doc)) events) ↔ s.Documents doc
  error_iff (e : DeployError) :
    (∃ events, Settles s.describing (.error e) events) ↔ FirstObstacle s e
  /-- Without the export nothing is logged, and the engine gets no instance of the module. -/
  untouched (h : s.Unpublished) :
    (∀ n, (s.describing n).outcome = ⟨.ok none, []⟩) ∧
      ∀ engine, s.schemasOn.outcome engine = ⟨(.ok none, engine), []⟩
  /-- What the call ends with under the sandbox's own bound is what it settles to. -/
  attained (r : Except DeployError (Option String)) (events : List Log.Event)
    (h : s.schemas.outcome = ⟨r.mapError .error, events⟩) : Settles s.describing r events
  /-- The call settles to nothing only if the guest does not come to an end. -/
  settles_iff : (∃ r events, Settles s.describing r events) ↔ s.Unpublished ∨
    (∃ r logged, Settles s.module.instantiate r logged) ∧
      ∀ x : s.Entry schemasExport .word, ∃ o after, Ends s.module (x.machine []) o after
  no_address (detail : String) (events : List Log.Event) :
    ¬ Settles s.describing (.error (.invalidAddress detail)) events
  addressless (bound : UInt64) :
    ({ s with limits := { s.limits with maxAddressLen := bound } } : Sandbox).describing =
      s.describing

/-- The call of the schemas function gives exactly the document of the module, or nothing if there is
none to ask for, and otherwise the error of the first obstacle. -/
theorem schemas_describe_exactly (s : Sandbox) : DescriptionLaw s where
  none_iff := by
    simp only [settles_describing_iff]
    exact description_none_iff
  some_iff doc := by
    simp only [settles_describing_iff]
    exact description_some_iff
  error_iff e := by
    simp only [settles_describing_iff]
    exact description_error_iff
  untouched h := by
    have hall : s.module.exports.all (·.1 ≠ schemasExport) = true := by
      simpa [Unpublished] using h
    refine ⟨fun n => ?_, fun engine => ?_⟩
    · rw [describing_of_not_publishes fun hp => publishes_iff.mp hp h]
      rfl
    · rw [schemasOn, if_pos hall]
      rfl
  attained r events h := by
    have hrun : (s.describing s.fuel).outcome = ⟨r.mapError .error, events⟩ := h
    exact s.describing_stable.settles hrun
  settles_iff := settles_describing_ends_iff
  no_address detail events h := by
    have hobstacle := description_error_iff.mp ⟨events, settles_describing_iff.mp h⟩
    generalize he : DeployError.invalidAddress detail = e at hobstacle
    cases hobstacle with
    | entry _ h => cases h <;> cases he
    | trapped | aborted | document => cases he
  addressless bound := rfl

/-- A function that writes a document to the last byte of a page, and returns where it is. -/
def documenting : Func where
  exports := [schemasExport]
  type := .word
  locals := 0
  body := [.store8 (.const 65535) (.const 120), .result (.const (Kit.pack 65535 1))]

def documented : Sandbox where
  module := {
    name := none
    memory := some ⟨1, none, some memoryExport⟩
    globals := []
    data := []
    imports := []
    funcs := [documenting]
    start := none }
  valid := by decide
  limits := ⟨0, 1⟩
  fuel := 16

def documentedAfter : Store := ⟨⟨(Memory.zeros 1 65536).put 65535 120, []⟩, true, []⟩

theorem documents_documented : documented.Documents "x" := by
  let before : Store := ⟨⟨.zeros 1 65536, []⟩, true, []⟩
  have hinst : Settles documented.module.instantiate (.ok before) [] :=
    (Module.stable_instantiate _).settles (n := 1) rfl
  have hrun : Machine.run documented.module 16 (documenting.machine [] before) =
      (.value (Kit.pack 65535 1), documentedAfter) := by cbv
  exact ⟨_, documentedAfter, [], 0, documenting, Kit.pack 65535 1, hinst, rfl, ⟨rfl, rfl, rfl⟩,
    ends_of_run hrun (by simp), by decide, by decide, by decide⟩

/-- Its limit and its memory are just large enough for the document. -/
theorem documented_describes : ∃ events, Settles documented.describing (.ok (some "x")) events :=
  ((schemas_describe_exactly documented).some_iff "x").mpr documents_documented

end DeployTrigger.Guest.Sandbox
