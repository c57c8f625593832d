import DeployTrigger.Kit.Export
import DeployTrigger.Proofs.Guest.Calls

/-!
What the call of an entrypoint accepts. It gives an address exactly if there is an instance, the
instance has the exports, its function returns a word, and the range in that word is not empty, not
too long and inside the memory as it is then. Of what fails, the first decides the error.
-/
namespace DeployTrigger.Guest.Sandbox
open Deploy Machine

/-- Why a range is no address, the faults being looked for in this order. -/
inductive RangeFault (limits : Limits) (memory : Memory) (ptr len : Nat) : String → Prop where
  | empty (h : len = 0) : RangeFault limits memory ptr len "empty value"
  | tooLong (hpos : 0 < len) (h : limits.maxAddressLen.toNat < len) :
      RangeFault limits memory ptr len
        (decimal len ++ " bytes exceeds the limit of " ++ decimal limits.maxAddressLen.toNat)
  | outside (hpos : 0 < len) (hlen : len ≤ limits.maxAddressLen.toNat)
      (h : memory.size < ptr + len) :
      RangeFault limits memory ptr len
        ("range " ++ (decimal ptr ++ "+" ++ decimal len) ++ " is outside of module memory")

/-- The first thing that keeps the call of an entrypoint from an address. -/
inductive FirstFailure (s : Sandbox) (name : String) (t : Timestamp) : DeployError → Prop where
  | entry {e : DeployError} {events : List Log.Event}
      (h : EntryFailure s name .wordToWord e events) : FirstFailure s name t e
  | trapped (x : s.Entry name .wordToWord) {trap : Trap} {after : Store}
      (h : Ends s.module (x.machine [t.millis]) (.stopped (.trap trap)) after) :
      FirstFailure s name t (.trapped trap.message)
  | aborted (x : s.Entry name .wordToWord) {reason : ModuleError} {after : Store}
      (h : Ends s.module (x.machine [t.millis]) (.stopped (.abort reason)) after) :
      FirstFailure s name t (.aborted reason)
  | range (x : s.Entry name .wordToWord) {p : UInt64} {after : Store} {detail : String}
      (h : Ends s.module (x.machine [t.millis]) (.value p) after)
      (hfault : RangeFault s.limits after.memory (p.toNat / UInt32.size)
        (p.toNat % UInt32.size) detail) :
      FirstFailure s name t (.invalidAddress detail)

/-- Everything that the call of an entrypoint needs for an address, and the bytes of the address. -/
def Gives (s : Sandbox) (name : String) (t : Timestamp) (a : Address) : Prop :=
  ∃ (store after : Store) (logged : List Log.Event) (i : Nat) (f : Func) (p : UInt64),
    Settles s.module.instantiate (.ok store) logged ∧
    s.module.export? "memory" = some .memory ∧
    (s.module.export? name = some (.func i) ∧ s.module.funcs[i]? = some f ∧
      f.type = ⟨[.i64], [.i64]⟩) ∧
    Ends s.module (f.machine [t.millis] store) (.value p) after ∧
    (0 < p.toNat % UInt32.size ∧ p.toNat % UInt32.size ≤ s.limits.maxAddressLen.toNat) ∧
    p.toNat / UInt32.size + p.toNat % UInt32.size ≤ after.memory.size ∧
    a.bytes = after.memory.slice (p.toNat / UInt32.size) (p.toNat % UInt32.size)

variable {s : Sandbox} {name : String} {t : Timestamp}

section Range
variable {limits : Limits} {memory : Memory} {r : Location}

/-- The checks of a range, over numbers. -/
theorem addressAt_eq (limits : Limits) (memory : Memory) (r : Location) :
    addressAt limits memory r =
      if r.length.toNat = 0 then .error (.invalidAddress "empty value")
      else if limits.maxAddressLen.toNat < r.length.toNat then
        .error (.invalidAddress (overLimit r limits.maxAddressLen))
      else if r.start.toNat + r.length.toNat ≤ memory.size then
        .ok ⟨memory.slice r.start.toNat r.length.toNat⟩
      else .error (.invalidAddress (outside r)) := by
  have hzero : r.length = 0 ↔ r.length.toNat = 0 := UInt32.toNat_inj.symm
  have hlimit : limits.maxAddressLen < r.length.toUInt64 ↔
      limits.maxAddressLen.toNat < r.length.toNat := by
    rw [UInt64.lt_iff_toNat_lt, UInt32.toNat_toUInt64]
  simp only [addressAt, hzero, hlimit, Memory.view?_eq_read?, Memory.read?]
  by_cases hin : r.start.toNat + r.length.toNat ≤ memory.size
  · rw [if_pos hin, if_pos hin]
  · rw [if_neg hin, if_neg hin]

theorem addressAt_eq_ok_iff {a : Address} :
    addressAt limits memory r = .ok a ↔
      (0 < r.length.toNat ∧ r.length.toNat ≤ limits.maxAddressLen.toNat) ∧
        r.start.toNat + r.length.toNat ≤ memory.size ∧
        a.bytes = memory.slice r.start.toNat r.length.toNat := by
  rw [addressAt_eq]
  constructor
  · intro h
    split at h
    · cases h
    split at h
    · cases h
    split at h
    · cases h
      exact ⟨by omega, by assumption, rfl⟩
    · cases h
  · rintro ⟨⟨hpos, hlen⟩, hin, hbytes⟩
    rw [if_neg (by omega), if_neg (by omega), if_pos hin, ← hbytes]

theorem addressAt_eq_error_iff {e : DeployError} :
    addressAt limits memory r = .error e ↔
      ∃ detail, e = .invalidAddress detail ∧
        RangeFault limits memory r.start.toNat r.length.toNat detail := by
  rw [addressAt_eq]
  constructor
  · intro h
    split at h
    · cases h
      exact ⟨_, rfl, .empty (by assumption)⟩
    split at h
    · cases h
      exact ⟨_, rfl, .tooLong (by omega) (by assumption)⟩
    split at h
    · cases h
    · cases h
      exact ⟨_, rfl, .outside (by omega) (by omega) (by omega)⟩
  · rintro ⟨_, rfl, hfault⟩
    cases hfault with
    | empty h => rw [if_pos h]
    | tooLong hpos h =>
      rw [if_neg (by omega), if_pos h]
      rfl
    | outside hpos hlen h =>
      rw [if_neg (by omega), if_neg (by omega), if_neg (by omega)]
      rfl

end Range

/-- An address is given at the end of a run that returns where it is. -/
theorem gives_iff {a : Address} :
    s.Gives name t a ↔
      ∃ (x : s.Entry name .wordToWord) (p : UInt64) (after : Store),
        Ends s.module (x.machine [t.millis]) (.value p) after ∧
          addressAt s.limits after.memory (.unpack p) = .ok a := by
  simp only [addressAt_eq_ok_iff, Location.start_unpack, Location.length_unpack]
  constructor
  · rintro ⟨store, after, logged, i, f, p, hs, hm, hf, hv, hcheck⟩
    have hmemory := Module.exportsMemory_eq_ok_iff.mpr hm
    have hfunc := Module.exportedFunc_eq_ok_iff.mpr ⟨i, hf⟩
    exact ⟨⟨store, logged, f, hs, hmemory, hfunc⟩, p, after, hv, hcheck⟩
  · rintro ⟨x, p, after, hv, hcheck⟩
    obtain ⟨i, hf⟩ := Module.exportedFunc_eq_ok_iff.mp x.exported
    have hm := Module.exportsMemory_eq_ok_iff.mp x.memory
    exact ⟨x.store, after, x.logged, i, x.func, p, x.instantiated, hm, hf, hv, hcheck⟩

theorem settles_invoking_of_gives {a : Address} (h : s.Gives name t a) :
    ∃ events, Settles (s.invoking name t) (.ok a) events := by
  obtain ⟨x, p, after, hv, hcheck⟩ := gives_iff.mp h
  have hsettles := x.settles_invoking_of_value hv
  rw [hcheck] at hsettles
  exact ⟨_, hsettles⟩

theorem settles_invoking_of_firstFailure {e : DeployError} (h : FirstFailure s name t e) :
    ∃ events, Settles (s.invoking name t) (.error e) events := by
  cases h with
  | entry h => exact ⟨_, settles_invoking_of_failure h⟩
  | trapped x h => exact ⟨_, x.settles_invoking_of_stopped h⟩
  | aborted x h => exact ⟨_, x.settles_invoking_of_stopped h⟩
  | @range x p after detail h hfault =>
    rw [← Location.start_unpack, ← Location.length_unpack] at hfault
    have hsettles := x.settles_invoking_of_value h
    rw [addressAt_eq_error_iff.mpr ⟨detail, rfl, hfault⟩] at hsettles
    exact ⟨_, hsettles⟩

/-- An execution that ends makes the call give an address or a first failure. -/
theorem Entry.gives_or_firstFailure (x : s.Entry name .wordToWord) {o : Outcome} {after : Store}
    (h : Ends s.module (x.machine [t.millis]) o after) :
    (∃ a, s.Gives name t a) ∨ ∃ e, FirstFailure s name t e := by
  cases o with
  | unfinished => exact h.not_unfinished.elim
  | stopped why =>
    cases why with
    | trap trap => exact .inr ⟨_, .trapped x h⟩
    | abort reason => exact .inr ⟨_, .aborted x h⟩
  | value p =>
    cases hcheck : addressAt s.limits after.memory (.unpack p) with
    | error e =>
      obtain ⟨detail, _, hfault⟩ := addressAt_eq_error_iff.mp hcheck
      rw [Location.start_unpack, Location.length_unpack] at hfault
      exact .inr ⟨_, .range x h hfault⟩
    | ok a => exact .inl ⟨a, gives_iff.mpr ⟨x, p, after, h, hcheck⟩⟩

theorem gives_or_firstFailure_of_settles {r : Except DeployError Address}
    {events : List Log.Event} (h : Settles (s.invoking name t) r events) :
    (∃ a, s.Gives name t a) ∨ ∃ e, FirstFailure s name t e := by
  obtain ⟨e, he, _⟩ | ⟨x, o, after, hends⟩ := entry_of_settles_invoking h
  · exact .inr ⟨e, .entry he⟩
  · exact x.gives_or_firstFailure hends

theorem gives_of_settles {a : Address} {events : List Log.Event}
    (h : Settles (s.invoking name t) (.ok a) events) : s.Gives name t a := by
  obtain ⟨a', ha⟩ | ⟨e, he⟩ := gives_or_firstFailure_of_settles h
  · obtain ⟨_, h'⟩ := settles_invoking_of_gives ha
    cases (h.unique h').1
    exact ha
  · obtain ⟨_, h'⟩ := settles_invoking_of_firstFailure he
    cases (h.unique h').1

theorem firstFailure_of_settles {e : DeployError} {events : List Log.Event}
    (h : Settles (s.invoking name t) (.error e) events) : FirstFailure s name t e := by
  obtain ⟨a, ha⟩ | ⟨e', he⟩ := gives_or_firstFailure_of_settles h
  · obtain ⟨_, h'⟩ := settles_invoking_of_gives ha
    cases (h.unique h').1
  · obtain ⟨_, h'⟩ := settles_invoking_of_firstFailure he
    cases (h.unique h').1
    exact he

/-- The call comes to an end iff the start function and the entrypoint do. -/
theorem settles_invoking_iff :
    (∃ r events, Settles (s.invoking name t) r events) ↔
      (∃ r logged, Settles s.module.instantiate r logged) ∧
        ∀ x : s.Entry name .wordToWord, ∃ o after, Ends s.module (x.machine [t.millis]) o after := by
  constructor
  · rintro ⟨r, events, h⟩
    refine ⟨?_, fun x => x.ends_of_settles_invoking h⟩
    obtain ⟨e, he, _⟩ | ⟨x, _⟩ := entry_of_settles_invoking h
    · obtain ⟨r, hr⟩ := he.settles_instantiate
      exact ⟨r, _, hr⟩
    · exact ⟨_, _, x.instantiated⟩
  · rintro ⟨⟨r, logged, hr⟩, hall⟩
    have hdone : (∃ a, s.Gives name t a) ∨ ∃ e, FirstFailure s name t e := by
      obtain ⟨e, he⟩ | ⟨⟨x⟩⟩ := entryFailure_or_entry name .wordToWord hr
      · exact .inr ⟨e, .entry he⟩
      · obtain ⟨o, after, hends⟩ := hall x
        exact x.gives_or_firstFailure hends
    obtain ⟨a, ha⟩ | ⟨e, he⟩ := hdone
    · obtain ⟨events, h⟩ := settles_invoking_of_gives ha
      exact ⟨_, events, h⟩
    · obtain ⟨events, h⟩ := settles_invoking_of_firstFailure he
      exact ⟨_, events, h⟩

/-- The call of an entrypoint gives exactly the addresses that are valid, and otherwise the error of
the first failure. What it ends with under the sandbox's own bound is what it settles to, and it
settles to nothing only if the guest does not come to an end. -/
theorem invoke_accepts_exactly (s : Sandbox) (name : String) (t : Timestamp) :
    (∀ a, (∃ events, Settles (s.invoking name t) (.ok a) events) ↔ s.Gives name t a) ∧
    (∀ e, (∃ events, Settles (s.invoking name t) (.error e) events) ↔ FirstFailure s name t e) ∧
    (∀ r events, (s.invoke name t).outcome = ⟨r.mapError .error, events⟩ →
      Settles (s.invoking name t) r events) ∧
    ((∃ r events, Settles (s.invoking name t) r events) ↔
      (∃ r logged, Settles s.module.instantiate r logged) ∧
        ∀ x : s.Entry name .wordToWord,
          ∃ o after, Ends s.module (x.machine [t.millis]) o after) := by
  refine ⟨fun a => ?_, fun e => ?_, fun r events h => ?_, settles_invoking_iff⟩
  · exact ⟨fun ⟨_, h⟩ => gives_of_settles h, settles_invoking_of_gives⟩
  · exact ⟨fun ⟨_, h⟩ => firstFailure_of_settles h, settles_invoking_of_firstFailure⟩
  · have hrun : (s.invoking name t s.fuel).outcome = ⟨r.mapError .error, events⟩ := h
    exact (s.stable_invoking name t).settles hrun

def answering : Sandbox where
  module := .holding [104, 105] "deploy" [.result (.const (Kit.pack 16 2))]
  valid := by decide
  limits := {}
  fuel := 8

theorem answering_gives : answering.Gives "deploy" ⟨5⟩ ⟨[104, 105]⟩ := by
  obtain ⟨hgives, _, hrun, _⟩ := invoke_accepts_exactly answering "deploy" ⟨5⟩
  exact (hgives _).mp ⟨_, hrun (.ok ⟨[104, 105]⟩) _ rfl⟩

end DeployTrigger.Guest.Sandbox
