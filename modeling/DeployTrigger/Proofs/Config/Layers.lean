import DeployTrigger.Proofs.Config.Members
import DeployTrigger.Proofs.Duration.Units
import DeployTrigger.Proofs.Except
import DeployTrigger.Proofs.Json.Grammar
import DeployTrigger.Proofs.PathExpansion
import DeployTrigger.Proofs.Program.Preparation

/-!
Where each setting comes from. A file gives a setting the value of its own member (`Layered`), whatever
stands before, behind and between; the command line comes on top of that, two settings at most
(`settings_layered`).
-/
namespace DeployTrigger
open Json

namespace Config

/-- Any text names an entrypoint. -/
inductive Names : Value → String → Prop where
  | text (s : String) : Names (.text s) s

/-- A time to wait is a sum of numbers with units, or null. -/
inductive Waits : Value → Option Duration → Prop where
  | null : Waits .null none
  | text {s : String} {d : Duration} (h : Duration.ofUnits s = .ok d) : Waits (.text s) (some d)

/-- A limit is a whole number of 64 bits. -/
inductive Bounds : Value → UInt64 → Prop where
  | whole (n : UInt64) : Bounds (.number (.natural n)) n

/-- A setting is what its own member stands for, or else its default. -/
def Setting {α : Type} (Stands : Value → α → Prop) (ms : List (String × Value)) (key : String)
    (default a : α) : Prop :=
  (∃ v, (key, v) ∈ ms ∧ Stands v a) ∨ (key ∉ ms.map Prod.fst ∧ a = default)

structure Layered (ms : List (String × Value)) (c : Config) : Prop where
  entrypoint : Setting Names ms "entrypoint" ({} : Config).entrypoint c.entrypoint
  timeout : Setting Waits ms "timeout" ({} : Config).timeout c.timeout
  maxAddressLen : Setting Bounds ms "maxAddressLen" ({} : Limits).maxAddressLen c.limits.maxAddressLen
  maxSchemasLen : Setting Bounds ms "maxSchemasLen" ({} : Limits).maxSchemasLen c.limits.maxSchemasLen

/-- The members with the names of settings all stand for something. -/
structure Decodes (ms : List (String × Value)) : Prop where
  entrypoint : ∀ v, ("entrypoint", v) ∈ ms → ∃ s, Names v s
  timeout : ∀ v, ("timeout", v) ∈ ms → ∃ d, Waits v d
  maxAddressLen : ∀ v, ("maxAddressLen", v) ∈ ms → ∃ n, Bounds v n
  maxSchemasLen : ∀ v, ("maxSchemasLen", v) ∈ ms → ∃ n, Bounds v n

def keys : List String := ["entrypoint", "timeout", "maxAddressLen", "maxSchemasLen"]

/-- Two objects differ at most in the order of members and in members of other names. -/
def Agree (ms ms' : List (String × Value)) : Prop :=
  (ms.filter (·.1 ∈ keys)).Perm (ms'.filter (·.1 ∈ keys))

theorem entrypointOf_eq_ok_iff {v : Value} {s : String} : entrypointOf v = .ok s ↔ Names v s := by
  constructor
  · intro h
    cases v with
    | text t =>
      cases h
      exact .text _
    | null | bool _ | number _ | array _ | object _ => cases h
  · intro h
    cases h
    rfl

theorem timeoutOf_eq_ok_iff {v : Value} {t : Option Duration} : timeoutOf v = .ok t ↔ Waits v t := by
  constructor
  · intro h
    cases v with
    | null =>
      cases h
      exact .null
    | text s =>
      rw [timeoutOf] at h
      cases hs : Duration.ofUnits s with
      | ok d =>
        rw [hs] at h
        cases h
        exact .text hs
      | error e =>
        rw [hs] at h
        cases h
    | bool _ | number _ | array _ | object _ => cases h
  · intro h
    cases h with
    | null => rfl
    | text hs =>
      rw [timeoutOf, hs]
      rfl

theorem limitOf_eq_ok_iff {v : Value} {n : UInt64} : limitOf v = .ok n ↔ Bounds v n := by
  constructor
  · intro h
    unfold limitOf at h
    split at h
    · cases h
      exact .whole _
    · cases h
    · cases h
  · intro h
    cases h
    rfl

namespace Setting
variable {α : Type} {Stands : Value → α → Prop} {ms ms' : List (String × Value)} {key key' : String}
  {v : Value} {default a n : α}

theorem of_not_mem (h : key ∉ ms.map Prod.fst) : Setting Stands ms key default a ↔ a = default := by
  constructor
  · intro hs
    obtain ⟨v, hmem, _⟩ | ⟨_, ha⟩ := hs
    · exact absurd (List.mem_map_of_mem hmem) h
    · exact ha
  · intro ha
    exact .inr ⟨h, ha⟩

theorem cons_ne (h : key' ≠ key) :
    Setting Stands ((key', v) :: ms) key default a ↔ Setting Stands ms key default a := by
  simp [Setting, Ne.symm h]

theorem cons_self (h : key ∉ ms.map Prod.fst) :
    Setting Stands ((key, v) :: ms) key default a ↔ Stands v a := by
  have hmem (u : Value) : (key, u) ∉ ms := fun hu => h (List.mem_map_of_mem hu)
  simp [Setting, hmem]

/-- Behind its member, a setting is what the member stands for. -/
theorem cons_stands (h : key ∉ ms.map Prod.fst) (hv : ∀ a, Stands v a ↔ a = n) :
    Setting Stands ((key, v) :: ms) key default a ↔ Setting Stands ms key n a := by
  rw [cons_self h, of_not_mem h, hv]

theorem congr (h : ∀ v, (key, v) ∈ ms ↔ (key, v) ∈ ms') :
    Setting Stands ms key default a ↔ Setting Stands ms' key default a := by
  have hkey : key ∈ ms.map Prod.fst ↔ key ∈ ms'.map Prod.fst := by simp [h]
  simp only [Setting, h, hkey]

theorem exists_iff (hkeys : (ms.map Prod.fst).Nodup) :
    (∃ a, Setting Stands ms key default a) ↔ ∀ v, (key, v) ∈ ms → ∃ a, Stands v a := by
  induction ms with
  | nil => simp [Setting]
  | cons member ms ih =>
    obtain ⟨key', v⟩ := member
    obtain ⟨hnew, hrest⟩ : key' ∉ ms.map Prod.fst ∧ (ms.map Prod.fst).Nodup :=
      List.nodup_cons.mp hkeys
    by_cases h : key' = key
    · subst h
      have hmem (u : Value) : (key', u) ∉ ms := fun hu => hnew (List.mem_map_of_mem hu)
      simp [cons_self hnew, hmem]
    · simp [cons_ne h, ih hrest, Ne.symm h]

end Setting

variable {ms ms' : List (String × Value)} {c : Config}

theorem Agree.mem_iff {key : String} {v : Value} (h : Agree ms ms') (hkey : key ∈ keys) :
    (key, v) ∈ ms ↔ (key, v) ∈ ms' := by
  have hmem : (key, v) ∈ ms.filter (·.1 ∈ keys) ↔ (key, v) ∈ ms'.filter (·.1 ∈ keys) :=
    List.Perm.mem_iff h
  simpa [hkey] using hmem

theorem Layered.congr (h : Agree ms ms') (hc : Layered ms c) : Layered ms' c where
  entrypoint := (Setting.congr fun _ => h.mem_iff (by simp [keys])).mp hc.entrypoint
  timeout := (Setting.congr fun _ => h.mem_iff (by simp [keys])).mp hc.timeout
  maxAddressLen := (Setting.congr fun _ => h.mem_iff (by simp [keys])).mp hc.maxAddressLen
  maxSchemasLen := (Setting.congr fun _ => h.mem_iff (by simp [keys])).mp hc.maxSchemasLen

theorem layered_congr (h : Agree ms ms') : Layered ms c ↔ Layered ms' c :=
  ⟨fun hc => hc.congr h, fun hc => hc.congr (List.Perm.symm h)⟩

theorem exists_layered_iff (hkeys : (ms.map Prod.fst).Nodup) :
    (∃ c, Layered ms c) ↔ Decodes ms := by
  constructor
  · intro h
    obtain ⟨c, hc⟩ := h
    exact ⟨(Setting.exists_iff hkeys).mp ⟨_, hc.entrypoint⟩,
      (Setting.exists_iff hkeys).mp ⟨_, hc.timeout⟩,
      (Setting.exists_iff hkeys).mp ⟨_, hc.maxAddressLen⟩,
      (Setting.exists_iff hkeys).mp ⟨_, hc.maxSchemasLen⟩⟩
  · intro h
    obtain ⟨entrypoint, hentrypoint⟩ := (Setting.exists_iff hkeys).mpr h.entrypoint
    obtain ⟨timeout, htimeout⟩ := (Setting.exists_iff hkeys).mpr h.timeout
    obtain ⟨address, haddress⟩ := (Setting.exists_iff hkeys).mpr h.maxAddressLen
    obtain ⟨schemas, hschemas⟩ := (Setting.exists_iff hkeys).mpr h.maxSchemasLen
    exact ⟨⟨entrypoint, timeout, ⟨address, schemas⟩⟩, hentrypoint, htimeout, haddress, hschemas⟩

/-- By induction on the members: a limit that was read is the default for the rest. -/
theorem limitsFrom_eq_ok_iff {address schemas : Option UInt64} {l : Limits}
    (hkeys : (ms.map Prod.fst).Nodup)
    (haddress : "maxAddressLen" ∈ ms.map Prod.fst → address = none)
    (hschemas : "maxSchemasLen" ∈ ms.map Prod.fst → schemas = none) :
    limitsFrom address schemas ms = .ok l ↔
      Setting Bounds ms "maxAddressLen" (address.getD 1024) l.maxAddressLen ∧
        Setting Bounds ms "maxSchemasLen" (schemas.getD 1048576) l.maxSchemasLen := by
  induction ms generalizing address schemas with
  | nil =>
    obtain ⟨a, b⟩ := l
    simp [limitsFrom, Setting, eq_comm]
  | cons member ms ih =>
    obtain ⟨key, v⟩ := member
    obtain ⟨hnew, hrest⟩ : key ∉ ms.map Prod.fst ∧ (ms.map Prod.fst).Nodup :=
      List.nodup_cons.mp hkeys
    have haddress' (h : "maxAddressLen" ∈ ms.map Prod.fst) : address = none :=
      haddress (List.mem_cons_of_mem _ h)
    have hschemas' (h : "maxSchemasLen" ∈ ms.map Prod.fst) : schemas = none :=
      hschemas (List.mem_cons_of_mem _ h)
    have hbounds {n : UInt64} (hn : limitOf v = .ok n) (a : UInt64) : Bounds v a ↔ a = n := by
      rw [← limitOf_eq_ok_iff, hn, Except.ok.injEq, eq_comm]
    have hnone {flaw : Flaw} (hflaw : limitOf v = .error flaw) (a : UInt64) : ¬ Bounds v a := by
      rw [← limitOf_eq_ok_iff, hflaw]
      intro h
      cases h
    rw [limitsFrom]
    split
    · rename_i hkey
      subst hkey
      rw [haddress List.mem_cons_self, if_neg (by simp)]
      cases hv : limitOf v with
      | ok n =>
        rw [Setting.cons_stands hnew (hbounds hv), Setting.cons_ne (by decide)]
        exact ih hrest (fun h => absurd h hnew) hschemas'
      | error flaw =>
        rw [Setting.cons_self hnew]
        simp [hnone hv]
    split
    · rename_i hkey
      subst hkey
      rw [hschemas List.mem_cons_self, if_neg (by simp)]
      cases hv : limitOf v with
      | ok n =>
        rw [Setting.cons_stands hnew (hbounds hv), Setting.cons_ne (by decide)]
        exact ih hrest haddress' (fun h => absurd h hnew)
      | error flaw =>
        rw [Setting.cons_self hnew]
        simp [hnone hv]
    · rename_i hne hne'
      rw [Setting.cons_ne hne, Setting.cons_ne hne']
      exact ih hrest haddress' hschemas'

/-- Members that are no limits can be left out. -/
theorem limitsFrom_append_cons {address schemas : Option UInt64} {key : String} {v : Value}
    (h : key ≠ "maxAddressLen") (h' : key ≠ "maxSchemasLen") (before : List (String × Value)) :
    limitsFrom address schemas (before ++ (key, v) :: ms) =
      limitsFrom address schemas (before ++ ms) := by
  induction before generalizing address schemas with
  | nil => rw [List.nil_append, limitsFrom, if_neg h, if_neg h', List.nil_append]
  | cons member before ih => simp only [List.cons_append, limitsFrom, ih]

/-- No key comes twice, those that were read before included. -/
structure Fresh (m : Members) (ms : List (String × Value)) : Prop where
  keys : (ms.map Prod.fst).Nodup
  entrypoint : "entrypoint" ∈ ms.map Prod.fst → m.entrypoint = none
  timeout : "timeout" ∈ ms.map Prod.fst → m.timeout = none

/-- By induction on the members: each is taken by its own setting, or kept for the limits. -/
theorem foldlM_take_eq_ok_iff {m : Members} (h : Fresh m ms) :
    (ms.foldlM Members.take m >>= Members.settle) = .ok c ↔
      Setting Names ms "entrypoint" (m.entrypoint.getD "deploy_contract") c.entrypoint ∧
        Setting Waits ms "timeout" (m.timeout.getD none) c.timeout ∧
          limitsFrom none none (m.others.reverse ++ ms) = .ok c.limits := by
  induction ms generalizing m with
  | nil =>
    obtain ⟨entrypoint, timeout, limits⟩ := c
    rw [List.append_nil]
    change m.settle = _ ↔ _
    rw [Members.settle, mapError_eq_ok_iff, ofMembers]
    cases limitsFrom none none m.others.reverse with
    | ok l => simp [Setting, eq_comm]
    | error flaw => simp
  | cons member ms ih =>
    obtain ⟨key, v⟩ := member
    obtain ⟨hnew, hrest⟩ : key ∉ ms.map Prod.fst ∧ (ms.map Prod.fst).Nodup :=
      List.nodup_cons.mp h.keys
    have hentrypoint (hmem : "entrypoint" ∈ ms.map Prod.fst) : m.entrypoint = none :=
      h.entrypoint (List.mem_cons_of_mem _ hmem)
    have htimeout (hmem : "timeout" ∈ ms.map Prod.fst) : m.timeout = none :=
      h.timeout (List.mem_cons_of_mem _ hmem)
    rw [List.foldlM_cons, bind_assoc, Members.take]
    dsimp only
    split
    · rename_i hkey
      subst hkey
      rw [h.entrypoint List.mem_cons_self, limitsFrom_append_cons (by decide) (by decide)]
      cases hv : entrypointOf v with
      | ok s =>
        have hnames (a : String) : Names v a ↔ a = s := by
          rw [← entrypointOf_eq_ok_iff, hv, Except.ok.injEq, eq_comm]
        rw [Setting.cons_stands hnew hnames, Setting.cons_ne (by decide)]
        exact ih ⟨hrest, fun hmem => absurd hmem hnew, htimeout⟩
      | error e =>
        rw [Setting.cons_self hnew, ← entrypointOf_eq_ok_iff, hv]
        simp [Except.map, bind, Except.bind]
    rename_i hne
    split
    · rename_i hkey
      subst hkey
      rw [h.timeout List.mem_cons_self, limitsFrom_append_cons (by decide) (by decide)]
      cases hv : timeoutOf v with
      | ok t =>
        have hwaits (a : Option Duration) : Waits v a ↔ a = t := by
          rw [← timeoutOf_eq_ok_iff, hv, Except.ok.injEq, eq_comm]
        rw [Setting.cons_stands hnew hwaits, Setting.cons_ne (by decide)]
        exact ih ⟨hrest, hentrypoint, fun hmem => absurd hmem hnew⟩
      | error e =>
        rw [Setting.cons_self hnew, ← timeoutOf_eq_ok_iff, hv]
        simp [Except.map, bind, Except.bind]
    · rename_i hne'
      have hothers : m.others.reverse ++ (key, v) :: ms = ((key, v) :: m.others).reverse ++ ms := by
        simp
      rw [Setting.cons_ne hne, Setting.cons_ne hne', hothers]
      exact ih ⟨hrest, hentrypoint, htimeout⟩

theorem settingsOf_eq_ok_iff (hkeys : (ms.map Prod.fst).Nodup) :
    settingsOf ms = .ok c ↔ Layered ms c := by
  have hfresh : Fresh ⟨none, none, []⟩ ms := ⟨hkeys, fun _ => rfl, fun _ => rfl⟩
  rw [settingsOf, foldlM_take_eq_ok_iff hfresh, List.reverse_nil, List.nil_append,
    limitsFrom_eq_ok_iff hkeys (fun _ => rfl) (fun _ => rfl)]
  constructor
  · intro h
    obtain ⟨hentrypoint, htimeout, haddress, hschemas⟩ := h
    exact ⟨hentrypoint, htimeout, haddress, hschemas⟩
  · intro h
    exact ⟨h.entrypoint, h.timeout, h.maxAddressLen, h.maxSchemasLen⟩

theorem ofDocument_eq_ok_iff {s : String} (h : Holds s (.object ms))
    (hkeys : (ms.map Prod.fst).Nodup) : ofDocument s = .ok c ↔ Layered ms c := by
  rw [← settingsOf_eq_ok_iff hkeys]
  exact (ofDocument_tells h).eq_ok_iff

section Files
variable {w w' : World} {path path' : Bytes}

/-- The file at a path is a document that holds an object. -/
def Contains (w : World) (path : Bytes) (ms : List (String × Value)) : Prop :=
  ∃ place s, expandPath w path = .ok place ∧ w.readText (utf8 place) = .ok s ∧ Holds s (.object ms)

theorem contains_of_bytes {place s : String} (hplace : expandPath w path = .ok place)
    (hfile : w.read (utf8 place) = .ok (utf8 s)) (hs : Holds s (.object ms)) :
    Contains w path ms := by
  have htext : w.readText (utf8 place) = .ok s := by
    rw [World.readText, hfile]
    dsimp only
    rw [Utf8.decode?_utf8]
  exact ⟨place, s, hplace, htext, hs⟩

/-- No two members of the object have one name. -/
structure Describes (w : World) (path : Bytes) (ms : List (String × Value)) : Prop where
  document : Contains w path ms
  keys : (ms.map Prod.fst).Nodup

/-- A file that no settings come from. -/
inductive Unusable (w : World) (path : Bytes) : Prop where
  | expansion {e : Fault IoError} (h : expandPath w path = .error e)
  | reading {place : String} {e : IoError} (hplace : expandPath w path = .ok place)
      (h : w.readText (utf8 place) = .error e)
  | decoding {place s : String} {e : Fault Error} (hplace : expandPath w path = .ok place)
      (hs : w.readText (utf8 place) = .ok s) (h : ofDocument s = .error e)

theorem ofFile_of_text {place s : String} (hplace : expandPath w path = .ok place)
    (hs : w.readText (utf8 place) = .ok s) :
    ofFile w path = (ofDocument s).mapError (Fault.map Error.toIoError) := by
  simp only [ofFile, hplace, hs, bind, Except.bind]
  cases ofDocument s <;> rfl

theorem ofFile_error_iff : (∃ e, ofFile w path = .error e) ↔ Unusable w path := by
  cases hplace : expandPath w path with
  | error e =>
    have hfile : ofFile w path = .error e := by
      rw [ofFile, hplace]
      rfl
    exact ⟨fun _ => .expansion hplace, fun _ => ⟨e, hfile⟩⟩
  | ok place =>
    cases hs : w.readText (utf8 place) with
    | error e =>
      have hfile : ofFile w path = .error (.error e) := by
        simp only [ofFile, hplace, hs, bind, Except.bind]
        rfl
      exact ⟨fun _ => .reading hplace hs, fun _ => ⟨_, hfile⟩⟩
    | ok s =>
      rw [ofFile_of_text hplace hs]
      constructor
      · intro h
        cases hc : ofDocument s with
        | ok c =>
          rw [hc] at h
          obtain ⟨e, he⟩ := h
          cases he
        | error e => exact .decoding hplace hs hc
      · intro h
        cases h with
        | expansion h =>
          rw [hplace] at h
          cases h
        | reading hplace' h =>
          obtain rfl := Except.ok.inj (hplace.symm.trans hplace')
          rw [hs] at h
          cases h
        | decoding hplace' hs' h =>
          obtain rfl := Except.ok.inj (hplace.symm.trans hplace')
          obtain rfl := Except.ok.inj (hs.symm.trans hs')
          exact ⟨_, by rw [h]; rfl⟩

theorem ofFile_eq_ok_iff (h : Describes w path ms) : ofFile w path = .ok c ↔ Layered ms c := by
  obtain ⟨place, s, hplace, hs, hholds⟩ := h.document
  rw [ofFile_of_text hplace hs, ← ofDocument_eq_ok_iff hholds h.keys]
  exact mapError_eq_ok_iff

end Files
end Config

namespace CommandLine.Options
open Config
variable {w : World} {o : Options} {base c : Config}

/-- The settings below those of the command line. -/
inductive Base (w : World) (o : Options) : Config → Prop where
  | defaults (h : o.config = none) : Base w o {}
  | file {path : Bytes} {base : Config} (h : o.config = some path)
      (hbase : Config.ofFile w path = .ok base) : Base w o base

/-- Settings come from the command line as far as it gives them. -/
structure Overlays (o : Options) (base c : Config) : Prop where
  entrypoint_given : ∀ s, o.entrypoint = some s → c.entrypoint = s
  entrypoint_kept : o.entrypoint = none → c.entrypoint = base.entrypoint
  timeout_given : ∀ secs, o.timeout = some secs → c.timeout = some (Duration.ofSeconds secs)
  timeout_kept : o.timeout = none → c.timeout = base.timeout
  limits : c.limits = base.limits

theorem overlays_iff : Overlays o base c ↔ c = Program.effective o base := by
  obtain ⟨entrypoint, timeout, limits⟩ := c
  constructor
  · intro h
    have hentrypoint : entrypoint = o.entrypoint.getD base.entrypoint := by
      cases ho : o.entrypoint with
      | none => exact h.entrypoint_kept ho
      | some s => exact h.entrypoint_given s ho
    have htimeout : timeout = (o.timeout.map Duration.ofSeconds).or base.timeout := by
      cases ho : o.timeout with
      | none => exact h.timeout_kept ho
      | some secs => exact h.timeout_given secs ho
    have hlimits : limits = base.limits := h.limits
    rw [hentrypoint, htimeout, hlimits]
    rfl
  · intro h
    rw [h]
    exact ⟨fun s hs => by simp [Program.effective, hs], fun hs => by simp [Program.effective, hs],
      fun secs hs => by simp [Program.effective, hs], fun hs => by simp [Program.effective, hs], rfl⟩

theorem base_iff : Base w o base ↔ Program.baseSettings w o = .ok base := by
  unfold Program.baseSettings
  constructor
  · intro h
    cases h with
    | defaults h => rw [h]
    | file h hbase => rw [h]; exact hbase
  · intro h
    cases ho : o.config with
    | none =>
      rw [ho] at h
      cases h
      exact .defaults ho
    | some path =>
      rw [ho] at h
      exact .file ho h

theorem settings_eq_ok_iff : o.settings w = .ok c ↔ ∃ base, Base w o base ∧ Overlays o base c := by
  simp only [Program.settings_eq, base_iff, overlays_iff]
  cases Program.baseSettings w o <;> simp [Except.map, eq_comm]

theorem settings_error_iff :
    (∃ e, o.settings w = .error e) ↔ ∃ path, o.config = some path ∧ Unusable w path := by
  rw [Program.settings_eq, Program.baseSettings]
  cases o.config with
  | none =>
    constructor
    · intro h
      obtain ⟨e, he⟩ := h
      cases he
    · intro h
      obtain ⟨path, hpath, _⟩ := h
      cases hpath
  | some path =>
    simp only [Option.some.injEq, exists_eq_left', ← ofFile_error_iff]
    cases Config.ofFile w path <;> simp [Except.map]

/-- The settings come from the command line, from the file or from the defaults, each for itself. -/
theorem settings_layered (w : World) (o : Options) :
    (∀ path ms, Describes w path ms →
      ((∃ c, Config.ofFile w path = .ok c) ↔ Decodes ms) ∧
        ∀ c, Config.ofFile w path = .ok c ↔ Layered ms c) ∧
    (∀ w' path path' ms ms', Describes w path ms → Describes w' path' ms' → Agree ms ms' →
      ∀ c, Config.ofFile w path = .ok c ↔ Config.ofFile w' path' = .ok c) ∧
    ((∃ e, o.settings w = .error e) ↔ ∃ path, o.config = some path ∧ Unusable w path) ∧
    ∀ c, o.settings w = .ok c ↔ ∃ base, Base w o base ∧ Overlays o base c := by
  refine ⟨?_, ?_, settings_error_iff, fun c => settings_eq_ok_iff⟩
  · intro path ms h
    refine ⟨?_, fun c => ofFile_eq_ok_iff h⟩
    rw [← exists_layered_iff h.keys]
    exact exists_congr fun c => ofFile_eq_ok_iff h
  · intro w' path path' ms ms' h h' hagree c
    rw [ofFile_eq_ok_iff h, ofFile_eq_ok_iff h']
    exact layered_congr hagree

section Example

def terseMembers : List (String × Value) :=
  [("entrypoint", .text "deploy"), ("timeout", .text "1m 30s"),
    ("maxAddressLen", .number (.natural 64))]

def wordyMembers : List (String × Value) :=
  [("note", .array [.null, .object [("k", .number (.negative (-1)))]]),
    ("maxAddressLen", .number (.natural 64)), ("timeout", .text "1m 30s"),
    ("entrypoint", .text "deploy")]

def terseText : String :=
  "\x7b\"entrypoint\":\"deploy\",\"timeout\":\"1m 30s\",\"maxAddressLen\":64\x7d"

def wordyText : String :=
  "\x7b\"note\":[null,\x7b\"k\":-1\x7d],\n\"maxAddressLen\" : 64, \"timeout\":\"1m 30s\"," ++
    "\"entrypoint\":\"deploy\"\x7d"

/-- Two files with the same settings, one of them at home. -/
def twoFiles : World :=
  ⟨World.filesAt [(utf8 "/etc/terse", .ok (utf8 terseText)), (utf8 "/home/me/wordy", .ok (utf8 wordyText))],
    [("HOME", utf8 "/home/me")], none⟩

theorem describes_terse : Describes twoFiles (utf8 "/etc/terse") terseMembers := by
  have htext : terseText.toList = '\x7b' ::
      ((Text.write "entrypoint").toList ++ ':' :: ((Text.write "deploy").toList ++
        ',' :: ((Text.write "timeout").toList ++ ':' :: ((Text.write "1m 30s").toList ++
          ',' :: ((Text.write "maxAddressLen").toList ++
            ':' :: (Nat.toDigits 10 64 ++ ['\x7d'])))))) := by decide
  simp only [Text.toList_write_append] at htext
  have hlimit : Takes Reader.number ['6', '4', '\x7d'] (.natural 64) ['\x7d'] :=
    Takes.number 64 (.inr rfl)
  have hderives : Derives (maxDepth + 1) (.value (.object terseMembers)) terseText.toList [] := by
    rw [htext]
    refine .object (.members (.nil _) (Text.letters_write _ _) (.nil _) (.nil _)
      (.text _ (Text.letters_write _ _)) ?_)
    refine .moreMembers (.nil _) (.nil _) (Text.letters_write _ _) (.nil _) (.nil _)
      (.text _ (Text.letters_write _ _)) ?_
    exact .moreMembers (.nil _) (.nil _) (Text.letters_write _ _) (.nil _) (.nil _)
      (.number _ (.inr rfl) (by decide) hlimit) (.endMembers _ (.nil _))
  have hplace : expandPath twoFiles (utf8 "/etc/terse") = .ok "/etc/terse" :=
    expandPath_of_no_dollar (by simp) (by simp)
  exact ⟨contains_of_bytes hplace rfl (holds_of_derives (.nil _) hderives (.nil _)), by decide⟩

theorem describes_wordy : Describes twoFiles (utf8 "~/wordy") wordyMembers := by
  have htext : wordyText.toList = '\x7b' :: ((Text.write "note").toList ++
      ':' :: '[' :: 'n' :: 'u' :: 'l' :: 'l' :: ',' :: '\x7b' :: ((Text.write "k").toList ++
        ':' :: '-' :: '1' :: '\x7d' :: ']' :: ',' :: '\n' :: ((Text.write "maxAddressLen").toList ++
          ' ' :: ':' :: ' ' :: '6' :: '4' :: ',' :: ' ' :: ((Text.write "timeout").toList ++
            ':' :: ((Text.write "1m 30s").toList ++ ',' :: ((Text.write "entrypoint").toList ++
              ':' :: ((Text.write "deploy").toList ++ ['\x7d']))))))) := by
    decide
  simp only [Text.toList_write_append] at htext
  have hone (rest : List Char) : Takes Reader.number ('-' :: '1' :: '\x7d' :: rest) (.negative (-1))
      ('\x7d' :: rest) := fun _ => ⟨_, rfl⟩
  have hlimit (rest : List Char) : Takes Reader.number ('6' :: '4' :: ',' :: rest) (.natural 64)
      (',' :: rest) := Takes.number 64 (.inl rfl)
  have hderives : Derives (maxDepth + 1) (.value (.object wordyMembers)) wordyText.toList [] := by
    rw [htext]
    refine .object (.members (.nil _) (Text.letters_write _ _) (.nil _) (.nil _)
      (.array (.items (.nil _) (.null _ _) (.moreItems (.nil _) (.nil _)
        (.object (.members (.nil _) (Text.letters_write _ _) (.nil _) (.nil _)
          (.number _ (.inl rfl) (by simp) (hone _)) (.endMembers _ (.nil _))))
        (.endItems _ (.nil _))))) ?_)
    refine .moreMembers (.nil _) (.cons rfl (.nil _)) (Text.letters_write _ _) (.cons rfl (.nil _))
      (.cons rfl (.nil _)) (.number _ (.inr rfl) (by simp) (hlimit _)) ?_
    refine .moreMembers (.nil _) (.cons rfl (.nil _)) (Text.letters_write _ _) (.nil _) (.nil _)
      (.text _ (Text.letters_write _ _)) ?_
    exact .moreMembers (.nil _) (.nil _) (Text.letters_write _ _) (.nil _) (.nil _)
      (.text _ (Text.letters_write _ _)) (.endMembers _ (.nil _))
  have hplace : expandPath twoFiles (utf8 "~/wordy") = .ok "/home/me/wordy" :=
    expandPath_eq_expandTilde (by simp)
  exact ⟨contains_of_bytes hplace rfl (holds_of_derives (.nil _) hderives (.nil _)), by decide⟩

/-- The member that is missing leaves the default, and the flag takes the place of the timeout. -/
theorem terse_and_wordy_settle :
    Config.ofFile twoFiles (utf8 "/etc/terse") = .ok ⟨"deploy", some (.ofSeconds 90), ⟨64, 1048576⟩⟩ ∧
    Config.ofFile twoFiles (utf8 "~/wordy") = .ok ⟨"deploy", some (.ofSeconds 90), ⟨64, 1048576⟩⟩ ∧
    Options.settings ⟨utf8 "m", some (utf8 "~/wordy"), none, some 60, none, false, 0⟩ twoFiles =
      .ok ⟨"deploy", some (.ofSeconds 60), ⟨64, 1048576⟩⟩ := by
  obtain ⟨hfile, hagree, -, hsettings⟩ := settings_layered twoFiles
    ⟨utf8 "m", some (utf8 "~/wordy"), none, some 60, none, false, 0⟩
  have hterse : Config.ofFile twoFiles (utf8 "/etc/terse") =
      .ok ⟨"deploy", some (.ofSeconds 90), ⟨64, 1048576⟩⟩ := by
    refine ((hfile _ _ describes_terse).2 _).mpr ?_
    have hwaits : Duration.ofUnits "1m 30s" = .ok (.ofSeconds 90) :=
      Duration.ofUnits_inUnits (.ofSeconds 90)
    exact ⟨.inl ⟨_, by simp [terseMembers], .text _⟩, .inl ⟨_, by simp [terseMembers], .text hwaits⟩,
      .inl ⟨_, by simp [terseMembers], .whole 64⟩, .inr ⟨by decide, rfl⟩⟩
  have hsame : Agree terseMembers wordyMembers := (List.reverse_perm _).symm
  have hwordy := (hagree _ _ _ _ _ describes_terse describes_wordy hsame _).mp hterse
  exact ⟨hterse, hwordy, (hsettings _).mpr ⟨_, .file rfl hwordy, overlays_iff.mpr rfl⟩⟩

end Example
end CommandLine.Options
end DeployTrigger
