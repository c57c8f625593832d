import DeployTrigger.Proofs.Guest.Events
import DeployTrigger.Proofs.Guest.Shadowing

/-!
What silenced calls of the log function change. Both calls of a sandbox come to the same result
without them, and of what is logged exactly their events are missing (`silencing_obeys_law`).
-/
namespace DeployTrigger.Guest
open Deploy Machine

variable {m m' : Module}

theorem Module.log_of_instantiated {store : Store} {events : List Log.Event}
    (h : Settles m.instantiate (.ok store) events) : store.log = [] := by
  obtain ⟨n, hn⟩ := h
  exact log_of_value (congrArg Log.Logged.value (hn n (Nat.le_refl n)))

namespace Start

/-- The instance of a module whose start function has ended with a state. -/
def made (x : Start m) (state : State) : Except DeployError Store :=
  match (if x.hostFuncs.isEmpty then .ok () else m.exportsMemory) with
  | .error e => .error (.instantiation (InstantiationError.hostMemory e).message)
  | .ok () => .ok ⟨state, true, []⟩

theorem settles_of_value (x : Start m) {v : UInt64} {after : Store}
    (h : Ends m x.machine (.value v) after) :
    Settles m.instantiate (x.made after.toState) after.events := by
  obtain ⟨n, hn⟩ := run_of_ends h
  refine ⟨n, fun bound hle => ?_⟩
  rw [x.instantiate_eq]
  dsimp only
  rw [hn bound hle, Module.started, outcome_bind_of_ok (outcome_forM_emit after.events), made]
  dsimp only
  generalize (if x.hostFuncs.isEmpty then .ok () else m.exportsMemory) = check
  cases check <;> exact congrArg (Log.Logged.mk _) (List.append_nil _)

theorem ends_of_settles (x : Start m) {r : Except DeployError Store} {events : List Log.Event}
    (h : Settles m.instantiate r events) : ∃ o after, Ends m x.machine o after := by
  obtain ⟨n, hn⟩ := h
  have hlast := congrArg Log.Logged.value (hn n (Nat.le_refl n))
  rw [x.instantiate_eq] at hlast
  cases hr : Machine.run m n x.machine with
  | mk o after =>
    refine ⟨o, after, ends_of_run hr ?_⟩
    rintro rfl
    dsimp only at hlast
    rw [hr, m.outcome_started_unfinished] at hlast
    cases r <;> cases hlast

end Start

/-- Both modules get as far as a start function, or both are instantiated without one. -/
theorem Module.Silenced.starts (h : m.Silenced m') :
    (∃ (x : Start m) (x' : Start m'), x'.hostFuncs = x.hostFuncs ∧ x'.memory = x.memory ∧
      x.func.Silenced x'.func) ∨
      ∃ x : Deploy Store, m.instantiate = (fun _ => x) ∧ m'.instantiate = (fun _ => x) ∧
        x.outcome.events = [] := by
  unfold Module.instantiate
  rw [h.link, h.initialMemory]
  cases hl : m.link with
  | error e => exact .inr ⟨_, rfl, rfl, rfl⟩
  | ok hostFuncs =>
    cases hm : m.initialMemory with
    | error e => exact .inr ⟨_, rfl, rfl, rfl⟩
    | ok memory =>
      obtain ⟨hf, hf'⟩ | ⟨f, f', hf, hf', hff⟩ := h.startFunc?
      · refine .inr ⟨m.started hostFuncs (.value 0, m.blankStore memory), ?_, ?_, ?_⟩
        · simp only [runStart, hf]
        · simp only [runStart, hf', Module.started, h.exportsMemory, h.blankStore]
        · have hnothing : (([] : List Log.Event).forM emit).outcome = ⟨.ok (), []⟩ := rfl
          rw [Module.started]
          change (([] : List Log.Event).forM emit >>= _).outcome.events = []
          rw [outcome_bind_of_ok hnothing]
          dsimp only
          split <;> rfl
      · -- The start functions may run differently, so their runs are what is compared.
        exact .inl ⟨⟨hostFuncs, memory, f, hl, hm, hf⟩,
          ⟨hostFuncs, memory, f', h.link.trans hl, h.initialMemory.trans hm, hf'⟩, rfl, rfl, hff⟩

theorem Shadows.instantiate {runs : Machine → Machine → Prop} (h : m.Silenced m')
    (hruns : ∀ (x : Start m) (x' : Start m'), runs x.machine x'.machine) :
    Shadows m m' runs (fun a b => a = b) m.instantiate m'.instantiate := by
  obtain ⟨x, x', hhost, hmemory, hf⟩ | ⟨x, hx, hx', hnothing⟩ := h.starts
  · have halong : Alongside x.machine x'.machine := by
      rw [Start.machine, Start.machine, hmemory, h.blankStore]
      exact alongside_machine hf [] _ _ _ _
    refine .of_runs h (hruns x x') halong rfl rfl x.ends_of_settles x'.ends_of_settles ?_
    intro o after after' he he' hafter
    cases o with
    | unfinished => exact he.not_unfinished.elim
    | stopped why =>
      exact ⟨_, _, .error _, x.settles_of_stopped he, x'.settles_of_stopped he'⟩
    | value v =>
      have hmade : x'.made after'.toState = x.made after.toState := by
        rw [Start.made, Start.made, hafter, hhost, h.exportsMemory]
      exact ⟨_, _, hmade ▸ .refl _, x.settles_of_value he, x'.settles_of_value he'⟩
  · rw [hx, hx']
    exact .same x fun event hmem => absurd (hnothing ▸ hmem) List.not_mem_nil

/-- The event of a range that is logged where host functions see the memory. -/
inductive LogEvent (memory : Memory) (r : Location) : Log.Event → Prop where
  | text {t : String} (inside : r.start.toNat + r.length.toNat ≤ memory.size)
      (h : memory.slice r.start.toNat r.length.toNat = utf8 t) :
      LogEvent memory r ⟨.info, .module, t⟩
  | damaged (inside : r.start.toNat + r.length.toNat ≤ memory.size)
      (h : ∀ t, memory.slice r.start.toNat r.length.toNat ≠ utf8 t) :
      LogEvent memory r
        ⟨.info, .module, Utf8.lossy (memory.slice r.start.toNat r.length.toNat)⟩
  | outside (h : memory.size < r.start.toNat + r.length.toNat) :
      LogEvent memory r
        ⟨.warn, .imports, "module log message at " ++
          (decimal r.start.toNat ++ "+" ++ decimal r.length.toNat) ++ " is out of bounds"⟩

theorem Store.logEvent_spec {s : Store} (hv : s.visible = true) (r : Location) :
    LogEvent s.memory r (s.logEvent r) := by
  by_cases inside : r.start.toNat + r.length.toNat ≤ s.memory.size
  · rw [logEvent_of_visible hv inside]
    by_cases h : ∃ t, s.memory.slice r.start.toNat r.length.toNat = utf8 t
    · obtain ⟨t, ht⟩ := h
      rw [ht, Utf8.lossy_utf8]
      exact .text inside ht
    · exact .damaged inside fun t ht => h ⟨t, ht⟩
  · rw [logEvent, hostRead?_of_visible hv, Memory.read?, if_neg inside]
    exact .outside (Nat.lt_of_not_le inside)

namespace Sandbox
variable {s s' : Sandbox} {name : String} {type : FuncType}

/-- The runs of a call next to those of the same call in another sandbox: of the start functions,
and of the functions that the call enters. -/
inductive Runs (s s' : Sandbox) (name : String) (type : FuncType) (arguments : List UInt64) :
    Machine → Machine → Prop where
  | start (x : Start s.module) (x' : Start s'.module) :
      Runs s s' name type arguments x.machine x'.machine
  | entry (x : s.Entry name type) (x' : s'.Entry name type) :
      Runs s s' name type arguments (x.machine arguments) (x'.machine arguments)

/-- The same way into an exported function. -/
def Entered (s s' : Sandbox) (name : String) (type : FuncType) (a b : Store × Func) : Prop :=
  ∃ (x : s.Entry name type) (x' : s'.Entry name type), x'.store = x.store ∧
    x.func.Silenced x'.func ∧ a = (x.store, x.func) ∧ b = (x'.store, x'.func)

theorem shadows_entering (h : s.module.Silenced s'.module) (name : String) (type : FuncType)
    (arguments : List UInt64) :
    Shadows s.module s'.module (s.Runs s' name type arguments) (s.Entered s' name type)
      (s.entering name type) (s'.entering name type) := by
  rw [entering_eq, entering_eq]
  refine (Shadows.instantiate h Runs.start).attained.bind s.module.stable_instantiate
    s'.module.stable_instantiate ?_
  rintro store _ ⟨rfl, ⟨logged, hi⟩, logged', hi'⟩
  cases hm : s.module.exportsMemory with
  | error e =>
    refine .const ?_ ?_ (.error (.missingExport (memoryExport ++ ": " ++ e.message)))
    · rw [outcome_found, hm]
      rfl
    · rw [outcome_found, h.exportsMemory, hm]
      rfl
  | ok u =>
    obtain ⟨e, he, he'⟩ | ⟨f, f', hf, hf', hff⟩ := h.exportedFunc name type
    · refine .const ?_ ?_ (.error (.missingExport (name ++ ": " ++ e.message)))
      · rw [outcome_found, hm, he]
        rfl
      · rw [outcome_found, h.exportsMemory, hm, he']
        rfl
    · -- Only the events of the start functions differ, so both entries have the same store.
      let x : s.Entry name type := ⟨store, logged, f, hi, hm, hf⟩
      let x' : s'.Entry name type := ⟨store, logged', f', hi', h.exportsMemory.trans hm, hf'⟩
      refine .const ?_ ?_ (.ok ⟨x, x', rfl, hff, rfl, rfl⟩)
      · rw [outcome_found, hm, hf]
        rfl
      · rw [outcome_found, h.exportsMemory, hm, hf']
        rfl

theorem shadows_calling (h : s.module.Silenced s'.module) {a b : Store × Func}
    (hab : s.Entered s' name type a b) (arguments : List UInt64) :
    Shadows s.module s'.module (s.Runs s' name type arguments) (fun y y' => y = y')
      (s.calling a.2 arguments a.1) (s'.calling b.2 arguments b.1) := by
  obtain ⟨x, x', hstore, hf, rfl, rfl⟩ := hab
  have hlog := Module.log_of_instantiated x.instantiated
  have hlog' := Module.log_of_instantiated x'.instantiated
  have halong : Alongside (x.machine arguments) (x'.machine arguments) := by
    rw [Entry.machine, Entry.machine, hstore]
    exact alongside_machine hf arguments _ _ _ _
  refine .of_runs h (.entry x x') halong hlog hlog' ends_of_settles_calling
    ends_of_settles_calling ?_
  intro o after after' he he' hafter
  cases o with
  | unfinished => exact he.not_unfinished.elim
  | stopped why =>
    exact ⟨_, _, .error _, settles_calling_of_stopped he, settles_calling_of_stopped he'⟩
  | value v =>
    exact ⟨_, _, .ok (by rw [hafter]), settles_calling_of_value he, settles_calling_of_value he'⟩

theorem shadows_invoking (h : s.module.Silenced s'.module) (hl : s'.limits = s.limits)
    (name : String) (t : Timestamp) :
    Shadows s.module s'.module (s.Runs s' name .wordToWord [t.millis]) (fun a b => a = b)
      (s.invoking name t) (s'.invoking name t) := by
  have hhost : ∀ {e : Log.Event}, e.source = .host → ∀ event ∈ (emit e).outcome.events,
      event.source = .host := fun he event hmem => List.mem_singleton.mp hmem ▸ he
  rw [invoking_eq, invoking_eq, hl]
  refine (shadows_entering h name .wordToWord _).bind (s.stable_entering name _)
    (s'.stable_entering name _) fun a b hab => ?_
  refine (Shadows.same _ (hhost rfl)).bind (stable_const _) (stable_const _) fun _ _ _ => ?_
  refine (shadows_calling h hab [t.millis]).bind (s.stable_calling _ _ _)
    (s'.stable_calling _ _ _) ?_
  rintro y _ rfl
  refine (Shadows.same _ (hhost rfl)).bind (stable_const _) (stable_const _) fun _ _ _ => ?_
  refine .same _ fun event hmem => ?_
  rw [outcome_settle] at hmem
  cases hmem

theorem observed_describing (h : s.module.Silenced s'.module) (hl : s'.limits = s.limits) :
    Observed s.module s'.module (s.Runs s' schemasExport .word []) s.describing s'.describing := by
  by_cases hp : s.publishes
  · have hp' : s'.publishes := by rwa [publishes, h.exports]
    refine Shadows.observed ?_ (stable_describing hp) (stable_describing hp')
    rw [describing_of_publishes hp, describing_of_publishes hp', hl]
    refine (shadows_entering h schemasExport .word _).bind (s.stable_entering _ _)
      (s'.stable_entering _ _) fun a b hab => ?_
    refine (shadows_calling h hab []).bind (s.stable_calling _ _ _) (s'.stable_calling _ _ _) ?_
    rintro y _ rfl
    refine .same _ fun event hmem => ?_
    cases hat : schemasAt s.limits y.2 (.unpack y.1) <;> rw [hat] at hmem <;> cases hmem
  · have hp' : ¬ s'.publishes := by rwa [publishes, h.exports]
    rw [describing_of_not_publishes hp, describing_of_not_publishes hp']
    exact Shadows.observed (.same _ nofun) (stable_const _) (stable_const _)

/-- Silenced calls of the log function change nothing but the log. -/
structure SilencingLaw (s s' : Sandbox) : Prop where
  invoke (name : String) (t : Timestamp) :
    Observed s.module s'.module (s.Runs s' name .wordToWord [t.millis]) (s.invoking name t)
      (s'.invoking name t)
  schemas :
    Observed s.module s'.module (s.Runs s' schemasExport .word []) s.describing s'.describing
  /-- A call of the log function in a function that the host calls logs one event and goes on. -/
  logged {name : String} {type : FuncType} (x : s.Entry name type) {arguments : List UInt64}
    {d : Machine} {r : Location} (h : Leads s.module (x.machine arguments) d) (hr : d.CallsLog r) :
    ∃ d' event, d.step s.module = .go d' ∧ LogEvent d.store.memory r event ∧
      d'.store = { d.store with log := event :: d.store.log }

/-- Guest logging is observation only. -/
theorem silencing_obeys_law (s : Sandbox) (m' : Module) (h : s.module.Silenced m') :
    ∃ hv : m'.isValid = true, SilencingLaw s ⟨m', hv, s.limits, s.fuel⟩ := by
  let s' : Sandbox := ⟨m', h.isValid s.valid, s.limits, s.fuel⟩
  have hs' : s.module.Silenced s'.module := h
  refine ⟨h.isValid s.valid, ?_, observed_describing hs' rfl, ?_⟩
  · intro name t
    exact (shadows_invoking hs' rfl name t).observed (s.stable_invoking name t)
      (s'.stable_invoking name t)
  · intro name type x arguments d r hl hr
    have hvisible : d.store.visible = true :=
      hl.visible.trans (Module.visible_of_instantiated x.instantiated)
    obtain ⟨d', hs, hstore⟩ := step_of_callsLog (m := s.module) hr
    exact ⟨d', d.store.logEvent r, hs, d.store.logEvent_spec hvisible r, hstore⟩

/-- A page with a text, and an entrypoint that logs before it returns where the text is. -/
def chattyModule (logging : List Stmt) : Module where
  name := none
  memory := some ⟨1, none, some memoryExport⟩
  globals := []
  data := [(16, [104, 105])]
  imports := [HostFunc.log.toImport]
  funcs := [⟨["deploy_contract"], .wordToWord, 0, logging ++ [.result (.const (Kit.pack 16 2))]⟩]
  start := none

def chatty : Sandbox where
  module := chattyModule [.log (.const 16) (.const 1), .log (.const 65536) (.const 1)]
  valid := by decide
  limits := {}
  fuel := 32

/-- Of the two calls of the log function, the first is silenced. -/
def quieter : Module :=
  chattyModule [.eval (.const 16), .eval (.const 1), .log (.const 65536) (.const 1)]

theorem chatty_silenced : chatty.module.Silenced quieter where
  name := rfl
  memory := rfl
  globals := rfl
  data := rfl
  imports := rfl
  funcs := .cons ⟨rfl, rfl, rfl, .silence _ _ (.keep rfl (.keep rfl .nil))⟩ .nil
  start := rfl

theorem chatty_invoking : Settles (chatty.invoking "deploy_contract" ⟨1⟩) (.ok ⟨[104, 105]⟩)
    [invokingEvent "deploy_contract" ⟨1⟩, ⟨.info, .module, "h"⟩, outsideEvent ⟨65536, 1⟩,
      returnedEvent "deploy_contract" ⟨16, 2⟩] :=
  (chatty.stable_invoking _ _).settles (n := 32) rfl

theorem quieter_answers : ∃ (hv : quieter.isValid = true) (events : List Log.Event),
    Settles (invoking ⟨quieter, hv, chatty.limits, chatty.fuel⟩ "deploy_contract" ⟨1⟩)
      (.ok ⟨[104, 105]⟩) events := by
  obtain ⟨hv, law⟩ := silencing_obeys_law chatty quieter chatty_silenced
  obtain ⟨events, h⟩ := ((law.invoke "deploy_contract" ⟨1⟩).result _).mp ⟨_, chatty_invoking⟩
  exact ⟨hv, events, h⟩

end Sandbox
end DeployTrigger.Guest
