import DeployTrigger.Proofs.Guest.Abort

/-!
Host functions that a start function calls. They do not see the memory yet: whatever range the
module logs, a warning stands in the log, and whatever error it hands over, the module cannot be
instantiated and no call reports the error. In functions that the host calls, the same range is
logged as a text.
-/
namespace DeployTrigger.Guest
open Deploy Machine

/-- The warning that a range is not inside the memory. -/
def outsideEvent (r : Location) : Log.Event :=
  ⟨.warn, .imports, "module log message at " ++ r.shown ++ " is out of bounds"⟩

/-- What is said of an error that the start function hands over at a packed location. -/
def startAbort (w : UInt64) : DeployError :=
  .instantiation ("RuntimeError: " ++
    ("abort payload at " ++ (Location.unpack w).shown ++ " out of bounds"))

variable {m : Module} {c d : Machine} {r : Location} {w : UInt64}

theorem Store.logEvent_of_hidden {s : Store} (h : s.visible = false) (r : Location) :
    s.logEvent r = outsideEvent r := by
  rw [logEvent, hostRead?, h]
  rfl

theorem Store.abortReason_of_hidden {s : Store} (h : s.visible = false) (r : Location) :
    s.abortReason r = .other ("abort payload at " ++ r.shown ++ " out of bounds") := by
  rw [abortReason, hostRead?, h]
  rfl

theorem Store.logEvent_of_visible {s : Store} (h : s.visible = true)
    (inside : r.start.toNat + r.length.toNat ≤ s.memory.size) :
    s.logEvent r =
      ⟨.info, .module, Utf8.lossy (s.memory.slice r.start.toNat r.length.toNat)⟩ := by
  rw [logEvent, hostRead?_of_visible h, Memory.read?, if_pos inside]

/-- The memory is hidden from host functions, and nothing is logged but warnings. -/
structure Store.Hidden (s : Store) : Prop where
  visible : s.visible = false
  warns : ∀ event ∈ s.log, ∃ r, event = outsideEvent r

theorem Store.Hidden.withLogged {s : Store} (h : s.Hidden) (r : Location) :
    (s.withLogged r).Hidden where
  visible := h.visible
  warns event hmem := by
    rw [Store.withLogged, s.logEvent_of_hidden h.visible] at hmem
    obtain rfl | hmem := List.mem_cons.mp hmem
    · exact ⟨r, rfl⟩
    · exact h.warns event hmem

namespace Machine

/-- The machine is about to call the log function with a range. -/
def CallsLog (c : Machine) (r : Location) : Prop :=
  ∃ p l rest, c.control = .value l ∧ c.stack = .logLength p :: rest ∧ r = ⟨p.toUInt32, l.toUInt32⟩

theorem step_of_callsLog (h : c.CallsLog r) :
    ∃ d, c.step m = .go d ∧ d.store = c.store.withLogged r := by
  obtain ⟨p, l, rest, hc, hs, rfl⟩ := h
  refine ⟨_, by rw [step, hc, hs]; rfl, rfl⟩

/-- No step of a guest shows the memory or logs a text. -/
theorem hidden_step (h : c.step m = .go d) (hc : c.store.Hidden) : d.store.Hidden := by
  have he := step_effect m c
  rw [h] at he
  cases he with
  | quiet hs => rwa [hs]
  | wrote _ hs =>
    rw [hs]
    exact ⟨hc.visible, hc.warns⟩
  | grew _ hs =>
    rw [hs]
    exact ⟨hc.visible, hc.warns⟩
  | setGlobal _ _ hs =>
    rw [hs]
    exact ⟨hc.visible, hc.warns⟩
  | logged r hs =>
    rw [hs]
    exact hc.withLogged r

theorem Leads.hidden (h : Leads m c d) (hc : c.store.Hidden) : d.store.Hidden := by
  induction h with
  | refl c => exact hc
  | head hs _ ih => exact ih (hidden_step hs hc)

/-- Also a run that is cut off has logged warnings only. -/
theorem hidden_run (fuel : Nat) (hc : c.store.Hidden) : (c.run m fuel).2.Hidden :=
  run_keeps hidden_step fuel hc

end Machine

/-- A module that gets as far as its start function. -/
structure Start (m : Module) where
  hostFuncs : List HostFunc
  memory : Memory
  func : Func
  linked : m.link = .ok hostFuncs
  copied : m.initialMemory = .ok memory
  has : m.startFunc? = some func

namespace Start

/-- The start function at its beginning. -/
def machine (x : Start m) : Machine := x.func.machine [] (m.blankStore x.memory)

theorem hidden (x : Start m) (h : Leads m x.machine d) : d.store.Hidden :=
  h.hidden ⟨rfl, fun _ hmem => absurd hmem List.not_mem_nil⟩

theorem instantiate_eq (x : Start m) :
    m.instantiate = fun n => m.started x.hostFuncs (Machine.run m n x.machine) := by
  funext n
  rw [Module.instantiate, x.linked]
  simp only [x.copied]
  rw [Module.runStart, x.has]
  rfl

theorem settles_of_stopped (x : Start m) {why : Stop} {after : Store}
    (h : Ends m x.machine (.stopped why) after) :
    Settles m.instantiate
      (.error (.instantiation (InstantiationError.stopped why).message)) after.events := by
  obtain ⟨n, hn⟩ := run_of_ends h
  refine ⟨n, fun bound hle => ?_⟩
  rw [x.instantiate_eq]
  dsimp only
  rw [hn bound hle, Module.started, outcome_bind_of_ok (outcome_forM_emit after.events)]
  exact congrArg (Log.Logged.mk _) (List.append_nil _)

theorem settles_of_callsAbort (x : Start m) (h : Leads m x.machine d) (hw : d.CallsAbort w) :
    Settles m.instantiate (.error (startAbort w)) d.store.events := by
  -- Without a memory, the reason is that the payload is out of bounds, whatever lies there.
  have hends := ends_of_callsAbort h hw
  rw [Store.abortReason_of_hidden (x.hidden h).visible] at hends
  exact x.settles_of_stopped hends

theorem warns_of_instantiated (x : Start m) {store : Store} {events : List Log.Event}
    (h : Settles m.instantiate (.ok store) events) :
    ∀ event ∈ events, ∃ r, event = outsideEvent r := by
  obtain ⟨n, hn⟩ := h
  have hlast := hn n (Nat.le_refl n)
  rw [x.instantiate_eq] at hlast
  have hhidden := hidden_run (m := m) n (x.hidden (.refl _))
  cases hr : Machine.run m n x.machine with
  | mk o after =>
    rw [hr] at hhidden
    dsimp only at hlast
    rw [hr, Module.started, outcome_bind_of_ok (outcome_forM_emit after.events)] at hlast
    injection hlast with hvalue hevents
    -- Behind the events of the start function nothing is logged, whatever comes of it.
    have hnothing : events = after.events := by
      cases o with
      | unfinished => cases hvalue
      | stopped why => cases hvalue
      | value v =>
        dsimp only at hvalue hevents
        split at hvalue
        · cases hvalue
        · rename_i hmemory
          rw [hmemory] at hevents
          rw [← hevents]
          exact List.append_nil _
    intro event hmem
    rw [hnothing] at hmem
    exact hhidden.warns event (List.mem_reverse.mp hmem)

end Start

/-- What comes of the calls that a start function makes to the host. -/
structure StartLaw (s : Sandbox) (x : Start s.module) : Prop where
  /-- A logged range is a warning, also if it is inside the memory. -/
  log {d : Machine} {r : Location} (h : Leads s.module x.machine d) (hr : d.CallsLog r) :
    ∃ d', d.step s.module = .go d' ∧ d'.store.log = outsideEvent r :: d.store.log
  /-- Nothing but warnings is logged, up to the exported function. -/
  warns {d : Machine} (h : Leads s.module x.machine d) :
    ∀ event ∈ d.store.log, ∃ r, event = outsideEvent r
  entry {name : String} {type : FuncType} (y : s.Entry name type) :
    ∀ event ∈ y.logged, ∃ r, event = outsideEvent r
  /-- An error that is handed over is not reported, whatever it is. -/
  invoke {d : Machine} {w : UInt64} (h : Leads s.module x.machine d) (hw : d.CallsAbort w)
    (name : String) (t : Timestamp) :
    Settles (s.invoking name t) (.error (startAbort w)) d.store.events
  schemas {d : Machine} {w : UInt64} (h : Leads s.module x.machine d) (hw : d.CallsAbort w)
    (hp : s.publishes) : Settles s.describing (.error (startAbort w)) d.store.events
  /-- In an exported function, the same call logs a text. -/
  exported {name : String} {type : FuncType} (y : s.Entry name type) {arguments : List UInt64}
    {d : Machine} {r : Location} (h : Leads s.module (y.machine arguments) d) (hr : d.CallsLog r)
    (inside : r.start.toNat + r.length.toNat ≤ d.store.memory.size) :
    ∃ d', d.step s.module = .go d' ∧ d'.store.log =
      ⟨.info, .module, Utf8.lossy (d.store.memory.slice r.start.toNat r.length.toNat)⟩ ::
        d.store.log

namespace Sandbox
variable {s : Sandbox}

theorem start_obeys_law (s : Sandbox) (x : Start s.module) : StartLaw s x where
  log {d r} h hr := by
    obtain ⟨d', hs, hstore⟩ := step_of_callsLog (m := s.module) hr
    refine ⟨d', hs, ?_⟩
    rw [hstore, Store.withLogged, Store.logEvent_of_hidden (x.hidden h).visible]
  warns h := (x.hidden h).warns
  entry y := x.warns_of_instantiated y.instantiated
  invoke h hw name t := settles_invoking_of_failure (.instantiation (x.settles_of_callsAbort h hw))
  schemas h hw hp := by
    have hentering : Settles (s.entering schemasExport .word) _ _ :=
      settles_entering_of_failure (.instantiation (x.settles_of_callsAbort h hw))
    rw [describing_of_publishes hp]
    exact hentering.bind_error _
  exported y arguments d r h hr inside := by
    have hvisible : d.store.visible = true :=
      h.visible.trans (Module.visible_of_instantiated y.instantiated)
    obtain ⟨d', hs, hstore⟩ := step_of_callsLog (m := s.module) hr
    refine ⟨d', hs, ?_⟩
    rw [hstore, Store.withLogged, Store.logEvent_of_visible hvisible inside]

/-- A page with an encoded error; the start function logs its text and hands it over. -/
def starting : Sandbox where
  module := {
    name := none
    memory := some ⟨1, none, some memoryExport⟩
    globals := []
    data := [(0, [2, 1, 0, 0, 0, 120])]
    imports := [HostFunc.log.toImport, HostFunc.abort.toImport]
    funcs := [⟨["deploy_contract"], .wordToWord, 0, [.result (.const 1)]⟩,
      ⟨[], ⟨[], []⟩, 0, [.log (.const 5) (.const 1), .abort (.const (Kit.pack 0 6))]⟩]
    start := some 1 }
  valid := by decide
  limits := {}
  fuel := 16

def startingStart : Start starting.module where
  hostFuncs := [.log, .abort]
  memory := starting.module.initialMemory.toOption.getD (.zeros 0 0)
  func := ⟨[], ⟨[], []⟩, 0, [.log (.const 5) (.const 1), .abort (.const (Kit.pack 0 6))]⟩
  linked := by cbv
  copied := by cbv
  has := rfl

/-- The machine that is about to log, and the one that is about to give up. -/
def startingLog : Machine :=
  ⟨.value 1, [.logLength 5, .block [.abort (.const (Kit.pack 0 6))]], [], 0,
    starting.module.blankStore startingStart.memory⟩

def startingAbort : Machine :=
  ⟨.value (Kit.pack 0 6), [.abort, .block []], [], 0,
    (starting.module.blankStore startingStart.memory).withLogged ⟨5, 1⟩⟩

theorem leads_startingLog : Leads starting.module startingStart.machine startingLog :=
  .head rfl (.head rfl (.head rfl (.head rfl (.refl _))))

theorem leads_startingAbort : Leads starting.module startingStart.machine startingAbort :=
  .head rfl (.head rfl (.head rfl (.head rfl (.head rfl (.head rfl (.head rfl (.head rfl
    (.refl _))))))))

theorem starting_fails :
    Settles (starting.invoking "deploy_contract" ⟨1⟩)
      (.error (.instantiation "RuntimeError: abort payload at 0+6 out of bounds"))
      [outsideEvent ⟨5, 1⟩] :=
  (start_obeys_law starting startingStart).invoke leads_startingAbort ⟨rfl, _, rfl⟩
    "deploy_contract" ⟨1⟩

/-- The bytes at both ranges are in memory, yet neither the text nor the error arrives. -/
theorem starting_not_heard :
    (Leads starting.module startingStart.machine startingLog ∧ startingLog.CallsLog ⟨5, 1⟩ ∧
      5 + 1 ≤ startingLog.store.memory.size ∧
      ∀ d, startingLog.step starting.module = .go d →
        ⟨.info, .module, Utf8.lossy (startingLog.store.memory.slice 5 1)⟩ ∉ d.store.log) ∧
    (Leads starting.module startingStart.machine startingAbort ∧
      startingAbort.CallsAbort (Kit.pack 0 6) ∧
      0 + 6 ≤ startingAbort.store.memory.size ∧
      (ModuleError.rejected "x").encode? = some (startingAbort.store.memory.slice 0 6) ∧
      ∀ events, ¬ Settles (starting.invoking "deploy_contract" ⟨1⟩)
        (.error (.aborted (.rejected "x"))) events) := by
  refine ⟨⟨leads_startingLog, ⟨5, 1, _, rfl, rfl, rfl⟩, by decide, ?_⟩,
    leads_startingAbort, ⟨rfl, _, rfl⟩, by decide, rfl, ?_⟩
  · intro d hs hmem
    cases hs
    cases hmem with
    | tail _ hmem => cases hmem
  · intro events h
    have hstart := startingStart.settles_of_callsAbort leads_startingAbort ⟨rfl, _, rfl⟩
    cases (h.unique (settles_invoking_of_failure (.instantiation hstart))).1

end Sandbox
end DeployTrigger.Guest
