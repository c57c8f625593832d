import DeployTrigger.Attempt
import DeployTrigger.Guest.Machine
import DeployTrigger.Guest.Validation

/-!
Fresh instances of a module. Imports are resolved first, then data is copied to memory, then the
start function runs, and only then the host functions are given the exported memory.
-/
namespace DeployTrigger.Guest

/-- Why there is no export of the wanted kind. -/
inductive ExportError where
  | missing (name : String)
  | incompatible
  deriving DecidableEq, Repr

def ExportError.message : ExportError → String
  | missing name => "Missing export " ++ name
  | incompatible => "Incompatible Export Type"

/-- The name under which host functions look for the memory. -/
def memoryExport : String := "memory"

/-- A module has an exported memory under the name that the host looks for. -/
def Module.exportsMemory (m : Module) : Except ExportError Unit :=
  match m.export? memoryExport with
  | none => .error (.missing memoryExport)
  | some .memory => .ok ()
  | some _ => .error .incompatible

/-- The exported function of a name and a type. -/
def Module.exportedFunc (m : Module) (name : String) (type : FuncType) : Except ExportError Func :=
  match m.export? name with
  | none => .error (.missing name)
  | some (.func i) =>
    match m.funcs[i]? with
    | some f => if f.type = type then .ok f else .error .incompatible
    | none => .error .incompatible
  | some _ => .error .incompatible

/-- Why a module cannot be instantiated. -/
inductive InstantiationError where
  | link (error : LinkError)
  | stopped (why : Stop)
  /-- Host functions are imported and find no memory. -/
  | hostMemory (error : ExportError)
  deriving DecidableEq, Repr

def InstantiationError.message : InstantiationError → String
  | link e => e.message
  | stopped why => "RuntimeError: " ++ why.message
  | hostMemory e => "Host env initialization error: " ++ e.message

/-- The memory of a module before data is copied to it. -/
def Module.blankMemory (m : Module) : Memory :=
  match m.memory with
  | some t => .zeros t.min (t.max.getD maxPages)
  | none => .zeros 0 0

/-- The memory of a module with its data. -/
def Module.initialMemory (m : Module) : Except InstantiationError Memory :=
  m.data.foldlM (fun memory (start, bytes) =>
    match memory.load? start bytes with
    | some memory => .ok memory
    | none => .error (.stopped (.trap .outOfBounds))) m.blankMemory

/-- The values of the globals at first. -/
def Module.initialGlobals (m : Module) : List UInt64 := m.globals.map (·.initial)

/-- The store of an instance whose code has not run yet, with its memory. -/
def Module.blankStore (m : Module) (memory : Memory) : Store :=
  ⟨⟨memory, m.initialGlobals⟩, false, []⟩

def Module.startFunc? (m : Module) : Option Func := m.start.bind (m.funcs[·]?)

/-- Runs the start function, if there is one. -/
def Module.runStart (m : Module) (fuel : Nat) (s : Store) : Outcome × Store :=
  match m.startFunc? with
  | some f => f.run m fuel [] s
  | none => (.value 0, s)

/-- Events that were logged since a store had none. -/
def Store.events (s : Store) : List Log.Event := s.log.reverse

/-- The instance whose start function has ended: what was logged is handed to the host, and host
functions get to see the memory. -/
def Module.started (m : Module) (hostFuncs : List HostFunc) (ended : Outcome × Store) :
    Deploy Store := do
  ended.2.events.forM Deploy.emit
  match ended.1 with
  | .unfinished => throw .unfinished
  | .stopped why => Deploy.fail (.instantiation (InstantiationError.stopped why).message)
  | .value _ =>
    match (if hostFuncs.isEmpty then .ok () else m.exportsMemory) with
    | .error e => Deploy.fail (.instantiation (InstantiationError.hostMemory e).message)
    | .ok () => pure { ended.2 with visible := true, log := [] }

/-- The store of a fresh instance, its log being empty again. -/
def Module.instantiate (m : Module) (fuel : Nat) : Deploy Store :=
  match m.link with
  | .error e => Deploy.fail (.instantiation (InstantiationError.link e).message)
  | .ok hostFuncs =>
    match m.initialMemory with
    | .error e => Deploy.fail (.instantiation e.message)
    | .ok memory => m.started hostFuncs (m.runStart fuel (m.blankStore memory))

end DeployTrigger.Guest
