import DeployTrigger.Guest.Instance
import DeployTrigger.Limits
import DeployTrigger.Timestamp

/-!
Compiled modules and the two calls that the host makes: the deployment entrypoint and the schemas
function. Each call has an instance of its own, so calls do not know of each other.
-/
namespace DeployTrigger.Guest

structure Sandbox where
  module : Module
  valid : module.isValid = true
  limits : Limits
  /-- How many steps a call may take before it counts as endless. -/
  fuel : Nat

/-- Steps that a call may take unless told otherwise. -/
def defaultFuel : Nat := 4194304

/-- The name of the optional function that describes the contracts of a module. -/
def schemasExport : String := "schemas"

/-- What the host reports of a call that stopped. -/
def Stop.toDeployError : Stop → DeployError
  | trap t => .trapped t.message
  | abort reason => .aborted reason

namespace Sandbox

/-- The value of a call that has ended, with the memory as it is then. -/
def finished (ended : Outcome × Store) : Deploy (UInt64 × Memory) := do
  ended.2.events.forM Deploy.emit
  match ended.1 with
  | .value v => pure (v, ended.2.memory)
  | .stopped why => Deploy.fail why.toDeployError
  | .unfinished => throw .unfinished

/-- Runs a function on a fresh store and gives its value with the memory as it is then. -/
def call (s : Sandbox) (f : Func) (arguments : List UInt64) (store : Store) :
    Deploy (UInt64 × Memory) :=
  finished (f.run s.module s.fuel arguments store)

def requireMemory (s : Sandbox) : Deploy Unit :=
  match s.module.exportsMemory with
  | .ok () => pure ()
  | .error e => Deploy.fail (.missingExport (memoryExport ++ ": " ++ e.message))

def requireFunc (s : Sandbox) (name : String) (type : FuncType) : Deploy Func :=
  match s.module.exportedFunc name type with
  | .ok f => pure f
  | .error e => Deploy.fail (.missingExport (name ++ ": " ++ e.message))

/-- A fresh instance of the module and its exported function of a name and a type. -/
def enter (s : Sandbox) (name : String) (type : FuncType) : Deploy (Store × Func) := do
  let store ← s.module.instantiate s.fuel
  s.requireMemory
  let f ← s.requireFunc name type
  pure (store, f)

/-- A length above its limit. -/
def overLimit (r : Location) (limit : UInt64) : String :=
  decimal r.length.toNat ++ " bytes exceeds the limit of " ++ decimal limit.toNat

/-- A range that is not inside the memory. -/
def outside (r : Location) : String := "range " ++ r.shown ++ " is outside of module memory"

/-- The address at a location: not empty, not too long, inside the memory. -/
def addressAt (limits : Limits) (memory : Memory) (r : Location) : Except DeployError Address :=
  if r.length = 0 then .error (.invalidAddress "empty value")
  else if limits.maxAddressLen < r.length.toUInt64 then
    .error (.invalidAddress (overLimit r limits.maxAddressLen))
  else
    match memory.view? r.start.toNat r.length.toNat with
    | some bytes => .ok ⟨bytes⟩
    | none => .error (.invalidAddress (outside r))

/-- The document at a location: not too long, inside the memory, a text. -/
def schemasAt (limits : Limits) (memory : Memory) (r : Location) : Except DeployError String :=
  if limits.maxSchemasLen < r.length.toUInt64 then
    .error (.invalidSchemas (overLimit r limits.maxSchemasLen))
  else
    match memory.view? r.start.toNat r.length.toNat with
    | some bytes =>
      match Utf8.decode bytes with
      | .ok s => .ok s
      | .error fault => .error (.invalidSchemas fault.message)
    | none => .error (.invalidSchemas (outside r))

/-- A result, a failure being one of the work. -/
def settle {α : Type} : Except DeployError α → Deploy α
  | .ok a => pure a
  | .error e => Deploy.fail e

def invokingEvent (entrypoint : String) (t : Timestamp) : Log.Event :=
  ⟨.trace, .host, "invoking " ++ entrypoint ++ "(" ++ t.shown ++ ")"⟩

def returnedEvent (entrypoint : String) (r : Location) : Log.Event :=
  ⟨.trace, .host, entrypoint ++ " returned " ++ decimal r.length.toNat ++ " bytes at " ++
    decimal r.start.toNat⟩

/-- Calls an entrypoint with a timestamp and gives the address it points at. -/
def invoke (s : Sandbox) (entrypoint : String) (t : Timestamp) : Deploy Address := do
  let (store, f) ← s.enter entrypoint .wordToWord
  Deploy.emit (invokingEvent entrypoint t)
  let (packed, memory) ← s.call f [t.millis] store
  Deploy.emit (returnedEvent entrypoint (.unpack packed))
  settle (addressAt s.limits memory (.unpack packed))

/-- The document that the module publishes, if it has an export for it. -/
def schemas (s : Sandbox) : Deploy (Option String) :=
  if s.module.exports.all (·.1 ≠ schemasExport) then pure none
  else do
    let (store, f) ← s.enter schemasExport .word
    let (packed, memory) ← s.call f [] store
    some <$> settle (schemasAt s.limits memory (.unpack packed))

end Sandbox
end DeployTrigger.Guest
