import DeployTrigger.Deployer
import DeployTrigger.Guest.Compiler
import DeployTrigger.World

/-! Deployers that run the entrypoint of a module. -/
namespace DeployTrigger

structure ModuleDeployer where
  sandbox : Guest.Sandbox
  /-- The name of the export that is called. -/
  entrypoint : String

namespace ModuleDeployer

/-- The entrypoint of modules unless configured otherwise. -/
def defaultEntrypoint : String := "deploy_contract"

def ofSandbox (s : Guest.Sandbox) : ModuleDeployer := ⟨s, defaultEntrypoint⟩

/-- The deployer with another bound on the steps of a call. -/
def within (d : ModuleDeployer) (steps : Nat) : ModuleDeployer :=
  { d with sandbox := { d.sandbox with fuel := steps } }

def loadedEvent (path file : Bytes) : Log.Event :=
  ⟨.info, .deployer, "loaded module " ++ Utf8.lossy path ++ " (" ++ decimal file.length ++ " bytes)"⟩

/-- Reads and compiles the module in a file. -/
def load (c : Guest.Compiler) (w : World) (path : Bytes) (limits : Limits) : Deploy ModuleDeployer :=
  match w.read path with
  | .error e => Deploy.fail (.unreadable e)
  | .ok file => do
    Deploy.emit (loadedEvent path file)
    let sandbox ← c.compile file
    pure (ofSandbox { sandbox with limits := limits })

def callingEvent (entrypoint : String) (t : Timestamp) : Log.Event :=
  ⟨.debug, .deployer, "calling " ++ entrypoint ++ "(" ++ t.shown ++ ")"⟩

def deploy (d : ModuleDeployer) (t : Timestamp) : Deploy Address := do
  Deploy.emit (callingEvent d.entrypoint t)
  d.sandbox.invoke d.entrypoint t

def schemas (d : ModuleDeployer) : Deploy (Option String) := d.sandbox.schemas

/-- A module has no state between calls. What goes on from call to call is how long they take, each
if it comes to an end: a call without a delay is over when it is first waited for. All that a call
logs counts as logged while it is waited for. -/
def toDeployer (d : ModuleDeployer) : Deployer (Supply (Option Duration)) where
  deploy t delays :=
    let (delay, delays) := delays.next
    let r := (d.deploy t).outcome
    (⟨.ofOutcome delay r.value, r.events⟩, delays)

end ModuleDeployer
end DeployTrigger
