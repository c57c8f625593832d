import DeployTrigger.Guest.Session
import DeployTrigger.ModuleDeployer

/-!
Sessions with a deployer. All its calls are made on one engine, which its clones share; another
entrypoint is called from the request on that sets it.
-/
namespace DeployTrigger.ModuleDeployer
open Guest

inductive Call where
  | deploy (t : Timestamp)
  | schemas

inductive Request where
  | call (c : Call)
  /-- Goes on with a clone that has another entrypoint. -/
  | entrypoint (name : String)

def deployOn (d : ModuleDeployer) (t : Timestamp) : Hosted Address := do
  Hosted.ofDeploy (Deploy.emit (callingEvent d.entrypoint t))
  d.sandbox.invokeOn d.entrypoint t

def answerOn (d : ModuleDeployer) : Call → Engine → Log.Logged Answer × Engine
  | .deploy t => (d.deployOn t).answer .address
  | .schemas => d.sandbox.schemasOn.answer .schemas

structure Session where
  deployer : ModuleDeployer
  engine : Engine

namespace Session

def start (d : ModuleDeployer) : Session := ⟨d, .empty⟩

def answer : Request → StateM Session (Log.Logged Answer)
  | .call c => fun s =>
    let (a, engine) := s.deployer.answerOn c s.engine
    (a, { s with engine := engine })
  | .entrypoint name => fun s =>
    (⟨.accepted, []⟩, { s with deployer := { s.deployer with entrypoint := name } })

end Session

/-- Compiles a module file for a deployer and answers requests one after the other. -/
def answers (c : Compiler) (file : Bytes) (limits : Limits) (fuel : Nat) (entrypoint : String)
    (rs : List Request) : Except Failure (List (Log.Logged Answer)) :=
  (c.compile file).outcome.value.map fun s =>
    ((rs.mapM Session.answer).run
      (.start ⟨{ s with limits := limits, fuel := fuel }, entrypoint⟩)).1

end DeployTrigger.ModuleDeployer
