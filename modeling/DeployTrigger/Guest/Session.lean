import DeployTrigger.Guest.Compiler
import DeployTrigger.Guest.Engine

/-!
Sessions: what is asked of a compiled module one after the other, and how it is answered. All calls
of a session are made on one engine; limits hold from the request on that sets them.
-/
namespace DeployTrigger.Guest

inductive Call where
  | invoke (entrypoint : String) (t : Timestamp)
  | schemas

inductive Request where
  | call (c : Call)
  /-- Sets the limits. -/
  | limits (limits : Limits)

inductive Answer where
  | address (result : Except Failure Address)
  | schemas (result : Except Failure (Option String))
  /-- A setting is accepted. -/
  | accepted

/-- The answer that work on an engine gives, and the engine afterwards. -/
def Hosted.answer {α : Type} (x : Hosted α) (toAnswer : Except Failure α → Answer) (e : Engine) :
    Log.Logged Answer × Engine :=
  let r := x.outcome e
  (⟨toAnswer r.value.1, r.events⟩, r.value.2)

def Sandbox.answerOn (s : Sandbox) : Call → Engine → Log.Logged Answer × Engine
  | .invoke entrypoint t => (s.invokeOn entrypoint t).answer .address
  | .schemas => s.schemasOn.answer .schemas

structure Session where
  sandbox : Sandbox
  engine : Engine

namespace Session

def start (s : Sandbox) : Session := ⟨s, .empty⟩

def answer : Request → StateM Session (Log.Logged Answer)
  | .call c => fun s =>
    let (a, engine) := s.sandbox.answerOn c s.engine
    (a, { s with engine := engine })
  | .limits l => fun s => (⟨.accepted, []⟩, { s with sandbox := { s.sandbox with limits := l } })

end Session

/-- Compiles a module file and answers requests one after the other. -/
def Compiler.answers (c : Compiler) (file : Bytes) (limits : Limits) (fuel : Nat)
    (rs : List Request) : Except Failure (List (Log.Logged Answer)) :=
  (c.compile file).outcome.value.map fun s =>
    ((rs.mapM Session.answer).run (.start { s with limits := limits, fuel := fuel })).1

end DeployTrigger.Guest
