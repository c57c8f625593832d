import DeployTrigger.Address
import DeployTrigger.DeployError
import DeployTrigger.Log.Logged

/-!
Deployments under way. A call of a module fails with an error or does not come to an end; an
attempt resolves at once, after a delay, or never.
-/
namespace DeployTrigger

/-- Why a call of a module gives no value. -/
inductive Failure where
  | error (e : DeployError)
  /-- The call does not come to an end. -/
  | unfinished
  deriving DecidableEq, Repr

/-- Logged work that may fail. -/
abbrev Deploy := ExceptT Failure Log.Logged

namespace Deploy

def emit (e : Log.Event) : Deploy Unit := ExceptT.lift (Log.Logged.emit e)

def fail {α : Type} (e : DeployError) : Deploy α := throw (.error e)

/-- What the work ends with and what it logs. -/
def outcome {α : Type} (x : Deploy α) : Log.Logged (Except Failure α) := ExceptT.run x

end Deploy

/-- What becomes of a deployment that was asked for. -/
inductive Attempt where
  | ready (result : Except DeployError Address)
  | delayed (delay : Duration) (result : Except DeployError Address)
  | never
  deriving Repr

namespace Attempt

/-- A result that is there after a delay, or at once if there is none. -/
def after (delay : Option Duration) (result : Except DeployError Address) : Attempt :=
  match delay with
  | none => ready result
  | some delay => delayed delay result

/-- A call that takes a while if it ends. -/
def ofOutcome (delay : Option Duration) : Except Failure Address → Attempt
  | .ok a => after delay (.ok a)
  | .error (.error e) => after delay (.error e)
  | .error .unfinished => never

/-- What an attempt gives when one waits no longer than `limit`; nothing is waited for forever.
What is ready at once is in time for every limit. -/
def within (limit : Option Duration) : Attempt → Option (Except DeployError Address)
  | ready result => some result
  | delayed delay result =>
    match limit with
    | none => some result
    | some limit =>
      if delay.toNanos < limit.toNanos then some result else some (.error (.timeout limit))
  | never => limit.map fun limit => .error (.timeout limit)

end Attempt
end DeployTrigger
