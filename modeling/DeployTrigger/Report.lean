import DeployTrigger.TriggerError

/-! Failures as the program reports them: what happened, and what brought it about. -/
namespace DeployTrigger

structure Report where
  message : String
  cause : Option String := none
  deriving DecidableEq, Repr

namespace Report

def ofIoError (e : IoError) : Report := ⟨e.message, e.cause⟩

def ofDeployError (e : DeployError) : Report :=
  match e with
  | .unreadable cause => ⟨e.message, some cause.message⟩
  | _ => ⟨e.message, none⟩

def ofTriggerError (e : TriggerError) : Report :=
  match e with
  | .clock _ => ⟨e.message, none⟩
  | .deploy cause => ⟨e.message, some cause.message⟩
  | .report cause => ⟨e.message, some cause.message⟩

/-- A text whose lines start further right. -/
def indented (s : String) : String :=
  String.ofList ("    ".toList ++
    s.toList.flatMap fun c => if c = '\n' then '\n' :: "    ".toList else [c])

def text (r : Report) : String :=
  "Error: " ++ r.message ++
    match r.cause with
    | some cause => "\n\nCaused by:\n" ++ indented cause
    | none => ""

end Report
end DeployTrigger
