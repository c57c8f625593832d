import DeployTrigger.Text.Quoted

/-! What a deployer module reports about itself when it gives up. -/
namespace DeployTrigger

inductive ModuleError where
  | invalidTimestamp
  | unavailable (text : String)
  | rejected (text : String)
  | other (text : String)
  deriving DecidableEq, Repr

namespace ModuleError

def message : ModuleError → String
  | invalidTimestamp => "Invalid deployment timestamp"
  | unavailable text => "Deployment target unavailable: " ++ text
  | rejected text => "Deployment rejected: " ++ text
  | other text => text

def name : ModuleError → String
  | invalidTimestamp => "InvalidTimestamp"
  | unavailable _ => "Unavailable"
  | rejected _ => "Rejected"
  | other _ => "Other"

def text? : ModuleError → Option String
  | invalidTimestamp => none
  | unavailable text | rejected text | other text => some text

/-- The name of the reason with its text in quotes. -/
def labelled (e : ModuleError) : String :=
  match e.text? with
  | none => e.name
  | some text => e.name ++ "(" ++ Quoted.quote text ++ ")"

end ModuleError
end DeployTrigger
