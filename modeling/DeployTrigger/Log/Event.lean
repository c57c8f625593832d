/-! Log events: how grave they are, who speaks and what is said. -/
namespace DeployTrigger.Log

inductive Level where
  | error | warn | info | debug | trace
  deriving DecidableEq, Repr

/-- A higher number is said less often. -/
def Level.rank : Level → Nat
  | error => 1
  | warn => 2
  | info => 3
  | debug => 4
  | trace => 5

def Level.name : Level → String
  | error => "ERROR"
  | warn => "WARN"
  | info => "INFO"
  | debug => "DEBUG"
  | trace => "TRACE"

/-- Parts of the system that log. -/
inductive Source where
  /-- The program as a whole. -/
  | program
  | trigger
  | deployer
  /-- The host that calls modules. -/
  | host
  /-- The functions that modules import. -/
  | imports
  /-- The module that is run. -/
  | module
  deriving DecidableEq, Repr

/-- The name under which a part logs; filters match its beginning. -/
def Source.target : Source → String
  | program => "rensa_deployer"
  | trigger => "rensa_deployer::trigger"
  | deployer => "rensa_deployer::deployer"
  | host => "rensa_deployer::vm::runtime"
  | imports => "rensa_deployer::vm::host"
  | module => "module"

structure Event where
  level : Level
  source : Source
  message : String
  deriving DecidableEq, Repr

def Event.line (e : Event) : String := e.level.name ++ " " ++ e.source.target ++ ": " ++ e.message

end DeployTrigger.Log
