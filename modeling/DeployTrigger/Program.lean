import DeployTrigger.CommandLine.Help
import DeployTrigger.CommandLine.Options
import DeployTrigger.Config.Description
import DeployTrigger.Log.Filter
import DeployTrigger.ModuleDeployer
import DeployTrigger.Report
import DeployTrigger.Trigger

/-!
The program. It settles its options and settings, loads the module, and then either publishes the
schemas of the module or lets the trigger run on the standard output. The log has no part in that:
a filter selects from it what is shown.
-/
namespace DeployTrigger.Program

open CommandLine (Options)

/-- How the work of the program ends. -/
inductive Ending where
  | success
  | failure (report : Report)
  | breakdown
  /-- The work does not come to an end. -/
  | unfinished
  deriving DecidableEq, Repr

/-- The exit code, if the program comes to an end. -/
def Ending.code : Ending → Option Nat
  | success => some 0
  | failure _ => some 1
  | breakdown => some 101
  | unfinished => none

/-- What is said about the end on the error stream. Of a breakdown it is no more than what it is. -/
def Ending.message : Ending → String
  | failure report => report.text
  | breakdown => "panic"
  | success | unfinished => ""

/-- What the work of the program leaves behind. -/
structure Outcome where
  ending : Ending
  output : Bytes
  events : List Log.Event
  deriving DecidableEq, Repr

/-- Logged work on which the end of the program may depend. -/
abbrev Work := ExceptT Ending Log.Logged

def Work.emit (level : Log.Level) (message : String) : Work Unit :=
  ExceptT.lift (Log.Logged.emit ⟨level, .program, message⟩)

def Ending.ofFault : Fault IoError → Ending
  | .error e => failure (.ofIoError e)
  | .breakdown => breakdown

def Ending.ofFailure : Failure → Ending
  | .error e => failure (.ofDeployError e)
  | .unfinished => unfinished

def Work.ofSettings {α : Type} (x : Except (Fault IoError) α) : Work α :=
  ExceptT.mk (pure (x.mapError Ending.ofFault))

def Work.ofDeploy {α : Type} (x : Deploy α) : Work α :=
  ExceptT.mk ((Except.mapError Ending.ofFailure) <$> x.outcome)

/-- The first part of the work: the settings, and the deployer that they ask for. -/
def prepare (c : Guest.Compiler) (w : World) (o : Options) : Work (Config × ModuleDeployer) := do
  Work.emit .info "Starting Rensa deployer"
  Work.emit .info ("Version: " ++ CommandLine.versionNumber)
  let config ← Work.ofSettings (o.settings w)
  Work.emit .debug ("Config: " ++ config.described)
  let path ← Work.ofSettings (o.modulePath w)
  let deployer ← Work.ofDeploy (ModuleDeployer.load c w (utf8 path) config.limits)
  pure (config, { deployer with entrypoint := config.entrypoint })

/-- Prints the schemas of a module. -/
def publish (d : ModuleDeployer) : Outcome :=
  let r := d.schemas.outcome
  match r.value with
  | .ok (some document) => ⟨.success, utf8 (document ++ "\n"), r.events⟩
  | .ok none => ⟨.failure ⟨"module does not export contract schemas", none⟩, [], r.events⟩
  | .error e => ⟨.ofFailure e, [], r.events⟩

/-- Lets the trigger run once. If the call of the module ends, it takes as long as `delay` says. -/
def deploy (d : ModuleDeployer) (timeout : Option Duration) (clock : Clock)
    (delay : Option Duration) : Outcome :=
  let t : Trigger (Supply (Option Duration)) := ⟨d.toDeployer, timeout⟩
  let r := t.run clock (.always delay) Sink.unbounded
  let ending := match r.result with
    | none => Ending.unfinished
    | some (.ok _) => .success
    | some (.error e) => .failure (.ofTriggerError e)
  ⟨ending, r.sink.written, r.events⟩

/-- How a call of the module goes. -/
structure Pace where
  /-- A call that takes more steps counts as endless. -/
  steps : Nat := Guest.defaultFuel
  /-- How long a call takes that ends; absent if it is over when it is first waited for. -/
  delay : Option Duration := none

/-- All the work, `system` being the clock to go by unless an instant is given. -/
def run (c : Guest.Compiler) (w : World) (system : Clock) (o : Options) (pace : Pace := {}) : Outcome :=
  let r := (prepare c w o).run
  match r.value with
  | .error ending => ⟨ending, [], r.events⟩
  | .ok (config, d) =>
    let d := d.within pace.steps
    let rest := if o.schemas then publish d else deploy d config.timeout (o.clock system) pace.delay
    { rest with events := r.events ++ rest.events }

/-- The last level that is logged. -/
def logLevel (verbosity : Nat) : Log.Level :=
  match verbosity with
  | 1 => .debug
  | 2 => .trace
  | _ => .info

/-- The environment variable with the directives for the log. -/
def filterVariable : String := "RUST_LOG"

/-- The filter of the log: that of the environment if there is a valid one, otherwise by verbosity. It
is absent if the program breaks down on it. -/
def filter? (w : World) (verbosity : Nat) : Option Log.Filter :=
  match ((w.env? filterVariable).bind Utf8.decode?).map Log.Filter.read with
  | some (.ok filter) => some filter
  | some (.error .breakdown) => none
  | some (.error (.error ())) | none => some (.upTo (logLevel verbosity))

/-- What is seen of the program from outside. -/
structure Session where
  /-- The exit code; absent if the program does not come to an end. -/
  code : Option Nat
  output : Bytes
  log : List Log.Event
  /-- What stands on the error stream besides the log. -/
  message : String
  deriving DecidableEq, Repr

/-- The work, as it is seen through a filter. -/
def Outcome.seenThrough (r : Outcome) (filter : Log.Filter) : Session :=
  ⟨r.ending.code, r.output, filter.select r.events, r.ending.message⟩

/-- A call of the program with the given arguments. -/
def session (c : Guest.Compiler) (w : World) (system : Clock) (args : List Bytes)
    (pace : Pace := {}) : Session :=
  match Options.ofArguments args with
  | .error .help => ⟨some 0, utf8 (CommandLine.helpText ++ "\n"), [], ""⟩
  | .error .version => ⟨some 0, utf8 (CommandLine.versionLine ++ "\n"), [], ""⟩
  | .error (.misuse e) => ⟨some 2, [], [], e.headline⟩
  | .ok o =>
    match filter? w o.verbosity with
    | some filter => (run c w system o pace).seenThrough filter
    | none => ⟨Ending.breakdown.code, [], [], Ending.breakdown.message⟩

end DeployTrigger.Program
