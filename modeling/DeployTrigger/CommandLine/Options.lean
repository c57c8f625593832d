import DeployTrigger.Clock
import DeployTrigger.CommandLine.Scan
import DeployTrigger.Config.File
import DeployTrigger.Text.WordNumeral
import DeployTrigger.Time.Rfc3339.Reader

/-! The options of the program, and the settings that they make up together with a file. -/
namespace DeployTrigger.CommandLine

structure Options where
  /-- The path of the module. -/
  module : Bytes
  /-- The path of a file with settings. -/
  config : Option Bytes
  entrypoint : Option String
  /-- How many seconds to wait for the deployment. -/
  timeout : Option UInt64
  /-- The instant to deploy at, instead of the current one. -/
  instant : Option Instant
  /-- Whether only the schemas are asked for. -/
  schemas : Bool
  verbosity : Nat
  deriving DecidableEq, Repr

namespace Options

/-- What is wrong with a value of a switch. -/
def flaw? (k : Switch) (value : String) : Option String :=
  match k with
  | .timeout =>
    match WordNumeral.read value with
    | .ok _ => none
    | .error e => some e.message
  | .instant =>
    match Rfc3339.read value with
    | .ok _ => none
    | .error e => some e.message
  | _ => none

def checkValue (k : Switch) (b : Bytes) : Except Stop Unit :=
  match flaw? k (Utf8.lossy b) with
  | some reason => Scan.misuse (.invalidValue k (Utf8.lossy b) reason)
  | none => .ok ()

/-- Checks all occurrences of a switch. Only the verbosity may be repeated. -/
def checkSwitch (s : Scan) (k : Switch) : Except Stop Unit := do
  if k.takesValue && (s.values k).isEmpty then Scan.misuse (.missingValue k)
  (s.values k).forM (checkValue k)
  if k ≠ .verbose && 1 < s.count k then Scan.misuse (.repeated k)

/-- The options in a finished scan. Switches are checked in the order of their first occurrence. -/
def ofScan (s : Scan) : Except Stop Options := do
  match s.module with
  | none => Scan.misuse .missingModule
  | some module =>
    (s.found.map (·.1)).eraseDups.forM (checkSwitch s)
    let text? (k : Switch) : Option String := (s.values k).head?.map Utf8.lossy
    pure {
      module := module
      config := (s.values .config).head?
      entrypoint := text? .entrypoint
      timeout := (text? .timeout).bind fun t => (WordNumeral.read t).toOption
      instant := (text? .instant).bind fun t => (Rfc3339.read t).toOption
      schemas := 0 < s.count .schemas
      verbosity := s.count .verbose }

/-- The options that the arguments of the program stand for. -/
def ofArguments (args : List Bytes) : Except Stop Options := do ofScan (← Scan.ofArguments args)

/-- The module path, expanded. -/
def modulePath (o : Options) (w : World) : Except (Fault IoError) String := expandPath w o.module

/-- The settings: those of the file, or else the defaults, with those of the command line in place
of them. -/
def settings (o : Options) (w : World) : Except (Fault IoError) Config := do
  let base ← match o.config with
    | some path => Config.ofFile w path
    | none => pure {}
  pure { base with
    entrypoint := o.entrypoint.getD base.entrypoint
    timeout := (o.timeout.map Duration.ofSeconds).or base.timeout }

/-- The files that the program is going to look for, as far as their paths expand. -/
def files (o : Options) (w : World) : List String :=
  (o.module :: o.config.toList).filterMap fun path => (expandPath w path).toOption

/-- The clock to deploy by, `system` being the current time. -/
def clock (o : Options) (system : Clock) : Clock := (o.instant.map Clock.fixed).getD system

end Options
end DeployTrigger.CommandLine
