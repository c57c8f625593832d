import DeployTrigger.CommandLine.Switch

/-! What the program says about itself. -/
namespace DeployTrigger.CommandLine

/-- The number of this version. -/
def versionNumber : String := "0.1.0"

/-- Name and version. -/
def versionLine : String := "rensa-deployer " ++ versionNumber

/-- What a switch is for. -/
def Switch.purpose : Switch → String
  | config => "path to a JSON config file"
  | entrypoint => "name of the exported deployment entrypoint"
  | timeout => "seconds to wait for the deployment before giving up"
  | instant => "deploy as if the current time was this RFC 3339 instant"
  | schemas => "print the contract schemas published by the module and exit"
  | verbose => "Use verbose output (-vv very verbose output)"
  | help => "Print help information"
  | version => "Print version information"

/-- A text with blanks behind it up to a width. -/
def padded (width : Nat) (s : String) : String := String.ofList (s.toList.rightpad width ' ')

/-- A column as wide as the widest usage. -/
def usageWidth : Nat := (Switch.all.map fun s => s.usage.length).foldl max 0

def Switch.helpLine (s : Switch) : String :=
  let short := match s.short? with
    | some c => "-" ++ String.singleton c ++ ", "
    | none => "    "
  "    " ++ short ++ padded usageWidth s.usage ++ "    " ++ s.purpose

def helpText : String :=
  String.intercalate "\n" ([versionLine,
    "Runs the contract deployment entrypoint of a wasm module",
    "",
    "USAGE:",
    "    rensa-deployer [OPTIONS] <MODULE>",
    "",
    "ARGS:",
    "    <MODULE>    path to the deployer wasm module",
    "",
    "OPTIONS:"] ++ Switch.all.map Switch.helpLine)

end DeployTrigger.CommandLine
