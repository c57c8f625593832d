import DeployTrigger.CommandLine.Switch
import DeployTrigger.Text.Quoted

/-! What can be wrong with the arguments of the program. -/
namespace DeployTrigger.CommandLine

inductive UsageError where
  | unknown (argument : String)
  /-- A value attached to a switch that takes none. -/
  | unwantedValue (s : Switch) (value : String)
  /-- A value that has to be text and is none. -/
  | notText
  | missingValue (s : Switch)
  | missingModule
  | invalidValue (s : Switch) (value : String) (reason : String)
  | repeated (s : Switch)
  deriving DecidableEq, Repr

namespace UsageError

def message : UsageError → String
  | unknown argument =>
    "error: Found argument '" ++ argument ++
      "' which wasn't expected, or isn't valid in this context"
  | unwantedValue s value =>
    "error: The value '" ++ value ++ "' was provided to '" ++ s.usage ++
      "' but it wasn't expecting any more values"
  | notText => "error: Invalid UTF-8 was detected in one or more arguments"
  | missingValue s =>
    "error: The argument '" ++ s.usage ++ "' requires a value but none was supplied"
  | missingModule => "error: The following required arguments were not provided:"
  | invalidValue s value reason =>
    "error: Invalid value " ++ Quoted.quote value ++ " for '" ++ s.usage ++ "': " ++ reason
  | repeated s =>
    "error: The argument '" ++ s.usage ++
      "' was provided more than once, but cannot be used multiple times"

/-- The first line of the message; arguments may hold line breaks. -/
def headline (e : UsageError) : String := String.ofList (e.message.toList.takeWhile (· ≠ '\n'))

end UsageError

/-- What ends the program before it does its work. -/
inductive Stop where
  | help
  | version
  | misuse (error : UsageError)
  deriving DecidableEq, Repr

end DeployTrigger.CommandLine
