/-! The switches of the command line: what they are called and whether they take a value. -/
namespace DeployTrigger.CommandLine

inductive Switch where
  | config
  | entrypoint
  | timeout
  /-- The instant to deploy at. -/
  | instant
  | schemas
  | verbose
  | help
  | version
  deriving DecidableEq, Repr

namespace Switch

/-- All switches, by their long names. -/
def all : List Switch :=
  [instant, config, entrypoint, help, schemas, timeout, verbose, version]

/-- The name behind two dashes. -/
def long : Switch → String
  | config => "config"
  | entrypoint => "entrypoint"
  | timeout => "timeout"
  | instant => "at"
  | schemas => "schemas"
  | verbose => "verbose"
  | help => "help"
  | version => "version"

/-- The letter behind one dash. -/
def short? : Switch → Option Char
  | config => some 'c'
  | entrypoint => some 'e'
  | timeout => some 't'
  | verbose => some 'v'
  | help => some 'h'
  | version => some 'V'
  | instant | schemas => none

/-- What stands for the value in texts, if there is a value. -/
def placeholder? : Switch → Option String
  | config => some "CONFIG"
  | entrypoint => some "ENTRYPOINT"
  | timeout => some "TIMEOUT"
  | instant => some "AT"
  | schemas | verbose | help | version => none

def takesValue (s : Switch) : Bool := s.placeholder?.isSome

/-- Paths may be any bytes, other values are text. -/
def takesText (s : Switch) : Bool := s.takesValue && s ≠ config

/-- The long name with the placeholder. -/
def usage (s : Switch) : String :=
  match s.placeholder? with
  | some p => "--" ++ s.long ++ " <" ++ p ++ ">"
  | none => "--" ++ s.long

def ofLong? (name : String) : Option Switch := all.find? (·.long = name)

def ofShort? (c : Char) : Option Switch := all.find? (·.short? = some c)

theorem ofShort?_short {s : Switch} {c : Char} (h : s.short? = some c) : ofShort? c = some s := by
  cases s <;> cases h <;> decide

end Switch
end DeployTrigger.CommandLine
