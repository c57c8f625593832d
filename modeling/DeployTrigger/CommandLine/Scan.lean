import DeployTrigger.CommandLine.Argument
import DeployTrigger.CommandLine.UsageError

/-!
One pass over the arguments that sorts them into switches with their values and the module path. A
switch stays open until the next argument that is not its value, and only then is its value looked
at: whatever is wrong with that argument is reported first.
-/
namespace DeployTrigger.CommandLine

structure Scan where
  module : Option Bytes := none
  /-- The switches so far, with their values. -/
  found : List (Switch × Option Bytes) := []
  /-- The last switch, while it is open. -/
  current : Option (Switch × Option Bytes) := none
  /-- Whether all further arguments are plain. -/
  separated : Bool := false
  deriving DecidableEq, Repr

namespace Scan

def misuse {α : Type} (e : UsageError) : Except Stop α := .error (.misuse e)

/-- Adds a switch with its value. -/
def add (s : Scan) (k : Switch) (value : Option Bytes) : Except Stop Scan :=
  if k.takesText && (value.bind Utf8.decode?).isNone && value.isSome then misuse .notText
  else .ok { s with found := s.found ++ [(k, value)] }

/-- Closes the open switch. -/
def settle (s : Scan) : Except Stop Scan :=
  match s.current with
  | some (k, value) => { s with current := none }.add k value
  | none => .ok s

def mention (s : Scan) : Mention → Except Stop Scan
  | .unknown name => misuse (.unknown name)
  | .switch k (some value) =>
    if k.takesValue then do (← s.settle).add k (some value)
    else misuse (.unwantedValue k (Utf8.lossy value))
  | .switch k none => do
    let s ← s.settle
    match k with
    | .help => .error .help
    | .version => .error .version
    | _ => if k.takesValue then .ok { s with current := some (k, none) } else s.add k none

/-- Takes an argument that is not the value of a switch. -/
def positional (s : Scan) (b : Bytes) : Except Stop Scan :=
  match s.module with
  | some _ => misuse (.unknown (Utf8.lossy b))
  | none => do pure { ← s.settle with module := some b }

def argument (s : Scan) (b : Bytes) : Except Stop Scan :=
  if s.separated then s.positional b
  else
    match Argument.ofBytes b with
    | .separator => .ok { s with separated := true }
    | .switches mentions => mentions.foldlM mention s
    | .plain b =>
      match s.current with
      | some (k, none) => .ok { s with current := some (k, some b) }
      | _ => s.positional b

/-- The values that a switch was given. -/
def values (s : Scan) (k : Switch) : List Bytes :=
  s.found.filterMap fun f => if f.1 = k then f.2 else none

def count (s : Scan) (k : Switch) : Nat := s.found.countP (·.1 = k)

/-- Closes the scan. A switch at the very end has to have a value. -/
def finish (s : Scan) : Except Stop Scan := do
  let closed ← s.settle
  match s.current with
  | some (k, none) => if (closed.values k).isEmpty then misuse (.missingValue k) else pure closed
  | _ => pure closed

/-- What the arguments of a program amount to. -/
def ofArguments (args : List Bytes) : Except Stop Scan := do (← args.foldlM argument {}).finish

end Scan
end DeployTrigger.CommandLine
