import DeployTrigger.Log.Terminal
import DeployTrigger.Program
import Std.Time.DateTime.Timestamp

/-!
The program on the command line, for a given compiler: what it finds is gathered first, and what it
says is written last.
-/
namespace DeployTrigger

/-- A failure of the system, as far as its kind is told apart here. -/
def IoError.ofSystem : IO.Error → IoError
  | .noFileOrDirectory .. => .notFound
  | .inappropriateType .. => .isADirectory
  | .permissionDenied .. => .system .permissionDenied "Permission denied" 13
  | e => ⟨.other, toString e, none⟩

/-- What is found at a path. -/
def gatherFile (path : String) : IO (Bytes × Except IoError Bytes) := do
  try
    let content ← IO.FS.readBinFile path
    pure (utf8 path, .ok content.data.toList)
  catch e => pure (utf8 path, .error (.ofSystem e))

/-- A variable of the environment, if it is set. -/
def gatherVariable (name : String) : IO (List (String × Bytes)) := do
  pure ((← IO.getEnv name).toList.map fun value => (name, utf8 value))

/-- The environment and the files that the arguments ask for. -/
def gatherWorld (args : List String) : IO World := do
  let names := "HOME" :: Program.filterVariable :: args.flatMap PathExpansion.names
  let env := (← names.mapM gatherVariable).flatten
  let known : World := { World.bare with env := env }
  let paths := match CommandLine.Options.ofArguments (args.map utf8) with
    | .ok o => o.files known
    | .error _ => []
  pure { known with files := World.filesAt (← paths.mapM gatherFile) }

/-- The current time. -/
def currentTime : IO Instant := do
  let nanos := (← Std.Time.Timestamp.now).toNanosecondsSinceUnixEpoch.toInt
  pure ((Instant.ofSeconds? (nanos / 1000000000) (nanos % 1000000000).toNat).getD .epoch)

/-- Runs the program and gives its exit code. -/
def execute (c : Guest.Compiler) (args : List String) : IO UInt32 := do
  let s := Program.session c (← gatherWorld args) (.fixed (← currentTime)) (args.map utf8)
  let errors ← IO.getStderr
  for e in s.log do errors.putStrLn e.forTerminal.line
  let output ← IO.getStdout
  output.write s.output.toByteArray
  output.flush
  if s.message ≠ "" then errors.putStrLn s.message
  pure (UInt32.ofNat (s.code.getD 1))

end DeployTrigger
