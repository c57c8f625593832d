import DeployTrigger.IoError
import DeployTrigger.Text.Utf8

/-!
What a run of the program finds: files and environment variables. What lies at which path is left
open, be it below the working directory or not, and so is why a file cannot be read.
-/
namespace DeployTrigger

structure World where
  /-- The content of the file that a path leads to. -/
  files : Bytes → Except IoError Bytes
  env : List (String × Bytes)
  /-- The home directory of the account, for want of one in the environment. -/
  accountHome : Option Bytes

namespace World

/-- Files at some paths, and nothing anywhere else. -/
def filesAt (found : List (Bytes × Except IoError Bytes)) (path : Bytes) : Except IoError Bytes :=
  (found.lookup path).getD (.error .notFound)

/-- The world in which nothing is found. -/
def bare : World := ⟨filesAt [], [], none⟩

def env? (w : World) (name : String) : Option Bytes := w.env.lookup name

/-- The content of a file. Paths with a zero byte are not even looked for. -/
def read (w : World) (path : Bytes) : Except IoError Bytes :=
  if path.contains 0 then .error .zeroByte else w.files path

/-- The content of a file as text. -/
def readText (w : World) (path : Bytes) : Except IoError String :=
  match w.read path with
  | .ok content =>
    match Utf8.decode? content with
    | some s => .ok s
    | none => .error .notText
  | .error e => .error e

end World
end DeployTrigger
