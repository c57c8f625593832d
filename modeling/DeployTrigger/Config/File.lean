import DeployTrigger.Config.Document
import DeployTrigger.PathExpansion

/-! Settings in files. -/
namespace DeployTrigger.Config

/-- The settings in the file at a path, which is expanded first. -/
def ofFile (w : World) (path : Bytes) : Except (Fault IoError) Config := do
  let path ← expandPath w path
  match w.readText (utf8 path) with
  | .error e => throw (.error e)
  | .ok text =>
    match ofDocument text with
    | .ok config => pure config
    | .error e => throw (e.map Json.Error.toIoError)

end DeployTrigger.Config
