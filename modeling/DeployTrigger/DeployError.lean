import DeployTrigger.IoError
import DeployTrigger.ModuleError
import DeployTrigger.Time.Duration

/-! Why a deployment gives no address. -/
namespace DeployTrigger

inductive DeployError where
  /-- The file of the module cannot be read. -/
  | unreadable (error : IoError)
  | invalidModule (detail : String)
  | instantiation (detail : String)
  | missingExport (detail : String)
  | trapped (detail : String)
  /-- The module gave up by itself. -/
  | aborted (reason : ModuleError)
  | invalidAddress (detail : String)
  | invalidSchemas (detail : String)
  | timeout (limit : Duration)
  /-- The worker that ran the module broke down. -/
  | worker (detail : String)
  deriving DecidableEq, Repr

def DeployError.message : DeployError → String
  | unreadable e => "Failed to read module: " ++ e.message
  | invalidModule detail => "Invalid wasm module: " ++ detail
  | instantiation detail => "Module instantiation failed: " ++ detail
  | missingExport detail => "Missing or mistyped module export: " ++ detail
  | trapped detail => "Module trapped: " ++ detail
  | aborted reason => "Module aborted: " ++ reason.message
  | invalidAddress detail => "Invalid address returned by module: " ++ detail
  | invalidSchemas detail => "Invalid schemas document returned by module: " ++ detail
  | timeout limit => "Deployment did not complete within " ++ limit.short
  | worker detail => "Deployment worker failed: " ++ detail

end DeployTrigger
