import DeployTrigger.Config
import DeployTrigger.Text.Quoted

/-! Settings as the log shows them, one to a line. -/
namespace DeployTrigger.Config

/-- The settings in full, nested ones indented. -/
def described (c : Config) : String :=
  let timeout := match c.timeout with
    | none => "None"
    | some d => "Some(\n        " ++ d.short ++ ",\n    )"
  "Config \x7b\n" ++
    "    entrypoint: " ++ Quoted.quote c.entrypoint ++ ",\n" ++
    "    timeout: " ++ timeout ++ ",\n" ++
    "    limits: Limits \x7b\n" ++
    "        max_address_len: " ++ decimal c.limits.maxAddressLen.toNat ++ ",\n" ++
    "        max_schemas_len: " ++ decimal c.limits.maxSchemasLen.toNat ++ ",\n" ++
    "    \x7d,\n" ++
    "\x7d"

end DeployTrigger.Config
