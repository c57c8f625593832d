import DeployTrigger.Kit.Export

/-!
A minimal module: its address is the timestamp in hexadecimal. The epoch itself is refused.
-/
namespace DeployTrigger.Sample.Echo

open Kit

/-- Upper-case hexadecimal numeral. -/
def hex (n : Nat) : String := String.ofList ((Nat.toDigits 16 n).map Char.toUpper)

def deploy (timestamp : UInt64) : Except Reason String :=
  if timestamp = 0 then .error .invalidTimestamp else .ok ("0x" ++ hex timestamp.toNat)

/-- The exported entrypoint, which leaves the address at `start`. -/
def deployContract (start timestamp : UInt64) : Except Reason UInt64 :=
  exported (fun t => utf8 <$> deploy t) start timestamp

/-- The document that the module publishes. -/
def schemas : String :=
  "\x7b\n  \"contracts\": [\n    \x7b\n      \"name\": \"Echo\",\n" ++
  "      \"entrypoint\": \"deploy_contract\",\n" ++
  "      \"args\": [\x7b \"name\": \"timestamp\", \"type\": \"u64\" \x7d],\n" ++
  "      \"returns\": \"string\"\n    \x7d\n  ]\n\x7d\n"

/-- The exported schemas function, which leaves the document at `start`. -/
def exportedSchemas (start : UInt64) : UInt64 := packBytes start (utf8 schemas)

end DeployTrigger.Sample.Echo
