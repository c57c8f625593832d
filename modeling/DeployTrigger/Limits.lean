/-! Bounds on the values that are read back from a module. -/
namespace DeployTrigger

structure Limits where
  /-- Most bytes of an address. -/
  maxAddressLen : UInt64 := 1024
  /-- Most bytes of a schemas document. -/
  maxSchemasLen : UInt64 := 1048576
  deriving DecidableEq, Repr

end DeployTrigger
