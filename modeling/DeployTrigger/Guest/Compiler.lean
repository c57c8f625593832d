import DeployTrigger.Guest.Sandbox
import DeployTrigger.Text.Quoted

/-!
Compiling module files. How a file is read, in binary form or as text, is left to a compiler; what is
relied on is that the modules it gives are valid.
-/
namespace DeployTrigger.Guest

structure Compiler where
  /-- The module of a file, or what is wrong with the file. -/
  module (file : Bytes) : Except String Module
  valid {file : Bytes} {m : Module} (h : module file = .ok m) : m.isValid = true

namespace Compiler

/-- The compiler that reads files in a certain way and refuses modules that are not valid. -/
def checking (read : Bytes → Except String Module) : Compiler where
  module file := read file >>= fun m => if m.isValid then .ok m else .error "invalid module"
  valid {file m} h := by
    cases hread : read file with
    | error text =>
      rw [hread] at h
      cases h
    | ok read =>
      rw [hread] at h
      change (if read.isValid then Except.ok read else _) = .ok m at h
      split at h
      · rename_i hvalid
        cases h
        exact hvalid
      · cases h

theorem module_checking {read : Bytes → Except String Module} {file : Bytes} {m : Module}
    (h : read file = .ok m) (hv : m.isValid = true) : (checking read).module file = .ok m := by
  simp only [checking, h]
  exact if_pos hv

/-- The event that tells what was compiled. -/
def compiledEvent (m : Module) : Log.Event :=
  ⟨.debug, .host, "compiled module " ++ m.name.getD "<unnamed>" ++ " with exports: [" ++
    ", ".intercalate (m.exports.map (Quoted.quote ·.1)) ++ "]"⟩

/-- Compiles a file under the default limits. -/
def compile (c : Compiler) (file : Bytes) : Deploy Sandbox :=
  match h : c.module file with
  | .error text => Deploy.fail (.invalidModule text)
  | .ok m => do
    Deploy.emit (compiledEvent m)
    pure ⟨m, c.valid h, {}, defaultFuel⟩

end Compiler
end DeployTrigger.Guest
