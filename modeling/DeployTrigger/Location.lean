import DeployTrigger.Text.Numeral

/-! Ranges of a memory, and the words in which modules hand them over. -/
namespace DeployTrigger

/-- A range of memory: where it starts and how long it is. -/
structure Location where
  start : UInt32
  length : UInt32
  deriving DecidableEq, Repr

namespace Location

/-- The range that a word stands for, the start being in the upper half. -/
def unpack (w : UInt64) : Location := ⟨(w >>> 32).toUInt32, w.toUInt32⟩

theorem start_unpack (w : UInt64) : (unpack w).start.toNat = w.toNat / UInt32.size := by
  have hlt := w.toNat_lt
  have hstart : w.toNat / UInt32.size < UInt32.size := by
    rw [UInt32.size]
    omega
  rw [unpack, UInt64.toNat_toUInt32, UInt64.toNat_shiftRight, Nat.shiftRight_eq_div_pow]
  exact Nat.mod_eq_of_lt hstart

theorem length_unpack (w : UInt64) : (unpack w).length.toNat = w.toNat % UInt32.size :=
  w.toNat_toUInt32

/-- Start and length joined by a plus sign. -/
def shown (r : Location) : String := decimal r.start.toNat ++ "+" ++ decimal r.length.toNat

end Location

end DeployTrigger
