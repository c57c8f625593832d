import DeployTrigger.Kit.Reason
import DeployTrigger.Location

/-!
How module authors hand values to the host: bytes are left somewhere in memory and their location
is returned as one word. An entrypoint returns the location of an address or gives up with a reason.
-/
namespace DeployTrigger.Kit

/-- A location as one word, the start in the upper half. -/
def pack (start length : UInt64) : UInt64 := (start <<< 32) ||| length

theorem toNat_pack (start length : UInt32) :
    (pack start.toUInt64 length.toUInt64).toNat = start.toNat * UInt32.size + length.toNat := by
  have hlt := start.toNat_lt
  have hshift : (start.toUInt64 <<< 32).toNat = start.toNat <<< 32 := by
    rw [UInt64.toNat_shiftLeft, UInt32.toNat_toUInt64]
    refine Nat.mod_eq_of_lt ?_
    change start.toNat <<< 32 < _
    rw [Nat.shiftLeft_eq]
    omega
  rw [pack, UInt64.toNat_or, hshift, UInt32.toNat_toUInt64,
    ← Nat.shiftLeft_add_eq_or_of_lt length.toNat_lt, Nat.shiftLeft_eq]

/-- The host finds the location that was packed. -/
theorem unpack_pack (r : Location) :
    Location.unpack (pack r.start.toUInt64 r.length.toUInt64) = r := by
  have hlt := r.length.toNat_lt
  have hstart : (Location.unpack (pack r.start.toUInt64 r.length.toUInt64)).start = r.start := by
    rw [← UInt32.toNat_inj, Location.start_unpack, toNat_pack, UInt32.size]
    omega
  have hlength :
      (Location.unpack (pack r.start.toUInt64 r.length.toUInt64)).length = r.length := by
    rw [← UInt32.toNat_inj, Location.length_unpack, toNat_pack, UInt32.size]
    omega
  exact congr (congrArg Location.mk hstart) hlength

/-- The location of bytes that lie at an address. -/
def packBytes (start : UInt64) (b : Bytes) : UInt64 := pack start (UInt64.ofNat b.length)

/-- What giving up says where there is no host to hand the reason to. -/
def abortMessage (r : Reason) : String := "module aborted: " ++ r.labelled

/-- An exported entrypoint: the location of the address, left at `start`, or the reason. -/
def exported (deploy : UInt64 → Except Reason Bytes) (start : UInt64) (timestamp : UInt64) :
    Except Reason UInt64 :=
  (packBytes start) <$> deploy timestamp

end DeployTrigger.Kit
