import DeployTrigger.Text.Utf8

/-! Numbers as bytes, least significant byte first. -/
namespace DeployTrigger

namespace LittleEndian

/-- The lowest `width` bytes of a number. -/
def encode : Nat → Nat → Bytes
  | 0, _ => []
  | width + 1, n => UInt8.ofNat (n % 256) :: encode width (n / 256)

def decode : Bytes → Nat
  | [] => 0
  | b :: rest => b.toNat + 256 * decode rest

theorem length_encode (width n : Nat) : (encode width n).length = width := by
  induction width generalizing n with
  | zero => rfl
  | succ w ih => simp [encode, ih]

theorem decode_encode (width n : Nat) : decode (encode width n) = n % Nat.pow 256 width := by
  induction width generalizing n with
  | zero => exact (Nat.mod_one n).symm
  | succ w ih =>
    have h : (UInt8.ofNat (n % 256)).toNat = n % 256 := by simp
    have hp : Nat.pow 256 (w + 1) = 256 * Nat.pow 256 w := Nat.mul_comm _ _
    rw [encode, decode, ih, h, hp, Nat.mod_mul]

theorem encode_decode (b : Bytes) : encode b.length (decode b) = b := by
  induction b with
  | nil => rfl
  | cons x r ih =>
    have hx : x.toNat < 256 := x.toNat_lt
    have h1 : (x.toNat + 256 * decode r) % 256 = x.toNat := by omega
    have h2 : (x.toNat + 256 * decode r) / 256 = decode r := by omega
    simp [decode, encode, h1, h2, ih]

end LittleEndian
end DeployTrigger
