import DeployTrigger.Text.Utf8

/-!
Base 58: the bytes are a big-endian number written with 58 letters, and each zero byte in front
is written as one zero digit, so bytes of different length differ in text.
-/
namespace DeployTrigger.Base58

/-- Digits and letters without those that look alike. -/
def alphabet : List Char :=
  "123456789ABCDEFGHJKLMNPQRSTUVWXYZabcdefghijkmnopqrstuvwxyz".toList

/-- Big-endian value of the bytes. -/
def value (b : Bytes) : Nat := b.foldl (fun n x => n * 256 + x.toNat) 0

/-- Digits of `n` in base 58 in front of `out`; zero has none. -/
def digits (n : Nat) (out : List Nat) : List Nat :=
  if h : n = 0 then out else digits (n / 58) (n % 58 :: out)
termination_by n
decreasing_by omega

def letter (d : Nat) : Char := alphabet[d]?.getD '1'

def encode (b : Bytes) : String :=
  String.ofList
    (List.replicate (b.takeWhile (· = 0)).length '1' ++ (digits (value b) []).map letter)

end DeployTrigger.Base58
