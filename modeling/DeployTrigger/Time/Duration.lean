import DeployTrigger.Text.Numeral

/-!
Spans of time: whole seconds of 64 bits and nanoseconds. The short form uses the largest unit of
s, ms, µs and ns that is not zero, with as many decimals as it takes.
-/
namespace DeployTrigger

structure Duration where
  secs : UInt64
  nanos : Nat
  nanos_lt : nanos < 1000000000 := by decide
  deriving DecidableEq, Repr

namespace Duration

def zero : Duration := ⟨0, 0, by decide⟩

def ofSeconds (secs : UInt64) : Duration := ⟨secs, 0, by decide⟩

/-- The span in nanoseconds. -/
def toNanos (d : Duration) : Nat := d.secs.toNat * 1000000000 + d.nanos

/-- Decimals of `part` out of `10 ^ width`, without zeros at the end. -/
def decimals (width part : Nat) : String :=
  if part = 0 then ""
  else
    let digits := (Nat.toDigits 10 part).leftpad width '0'
    "." ++ String.ofList (digits.reverse.dropWhile (· = '0')).reverse

def short (d : Duration) : String :=
  if d.secs ≠ 0 then decimal d.secs.toNat ++ decimals 9 d.nanos ++ "s"
  else if 1000000 ≤ d.nanos then
    decimal (d.nanos / 1000000) ++ decimals 6 (d.nanos % 1000000) ++ "ms"
  else if 1000 ≤ d.nanos then decimal (d.nanos / 1000) ++ decimals 3 (d.nanos % 1000) ++ "µs"
  else decimal d.nanos ++ "ns"

end Duration
end DeployTrigger
