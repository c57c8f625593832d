/-! Numerals as text: digits most significant first, and the value that a row of digits has. -/
namespace DeployTrigger

/-- Numeral of `n`, with lower-case letters for the digits above nine. -/
def numeral (base n : Nat) : String := String.ofList (Nat.toDigits base n)

def decimal (n : Nat) : String := numeral 10 n

/-- Decimal numeral with zeros in front up to `width` digits. -/
def paddedDecimal (width n : Nat) : String :=
  String.ofList ((Nat.toDigits 10 n).leftpad width '0')

/-- Decimal numeral of an integer, with a minus in front of a negative one. -/
def signedDecimal (n : Int) : String :=
  if n < 0 then "-" ++ decimal n.natAbs else decimal n.natAbs

/-- Value of a decimal digit. -/
def digitValue (c : Char) : Nat := c.toNat - '0'.toNat

/-- Value of a hexadecimal digit with letters of either case. -/
def hexDigit? (c : Char) : Option Nat :=
  if c.isDigit then some (digitValue c)
  else if 'a' ≤ c && c ≤ 'f' then some (c.toNat - 'a'.toNat + 10)
  else if 'A' ≤ c && c ≤ 'F' then some (c.toNat - 'A'.toNat + 10)
  else none

/-- Value of a row of decimal digits read after `n`. -/
def digitsFrom (n : Nat) (ds : List Char) : Nat :=
  ds.foldl (fun n d => n * 10 + digitValue d) n

end DeployTrigger
