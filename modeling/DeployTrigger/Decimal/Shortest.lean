import DeployTrigger.Text.Numeral

/-!
The shortest decimal of a binary floating-point number. All reals that round to the number form an
interval; on the grids of 1, 2, … 17 significant digits the first grid with a point in the interval
wins, and of two points the nearer. All arithmetic is exact.
-/
namespace DeployTrigger.Decimal

/-- The number `mantissa · 2 ^ exponent`. -/
structure Binary where
  mantissa : Nat
  exponent : Int
  /-- Whether the next smaller number is only half as far away as the next larger one. -/
  lowEdge : Bool
  deriving DecidableEq, Repr

/-- The absolute value of a finite number of 64 bits. -/
def Binary.ofBits (bits : UInt64) : Binary :=
  let fraction : Nat := bits.toNat % Nat.pow 2 52
  let biased : Nat := bits.toNat / Nat.pow 2 52 % Nat.pow 2 11
  if biased = 0 then ⟨fraction, -1074, false⟩
  else ⟨fraction + Nat.pow 2 52, (biased : Int) - 1075, fraction = 0 && 1 < biased⟩

/-- The number `digits · 10 ^ exponent`. -/
structure Scaled where
  digits : Nat
  exponent : Int
  deriving DecidableEq, Repr

/-- An interval around a value, all three over one denominator, and whether its ends belong to it. -/
structure Interval where
  low : Nat
  value : Nat
  high : Nat
  denominator : Nat
  closed : Bool
  deriving DecidableEq, Repr

/-- The reals that round to a number: half way to its neighbours, the ends going to the even one. -/
def Interval.around (b : Binary) : Interval :=
  let up := Nat.pow 2 (b.exponent - 2).toNat
  let low := if b.lowEdge then 4 * b.mantissa - 1 else 4 * b.mantissa - 2
  ⟨low * up, 4 * b.mantissa * up, (4 * b.mantissa + 2) * up, Nat.pow 2 (2 - b.exponent).toNat,
    b.mantissa % 2 = 0⟩

/-- The interval in units of `10 ^ e`. -/
def Interval.inUnits (i : Interval) (e : Int) : Interval :=
  let up := Nat.pow 10 (-e).toNat
  { i with
    low := i.low * up, value := i.value * up, high := i.high * up
    denominator := i.denominator * Nat.pow 10 e.toNat }

/-- Whether a whole number lies in the interval. -/
def Interval.contains (i : Interval) (n : Nat) : Bool :=
  let x := n * i.denominator
  if i.closed then i.low ≤ x && x ≤ i.high else i.low < x && x < i.high

/-- The whole number in the interval that is next to its value, if there is one; an even number
wins a tie. -/
def Interval.nearest? (i : Interval) : Option Nat :=
  let below := i.value / i.denominator
  let above := below + 1
  let down := i.value - below * i.denominator
  let up := above * i.denominator - i.value
  match i.contains below, i.contains above with
  | true, true =>
    some (if down < up then below else if up < down then above
      else if below % 2 = 0 then below else above)
  | true, false => some below
  | false, true => some above
  | false, false => none

/-- The least number of times that a fraction below one is multiplied by ten to reach one. -/
def leadingZeros (n d : Nat) : Nat → Nat
  | 0 => 0
  | fuel + 1 => if d ≤ n then 0 else leadingZeros (n * 10) d fuel + 1

/-- The exponent of the first decimal digit of a positive value. -/
def Interval.magnitude (i : Interval) : Int :=
  if i.denominator ≤ i.value then
    ((Nat.toDigits 10 (i.value / i.denominator)).length - 1 : Nat)
  else -(leadingZeros i.value i.denominator 400 : Nat)

/-- The first grid from `n` significant digits on with a point in the interval. -/
def firstGrid (i : Interval) (n : Nat) : Nat → Scaled
  | 0 => ⟨i.value / i.denominator, 0⟩
  | fuel + 1 =>
    let e := i.magnitude + 1 - (n : Int)
    match (i.inUnits e).nearest? with
    | some d => ⟨d, e⟩
    | none => firstGrid i (n + 1) fuel

/-- The shortest decimal of a positive number. -/
def shortest (b : Binary) : Scaled := firstGrid (.around b) 1 17

/-- How numbers are written: which exponents of the first digit stand without a power of ten. -/
structure Style where
  least : Int
  most : Int
  deriving DecidableEq, Repr

/-- A point, and digits behind it; one zero if there are none. -/
def pointed (digits : List Char) : List Char := '.' :: if digits.isEmpty then ['0'] else digits

/-- A positive number in a style. -/
def Style.write (s : Style) (x : Scaled) : String :=
  let all := Nat.toDigits 10 x.digits
  let digits := (all.reverse.dropWhile (· = '0')).reverse
  let first := x.exponent + (all.length - 1 : Nat)
  String.ofList <|
    if s.least ≤ first && first ≤ s.most then
      if first < 0 then '0' :: pointed (List.replicate (-first - 1).toNat '0' ++ digits)
      else
        let whole := first.toNat + 1
        (digits.take whole ++ List.replicate (whole - digits.length) '0') ++ pointed (digits.drop whole)
    else
      digits.take 1 ++ (if digits.length ≤ 1 then [] else '.' :: digits.drop 1) ++
        ['e', if first < 0 then '-' else '+'] ++ Nat.toDigits 10 first.natAbs

/-- A finite number of 64 bits in a style; zeros keep their sign. -/
def Style.writeBits (s : Style) (bits : UInt64) : String :=
  let b := Binary.ofBits bits
  let sign := if bits.toNat / Nat.pow 2 63 = 1 then "-" else ""
  sign ++ if b.mantissa = 0 then "0.0" else s.write (shortest b)

end DeployTrigger.Decimal
