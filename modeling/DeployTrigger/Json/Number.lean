import DeployTrigger.Decimal.Shortest
import DeployTrigger.Json.Cursor

/-!
Numbers of a document. Whole numbers of 64 bits are exact, with or without a sign; all others are
floating-point: as many digits as fit 64 bits, times a power of ten, rounded after each of the two.
-/
namespace DeployTrigger.Json

inductive Number where
  | natural (n : UInt64)
  /-- A whole number below zero and not below -2⁶³. -/
  | negative (n : Int)
  /-- A finite floating-point number by its bits. -/
  | float (bits : UInt64)
  deriving DecidableEq, Repr

namespace Number

/-- Numbers from 0.00001 up to below 10¹⁶ have no power of ten. -/
def style : Decimal.Style := ⟨-5, 15⟩

/-- A number in a message. -/
def described : Number → String
  | natural n => "integer `" ++ decimal n.toNat ++ "`"
  | negative n => "integer `" ++ signedDecimal n ++ "`"
  | float bits => "floating point `" ++ style.writeBits bits ++ "`"

/-- Appends digits to a number as long as it fits 64 bits; also says how many it took. -/
def absorb (n taken : Nat) : List Char → Nat × Nat
  | [] => (n, taken)
  | d :: rest =>
    let m := n * 10 + (d.toNat - '0'.toNat)
    if m < UInt64.size then absorb m (taken + 1) rest else (n, taken)

/-- `x · 10 ^ e`, large powers in several factors; nothing if that is infinite. -/
def scale (x : Float) (e : Int) : Nat → Option Float
  | 0 => some x
  | fuel + 1 =>
    if e.natAbs ≤ 308 then
      if 0 ≤ e then
        let y := x * Float.ofScientific 1 false e.toNat
        if y.isInf then none else some y
      else some (x / Float.ofScientific 1 false e.natAbs)
    else if x == 0 then some x
    else if 0 ≤ e then none
    else scale (x / Float.ofScientific 1 false 308) (e + 308) fuel

/-- A floating-point number from a sign, digits and a power of ten. -/
def ofParts? (minus : Bool) (digits : Nat) (e : Int) : Option Number :=
  (scale (UInt64.ofNat digits).toFloat e 8).map fun x => float (if minus then -x else x).toBits

/-- A whole number; -0 and numbers beyond 64 bits are floating-point. -/
def ofDigits (minus : Bool) (digits : Nat) : Number :=
  if !minus then natural (UInt64.ofNat digits)
  else if 0 < digits && digits ≤ UInt64.size / 2 then negative (-(digits : Int))
  else float (-(UInt64.ofNat digits).toFloat).toBits

end Number

namespace Reader

/-- A floating-point number that is in range. -/
def inRange (minus : Bool) (digits : Nat) (e : Int) : Reader Number :=
  match Number.ofParts? minus digits e with
  | some x => pure x
  | none => fail .numberOutOfRange

/-- Digits of an exponent from value `n` on; stops where the value leaves 31 bits and says whether
it did so. -/
def exponentDigits (n : Nat) : Nat → Reader (Nat × Bool)
  | 0 => pure (n, false)
  | fuel + 1 => do
    match ← peek with
    | none => pure (n, false)
    | some c =>
      if Char.isDigit c then do
        advance
        let m := n * 10 + (c.toNat - '0'.toNat)
        if m < UInt32.size / 2 then exponentDigits m fuel else pure (n, true)
      else pure (n, false)

/-- The exponent behind its letter, which was seen, for digits with the power `e` of ten. -/
def exponent (minus : Bool) (significand : Nat) (e : Int) : Reader Number := do
  advance
  let down : Bool ← match ← peek with
    | some '+' => do advance; pure false
    | some '-' => do advance; pure true
    | _ => pure false
  match ← peek with
  | none => fail .eofInValue
  | some c =>
    if !Char.isDigit c then failAhead .invalidNumber
    else
      let (n, tooLarge) ← exponentDigits 0 ((← get).rest.length + 1)
      if tooLarge then
        if significand ≠ 0 && !down then fail .numberOutOfRange
        else do
          let _ ← digits
          inRange minus 0 0
      else inRange minus significand (if down then e - n else e + n)

/-- The fraction behind its point, which was seen. -/
def fraction (minus : Bool) (significand : Nat) (e : Int) : Reader Number := do
  advance
  let ds ← digits
  if ds.isEmpty then
    if (← peek).isNone then fail .eofInValue else failAhead .invalidNumber
  let (significand, taken) := Number.absorb significand 0 ds
  let e := e - taken
  match ← peek with
  | some 'e' | some 'E' => exponent minus significand e
  | _ => inRange minus significand e

/-- A number behind its sign. -/
def unsigned (minus : Bool) : Reader Number := do
  let ds ← digits
  match ds with
  | [] => if (← peek).isNone then fail .eofInValue else failAhead .invalidNumber
  | d :: more =>
    if d = '0' && !more.isEmpty then
      let c ← get
      failAt .invalidNumber ⟨c.position.line, c.position.column + 1 - more.length⟩
    else
      let (significand, taken) := Number.absorb 0 0 ds
      let e : Int := (ds.length - taken : Nat)
      match ← peek with
      | some '.' => fraction minus significand e
      | some 'e' | some 'E' => exponent minus significand e
      | _ => if e = 0 then pure (.ofDigits minus significand) else inRange minus significand e

def number : Reader Number := do
  match ← peek with
  | some '-' => do
    advance
    unsigned true
  | _ => unsigned false

end Reader
end DeployTrigger.Json
