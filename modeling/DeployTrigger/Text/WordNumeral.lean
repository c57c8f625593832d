import DeployTrigger.Text.Numeral

/-! Decimal numerals of numbers of 64 bits. A plus may stand in front. -/
namespace DeployTrigger.WordNumeral

inductive ReadError where
  | empty
  | notDigit
  | tooLarge
  deriving DecidableEq, Repr

def ReadError.message : ReadError → String
  | empty => "cannot parse integer from empty string"
  | notDigit => "invalid digit found in string"
  | tooLarge => "number too large to fit in target type"

/-- Reads on after `n`. The first character at which the text can no longer be such a numeral
decides about the error. -/
def readFrom (n : Nat) : List Char → Except ReadError UInt64
  | [] => .ok (UInt64.ofNat n)
  | c :: rest =>
    if c.isDigit then
      let m := digitsFrom n [c]
      if m < UInt64.size then readFrom m rest else .error .tooLarge
    else .error .notDigit

/-- A sign alone is no numeral. -/
def read (s : String) : Except ReadError UInt64 :=
  match s.toList with
  | [] => .error .empty
  | ['+'] => .error .notDigit
  | '+' :: rest => readFrom 0 rest
  | cs => readFrom 0 cs

end DeployTrigger.WordNumeral
