import DeployTrigger.Json.Value
import DeployTrigger.Timestamp

/-! Timestamps as JSON documents: a whole number of 64 bits. -/
namespace DeployTrigger.Timestamp

open Json Json.Reader

def toDocument (t : Timestamp) : String := t.shown

/-- The whole number in front. -/
def reader : Reader Timestamp := do
  match ← peekToken with
  | none => fail .eofInValue
  | some c =>
    if c = '-' || c.isDigit then do
      let n ← number
      match n with
      | .natural millis => pure ⟨millis⟩
      | .negative _ => fail ((Value.number n).wrongValue "u64")
      | .float _ => fail ((Value.number n).wrongType "u64")
    else reject "u64"

def ofDocument (s : String) : Except (Fault Error) Timestamp := document reader s

end DeployTrigger.Timestamp
