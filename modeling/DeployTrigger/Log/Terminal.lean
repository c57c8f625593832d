import DeployTrigger.Log.Event

/-!
Events as lines on a terminal. Characters that could steer the terminal are written as their code
points; line breaks and tabulators are kept.
-/
namespace DeployTrigger.Log

/-- A character as it may go to a terminal. -/
def terminalChar (c : Char) : List Char :=
  if c = '\x07' || c = '\x08' || c = '\x0c' || c = '\x1b' || c = '\x7f' then
    ['\\', 'x'] ++ (Nat.toDigits 16 c.toNat).leftpad 2 '0'
  else if 0x80 ≤ c.toNat && c.toNat ≤ 0x9F then
    ['\\', 'u', '\x7b'] ++ Nat.toDigits 16 c.toNat ++ ['\x7d']
  else [c]

def terminalText (s : String) : String := String.ofList (s.toList.flatMap terminalChar)

/-- The event with its message fit for a terminal. -/
def Event.forTerminal (e : Event) : Event := { e with message := terminalText e.message }

end DeployTrigger.Log
