import DeployTrigger.Text.Quoted
import DeployTrigger.Text.Base58

/-!
The value a deployment resolves with. Its form belongs to the module that made it, so it is bytes
and nothing more. Text is shown as it is, control characters escaped so that it stays on one
line; everything else is shown in base 58.
-/
namespace DeployTrigger

structure Address where
  bytes : Bytes
  deriving DecidableEq, Repr

namespace Address

/-- The address as text, if it is not empty and has a text. -/
def text? (a : Address) : Option String :=
  match Utf8.decode? a.bytes with
  | some s => if s.isEmpty then none else some s
  | none => none

def isControl (c : Char) : Bool := c.toNat < 32 || (127 ≤ c.toNat && c.toNat < 160)

/-- A character as it is shown: a control character by its escape, any other by itself. -/
def shownChar (c : Char) : List Char :=
  if isControl c then
    match Quoted.short? c with
    | some e => ['\\', e]
    | none => Quoted.codePoint c
  else [c]

def shownText (s : String) : String := String.ofList (s.toList.flatMap shownChar)

/-- The one-line form of an address. -/
def shown (a : Address) : String :=
  match a.text? with
  | some s => shownText s
  | none => Base58.encode a.bytes

/-- The one-line form with the type's name around it. -/
def labelled (a : Address) : String := "Address(" ++ a.shown ++ ")"

end Address
end DeployTrigger
