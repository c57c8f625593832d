import DeployTrigger.Kit.Source.Keyword
import DeployTrigger.Kit.Source.Token

/-!
Readers of tokens. A reader looks at the next tokens and takes what it knows, or fails with what it
would have expected. Tokens that are left over in a group are noticed at the end only.
-/
namespace DeployTrigger.Kit.Source

/-- Why tokens are not what they should be. -/
inductive Flaw where
  /-- One of several things should come next; there may be nothing at all. -/
  | expected (alternatives : List String) (ended : Bool)
  /-- Tokens that nobody takes. -/
  | leftover
  | notAllowed (what : String)
  deriving DecidableEq, Repr

def Flaw.message : Flaw → String
  | expected alternatives ended =>
    (if ended then "unexpected end of input, " else "") ++
      match alternatives with
      | [a] => "expected " ++ a
      | [a, b] => "expected " ++ a ++ " or " ++ b
      | _ => "expected one of: " ++ String.intercalate ", " alternatives
  | leftover => "unexpected token"
  | notAllowed what => what

structure Cursor where
  rest : List Token
  /-- Whether tokens were left over in a group. -/
  leftover : Bool
  deriving Repr

abbrev Reader := StateT Cursor (Except Flaw)

/-- How a word or sign is named in messages. -/
def quoted (s : String) : String := "`" ++ s ++ "`"

/-- Signs in a row, without gaps between them. -/
def startsWithSigns : List Char → List Token → Bool
  | [], _ => true
  | [c], .sign d _ :: _ => c = d
  | c :: rest, .sign d joint :: tokens => c = d && joint && startsWithSigns rest tokens
  | _, _ => false

/-- What follows the next token, a lifetime counting as one. -/
def behindNext : List Token → List Token
  | .sign '\'' _ :: .word _ :: rest => rest
  | _ :: rest => rest
  | [] => []

namespace Sees

def sign (s : String) (ts : List Token) : Bool := startsWithSigns s.toList ts

def word (w : String) : List Token → Bool
  | .word v :: _ => v = w
  | _ => false

/-- Any word, keywords included. -/
def anyWord : List Token → Bool
  | .word _ :: _ => true
  | _ => false

def identifier : List Token → Bool
  | .word v :: _ => isIdentifier v
  | _ => false

def lifetime : List Token → Bool
  | .sign '\'' _ :: .word _ :: _ => true
  | _ => false

/-- A literal, maybe with a minus in front, or a truth value. -/
def literal : List Token → Bool
  | .literal _ :: _ | .sign '-' _ :: .literal _ :: _ => true
  | .word v :: _ => v = "true" || v = "false"
  | _ => false

def textLiteral : List Token → Bool
  | .literal (.text _) :: _ => true
  | _ => false

def group (d : Delimiter) : List Token → Bool
  | .group e _ :: _ => e = d
  | _ => false

end Sees

namespace Reader

def rest : Reader (List Token) := do pure (← get).rest

def sees (p : List Token → Bool) : Reader Bool := do pure (p (← rest))

def fail {α : Type} (alternatives : List String) : Reader α := do
  throw (.expected alternatives (← rest).isEmpty)

def drop (n : Nat) : Reader Unit := modify fun c => { c with rest := c.rest.drop n }

def sign (s : String) : Reader Unit := do
  if ← sees (Sees.sign s) then drop s.length else fail [quoted s]

/-- Takes signs if they come next, and tells whether they do. -/
def sign? (s : String) : Reader Bool := do
  if ← sees (Sees.sign s) then
    drop s.length
    pure true
  else pure false

def word (w : String) : Reader Unit := do
  if ← sees (Sees.word w) then drop 1 else fail [quoted w]

def word? (w : String) : Reader Bool := do
  if ← sees (Sees.word w) then
    drop 1
    pure true
  else pure false

def identifier : Reader String := do
  match ← rest with
  | .word v :: _ =>
    if isIdentifier v then
      drop 1
      pure v
    else fail ["identifier"]
  | _ => fail ["identifier"]

/-- Takes a word, be it a keyword. -/
def anyWord : Reader Unit := do
  if ← sees Sees.anyWord then drop 1 else fail ["identifier"]

def lifetime : Reader Unit := do
  if ← sees Sees.lifetime then drop 2 else fail ["lifetime"]

def literal : Reader Unit := do
  if ← sees Sees.literal then drop (if ← sees (Sees.sign "-") then 2 else 1) else fail ["literal"]

/-- Takes a group and reads what stands in it. -/
def group {α : Type} (d : Delimiter) (inner : Reader α) : Reader α := do
  match ← rest with
  | .group e content :: behind =>
    if e = d then
      modify fun c => { c with rest := content }
      let a ← inner
      modify fun c => ⟨behind, c.leftover || !c.rest.isEmpty⟩
      pure a
    else fail [d.name]
  | _ => fail [d.name]

/-- Takes all tokens that are left. -/
def takeAll : Reader Unit := modify fun c => { c with rest := [] }

def atEnd : Reader Bool := do pure (← rest).isEmpty

/-- Reads on while the reader wants to, at most so many times. -/
def loopUpTo (body : Reader Bool) : Nat → Reader Unit
  | 0 => pure ()
  | n + 1 => do if ← body then loopUpTo body n

/-- Reads on while the reader wants to. Each time but the last one it takes a token. -/
def loop (body : Reader Bool) : Reader Unit := do loopUpTo body ((← rest).length + 1)

/-- Reads items up to the end with commas between them. -/
def commaSeparated (item : Reader Unit) : Reader Unit :=
  loop do
    if ← atEnd then return false
    item
    if ← atEnd then return false
    sign ","
    pure true

/-- Items with a sign between them, up to a sign that ends them; the sign between may end them, too. -/
def listUntil (last : List Token → Bool) (between : String) (item : Reader Unit) : Reader Unit :=
  loop do
    if ← sees last then return false
    item
    if ← sees last then return false
    sign between
    pure true

/-- A text may say which interface a foreign function has. -/
def interface : Reader Unit := do
  if ← word? "extern" then
    if ← sees Sees.textLiteral then drop 1

/-- Reads all tokens. -/
def run {α : Type} (reader : Reader α) (tokens : List Token) : Except Flaw α := do
  let (a, c) ← StateT.run reader ⟨tokens, false⟩
  if c.leftover || !c.rest.isEmpty then throw .leftover
  pure a

end Reader
end DeployTrigger.Kit.Source
