import DeployTrigger.Fault
import DeployTrigger.Json.Error

/-! Reading a document from the front: what is left of it and where that begins. -/
namespace DeployTrigger.Json

structure Cursor where
  rest : List Char
  position : Position
  deriving DecidableEq, Repr

/-- Takes a value from the front of a document. -/
abbrev Reader := StateT Cursor (Except (Fault Error))

/-- The position behind a character. -/
def Position.after (p : Position) (c : Char) : Position :=
  if c = '\n' then ⟨p.line + 1, 0⟩ else ⟨p.line, p.column + c.utf8Size⟩

/-- The position one byte further. -/
def Position.ahead (p : Position) : List Char → Position
  | [] => p
  | c :: _ => if c = '\n' then ⟨p.line + 1, 0⟩ else ⟨p.line, p.column + 1⟩

def isBlank (c : Char) : Bool := c = ' ' || c = '\n' || c = '\t' || c = '\r'

namespace Cursor

def ofText (s : String) : Cursor := ⟨s.toList, ⟨1, 0⟩⟩

/-- What is left of a text behind its blanks, and where. -/
def skipBlanksFrom (p : Position) : List Char → Cursor
  | [] => ⟨[], p⟩
  | c :: rest => if isBlank c then skipBlanksFrom (p.after c) rest else ⟨c :: rest, p⟩

def skipBlanks (c : Cursor) : Cursor := skipBlanksFrom c.position c.rest

/-- The cursor one character further. -/
def advance (c : Cursor) : Cursor :=
  match c.rest with
  | [] => c
  | x :: rest => ⟨rest, c.position.after x⟩

end Cursor

namespace Reader

/-- Fails at a position. -/
def failAt {α : Type} (flaw : Flaw) (p : Position) : Reader α := throw (.error ⟨flaw, p⟩)

/-- Fails in front of the next byte. -/
def fail {α : Type} (flaw : Flaw) : Reader α := do failAt flaw (← get).position

/-- Fails behind the next byte. -/
def failAhead {α : Type} (flaw : Flaw) : Reader α := do
  let c ← get
  failAt flaw (c.position.ahead c.rest)

def peek : Reader (Option Char) := do pure (← get).rest.head?

def advance : Reader Unit := modify Cursor.advance

def skipBlanks : Reader Unit := modify Cursor.skipBlanks

/-- The next character that is no blank, which is not taken. -/
def peekToken : Reader (Option Char) := do
  skipBlanks
  peek

/-- The digits in front. -/
def digits : Reader (List Char) := do
  let c ← get
  let ds := c.rest.takeWhile Char.isDigit
  set (⟨c.rest.dropWhile Char.isDigit, ⟨c.position.line, c.position.column + ds.length⟩⟩ : Cursor)
  pure ds

/-- The rest of a word of which the first letter was seen. -/
def word : List Char → Reader Unit
  | [] => pure ()
  | w :: ws => do
    match ← peek with
    | none => fail .eofInValue
    | some c => if c = w then do advance; word ws else failAhead .expectedWord

end Reader
end DeployTrigger.Json
