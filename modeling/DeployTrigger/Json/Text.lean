import DeployTrigger.Json.Cursor

/-!
Texts of a document. Quotes, backslashes and control characters are escaped; a reader also takes
escapes that are not needed. Characters beyond 16 bits are two escapes, a pair of surrogates.
-/
namespace DeployTrigger.Json

namespace Text

/-- Hexadecimal numeral of four digits. -/
def fourHex (n : Nat) : List Char := (Nat.toDigits 16 n).leftpad 4 '0'

/-- A character between quotes. -/
def writeChar (c : Char) : List Char :=
  if c = '"' then ['\\', '"']
  else if c = '\\' then ['\\', '\\']
  else if c = '\n' then ['\\', 'n']
  else if c = '\r' then ['\\', 'r']
  else if c = '\t' then ['\\', 't']
  else if c.toNat = 8 then ['\\', 'b']
  else if c.toNat = 12 then ['\\', 'f']
  else if c.toNat < 32 then '\\' :: 'u' :: fourHex c.toNat
  else [c]

def write (s : String) : String := String.ofList ('"' :: s.toList.flatMap writeChar ++ ['"'])

/-- The character of a short escape. -/
def shortEscape? (c : Char) : Option Char :=
  if c = '"' || c = '\\' || c = '/' then some c
  else if c = 'b' then some (Char.ofNat 8)
  else if c = 'f' then some (Char.ofNat 12)
  else if c = 'n' then some '\n'
  else if c = 'r' then some '\r'
  else if c = 't' then some '\t'
  else none

/-- Where a reader of a text stands. -/
inductive Place where
  | plain
  /-- Behind a backslash. -/
  | escape
  /-- Inside four hexadecimal digits: the leading surrogate before them, if there is one, how many
  digits are to come and the value so far. -/
  | hex (leading : Option Nat) (owed : Nat) (value : Nat)
  /-- Behind a leading surrogate. -/
  | leading (surrogate : Nat)
  /-- Behind a leading surrogate and a backslash. -/
  | leadingEscape (surrogate : Nat)
  deriving DecidableEq, Repr

def isLeading (n : Nat) : Bool := 0xD800 ≤ n && n ≤ 0xDBFF

def isTrailing (n : Nat) : Bool := 0xDC00 ≤ n && n ≤ 0xDFFF

/-- What four hexadecimal digits stand for: a character, or the first half of one. -/
def Place.ofHex (lead : Option Nat) (n : Nat) : Except Flaw (Place × List Char) :=
  match lead with
  | none =>
    if isTrailing n then .error .loneSurrogate
    else if isLeading n then .ok (.leading n, [])
    else .ok (.plain, [Char.ofNat n])
  | some m =>
    if isTrailing n then .ok (.plain, [Char.ofNat ((m - 0xD800) * 0x400 + (n - 0xDC00) + 0x10000)])
    else .error .loneSurrogate

/-- The position `n` bytes further; nothing if the text is shorter. -/
def bytesAhead (p : Position) : Nat → List Char → Option Position
  | 0, _ => some p
  | _, [] => none
  | n + 1, c :: rest =>
    if n + 1 < c.utf8Size then some ⟨p.line, p.column + (n + 1)⟩
    else bytesAhead (p.after c) (n + 1 - c.utf8Size) rest

/-- The position at the end of a text. -/
def endOf (p : Position) (cs : List Char) : Position := cs.foldl Position.after p

/-- Whether four hexadecimal digits stand in front; if not, what is wrong and where. The next four
bytes are looked at together. -/
def hexFault? (p : Position) (cs : List Char) : Option Error :=
  match bytesAhead p 4 cs with
  | none => some ⟨.eofInText, endOf p cs⟩
  | some q =>
    if 4 ≤ cs.length && (cs.take 4).all (fun c => (hexDigit? c).isSome) then none
    else some ⟨.invalidEscape, q⟩

/-- Reads to the closing quote; `out` holds the characters so far, last one first. -/
def readFrom (out : List Char) (place : Place) (p : Position) :
    List Char → Except Error (List Char × Cursor)
  | [] => .error ⟨.eofInText, p⟩
  | c :: rest =>
    let q := p.after c
    match place with
    | .plain =>
      if c = '"' then .ok (out, ⟨rest, q⟩)
      else if c = '\\' then readFrom out .escape q rest
      else if c.toNat < 32 then .error ⟨.controlCharacter, p.ahead [c]⟩
      else readFrom (c :: out) .plain q rest
    | .escape =>
      if c = 'u' then
        match hexFault? q rest with
        | some e => .error e
        | none => readFrom out (.hex none 4 0) q rest
      else
        match shortEscape? c with
        | some x => readFrom (x :: out) .plain q rest
        | none => .error ⟨.invalidEscape, p.ahead [c]⟩
    | .hex lead owed value =>
      let n := value * 16 + (hexDigit? c).getD 0
      if owed ≤ 1 then
        match Place.ofHex lead n with
        | .ok (next, cs) => readFrom (cs ++ out) next q rest
        | .error flaw => .error ⟨flaw, q⟩
      else readFrom out (.hex lead (owed - 1) n) q rest
    | .leading m =>
      if c = '\\' then readFrom out (.leadingEscape m) q rest
      else .error ⟨.unendedEscape, p.ahead [c]⟩
    | .leadingEscape m =>
      if c = 'u' then
        match hexFault? q rest with
        | some e => .error e
        | none => readFrom out (.hex (some m) 4 0) q rest
      else .error ⟨.unendedEscape, p.ahead [c]⟩

end Text

/-- The text in front, of which the opening quote was seen. -/
def Reader.text : Reader String := do
  advance
  let c ← get
  match Text.readFrom [] .plain c.position c.rest with
  | .ok (out, next) => do
    set next
    pure (String.ofList out.reverse)
  | .error e => throw (.error e)

end DeployTrigger.Json
