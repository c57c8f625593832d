import DeployTrigger.Kit.Source.Keyword
import DeployTrigger.Text.CharSet.Blank
import DeployTrigger.Text.Numeral

/-!
Texts and characters between quotes. A backslash starts an escape; at the end of a line it makes the
text go on at the next character that is no blank.
-/
namespace DeployTrigger.Kit.Source.Quotation

/-- What may stand in a kind of quoted text. -/
structure Kind where
  /-- Only ASCII characters. -/
  ascii : Bool
  /-- Code points in hexadecimal between braces. -/
  codePoints : Bool
  /-- Two hexadecimal digits for any byte, not only for an ASCII character. -/
  anyByte : Bool
  /-- The zero character. -/
  zero : Bool
  deriving DecidableEq, Repr

def textKind : Kind := ⟨false, true, false, true⟩

def byteKind : Kind := ⟨true, false, true, true⟩

def zeroEndedKind : Kind := ⟨false, true, true, false⟩

/-- What is being read. -/
inductive Place where
  | plain
  /-- Behind a carriage return, which only a line feed may follow. -/
  | return
  | escape
  /-- Behind the first digits of a byte. -/
  | hex (first : Option Nat)
  /-- In front of the brace of a code point. -/
  | brace
  | codePoint (value digits : Nat)
  /-- Behind a backslash and the end of its line. -/
  | continued
  | continuedReturn
  deriving DecidableEq, Repr

/-- A character that was read, if it may stand in the text. -/
def accept (k : Kind) (c : Char) : Option (Place × Option Char) :=
  if c = '\x00' && !k.zero then none else some (.plain, some c)

/-- The character with a code point, if there is one. -/
def char? (n : Nat) : Option Char := if n.isValidChar then some (Char.ofNat n) else none

/-- Takes the character behind a backslash. -/
def afterBackslash (k : Kind) (c : Char) : Option (Place × Option Char) :=
  match c with
  | 'n' => some (.plain, some '\n')
  | 'r' => some (.plain, some '\r')
  | 't' => some (.plain, some '\t')
  | '\\' => some (.plain, some '\\')
  | '\'' => some (.plain, some '\'')
  | '"' => some (.plain, some '"')
  | '0' => if k.zero then some (.plain, some '\x00') else none
  | 'x' => some (.hex none, none)
  | 'u' => if k.codePoints then some (.brace, none) else none
  | '\n' => some (.continued, none)
  | '\r' => some (.continuedReturn, none)
  | _ => none

/-- Takes a character of the text itself. -/
def plain (k : Kind) (c : Char) : Option (Place × Option Char) :=
  match c with
  | '\\' => some (.escape, none)
  | '\r' => some (.return, none)
  | _ => if k.ascii && 127 < c.toNat then none else accept k c

/-- Takes the next character, which is no closing quote; a finished character is given back. -/
def step (k : Kind) (c : Char) : Place → Option (Place × Option Char)
  | .plain => plain k c
  | .return => if c = '\n' then some (.plain, some '\n') else none
  | .escape => afterBackslash k c
  | .hex none => do
    let d ← hexDigit? c
    if k.anyByte || d ≤ 7 then some (.hex (some d), none) else none
  | .hex (some d) => do
    let e ← hexDigit? c
    accept k (Char.ofNat (d * 16 + e))
  | .brace => if c = '\x7b' then some (.codePoint 0 0, none) else none
  | .codePoint value digits =>
    if c = '_' && 0 < digits then some (.codePoint value digits, none)
    else if c = '\x7d' && 0 < digits then (char? value).bind (accept k)
    else do
      let d ← hexDigit? c
      if digits < 6 then some (.codePoint (value * 16 + d) (digits + 1), none) else none
  | .continued =>
    if c = '\r' then some (.continuedReturn, none)
    else if CharSet.blank.contains c then some (.continued, none)
    else plain k c
  | .continuedReturn => if c = '\n' then some (.continued, none) else none

def mayClose : Place → Bool
  | .plain | .continued => true
  | _ => false

/-- Reads up to the closing quote: the text, `out` being its characters so far, the last one first,
and what follows. -/
def readFrom (k : Kind) (place : Place) (out : List Char) :
    List Char → Option (String × List Char)
  | [] => none
  | c :: rest =>
    if c = '"' && mayClose place then some (String.ofList out.reverse, rest)
    else
      match step k c place with
      | some (place, read) => readFrom k place (read.toList ++ out) rest
      | none => none

/-- Reads on until a character is finished, and tells what follows. -/
def oneFrom (k : Kind) (place : Place) : List Char → Option (List Char)
  | [] => none
  | c :: rest =>
    match step k c place with
    | some (_, some _) => some rest
    | some (.continued, none) | some (.continuedReturn, none) | none => none
    | some (place, none) => oneFrom k place rest

/-- Reads a character and its closing quote, and tells what follows. -/
def single (k : Kind) (cs : List Char) : Option (List Char) :=
  let behind := match cs with
    | '\\' :: rest => oneFrom k .escape rest
    | c :: rest => if k.ascii && 127 < c.toNat then none else some rest
    | [] => none
  match behind with
  | some ('\'' :: rest) => some rest
  | _ => none

/-- Reads a text without escapes, behind which stands a quote and a number of hash signs. -/
def rawFrom (k : Kind) (hashes : Nat) (out : List Char) : List Char → Option (String × List Char)
  | [] => none
  | c :: rest =>
    if c = '"' && rest.take hashes = List.replicate hashes '#' then
      some (String.ofList out.reverse, rest.drop hashes)
    else if c = '\r' && rest.head? ≠ some '\n' then none
    else if (k.ascii && 127 < c.toNat) || (c = '\x00' && !k.zero) then none
    else rawFrom k hashes (c :: out) rest

/-- Reads a text without escapes from its hash signs on. -/
def raw (k : Kind) (cs : List Char) : Option (String × List Char) :=
  let hashes := (cs.takeWhile (· = '#')).length
  match cs.drop hashes with
  | '"' :: rest => if hashes ≤ 255 then rawFrom k hashes [] rest else none
  | _ => none

/-- Whatever word follows a literal belongs to it. -/
def dropSuffix (cs : List Char) : List Char :=
  match cs with
  | c :: rest => if isWordStart c then rest.dropWhile isWordPart else cs
  | [] => []

end DeployTrigger.Kit.Source.Quotation
