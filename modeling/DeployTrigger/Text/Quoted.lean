import DeployTrigger.Text.Utf8
import DeployTrigger.Text.CharSet.Printable

/-!
Text between double quotes. Quotes, backslashes and the common controls have short escapes,
everything else that does not show on its own is written as its code point in hexadecimal. Bytes
that are no text are quoted piece by piece.
-/
namespace DeployTrigger.Quoted

/-- A code point in hexadecimal between braces. -/
def codePoint (c : Char) : List Char :=
  ['\\', 'u', '\x7b'] ++ Nat.toDigits 16 c.toNat ++ ['\x7d']

/-- The short escape of a control character, if it has one. -/
def short? (c : Char) : Option Char :=
  if c = '\t' then some 't' else if c = '\r' then some 'r' else if c = '\n' then some 'n' else none

def isPlain (c : Char) : Bool :=
  (' ' ≤ c && c ≤ '~') ||
    (127 < c.toNat && !CharSet.combining.contains c && !CharSet.unprintable.contains c)

/-- A character inside double quotes; single quotes stand for themselves. -/
def char (c : Char) : List Char :=
  if c = '\x00' then ['\\', '0']
  else match short? c with
    | some e => ['\\', e]
    | none => if c = '"' || c = '\\' then ['\\', c] else if isPlain c then [c] else codePoint c

def quote (s : String) : String :=
  String.ofList ('"' :: s.toList.flatMap char ++ ['"'])

/-- A byte in two upper-case hexadecimal digits. -/
def byte (b : UInt8) : List Char :=
  let digits := (Nat.toDigits 16 b.toNat).map Char.toUpper
  ['\\', 'x'] ++ (if digits.length < 2 then '0' :: digits else digits)

/-- A piece of a byte string inside double quotes; here single quotes have an escape, too. -/
def piece : Utf8.Piece → List Char
  | .char c => if c = '\'' then ['\\', '\''] else char c
  | .broken b => b.flatMap byte

def quoteBytes (b : Bytes) : String :=
  String.ofList ('"' :: (Utf8.pieces b).flatMap piece ++ ['"'])

end DeployTrigger.Quoted
