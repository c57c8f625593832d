import DeployTrigger.Kit.Source.Token
import DeployTrigger.Kit.Source.Token.Numeral

/-!
Source text as tokens. Blanks and comments separate tokens; a documenting comment stands for an
attribute with its text.
-/
namespace DeployTrigger.Kit.Source

namespace Lexeme

/-- White space and the marks for the direction of writing. -/
def isBlank (c : Char) : Bool :=
  CharSet.blank.contains c || c.toNat = 0x200E || c.toNat = 0x200F

/-- The text up to the end of the line, and what follows. -/
def line (out : List Char) : List Char → List Char × List Char
  | [] => (out.reverse, [])
  | '\n' :: rest => (out.reverse, '\n' :: rest)
  | '\r' :: '\n' :: rest => (out.reverse, '\n' :: rest)
  | c :: rest => line (c :: out) rest

/-- A comment that may hold others, from inside of `depth` of them on, and what follows. -/
def block (depth : Nat) (out : List Char) : List Char → Option (List Char × List Char)
  | [] => none
  | '/' :: '*' :: rest => block (depth + 1) ('*' :: '/' :: out) rest
  | '*' :: '/' :: rest =>
    if depth ≤ 1 then some (out.reverse, rest) else block (depth - 1) ('/' :: '*' :: out) rest
  | c :: rest => block depth (c :: out) rest

/-- Whether every carriage return is followed by a line feed. -/
def hasFullLineEnds : List Char → Bool
  | [] => true
  | '\r' :: '\n' :: rest => hasFullLineEnds rest
  | c :: rest => c ≠ '\r' && hasFullLineEnds rest

/-- The attribute that a documenting comment stands for. -/
def documentation (inner : Bool) (text : List Char) : List Lexeme :=
  [.token (.sign '#' false)] ++ (if inner then [.token (.sign '!' false)] else []) ++
    [.opening .bracket, .token (.word "doc"), .token (.sign '=' false),
      .token (.literal (.text (String.ofList text))), .closing .bracket]

/-- Reads a documenting comment. -/
def documented (inner : Bool) (found : Option (List Char × List Char)) :
    Option (List Lexeme × List Char) := do
  let (text, rest) ← found
  if hasFullLineEnds text then some (documentation inner text, rest) else none

/-- Reads a comment. Two slashes or a slash and a star start one; a documenting one has a third mark
that is not followed by the same again. -/
def comment? (cs : List Char) : Option (List Lexeme × List Char) :=
  match cs with
  | '/' :: '/' :: '!' :: rest => documented true (some (line [] rest))
  | '/' :: '/' :: '/' :: '/' :: rest => some ([], (line [] rest).2)
  | '/' :: '/' :: '/' :: rest => documented false (some (line [] rest))
  | '/' :: '/' :: rest => some ([], (line [] rest).2)
  | '/' :: '*' :: '!' :: rest => documented true (block 1 [] rest)
  | '/' :: '*' :: '*' :: '/' :: rest => some ([], rest)
  | '/' :: '*' :: '*' :: '*' :: rest => (block 1 [] ('*' :: '*' :: rest)).map fun r => ([], r.2)
  | '/' :: '*' :: '*' :: rest => documented false (block 1 [] rest)
  | '/' :: '*' :: rest => (block 1 [] rest).map fun r => ([], r.2)
  | _ => none

def ofText (read : Option (String × List Char)) : Option (Lexeme × List Char) :=
  read.map fun r => (.token (.literal (.text r.1)), Quotation.dropSuffix r.2)

def ofOther (rest : Option (List Char)) : Option (Lexeme × List Char) :=
  rest.map fun r => (.token (.literal .other), Quotation.dropSuffix r)

def ofZeroEnded (start : List Char) (read : Option (String × List Char)) :
    Option (Lexeme × List Char) :=
  read.map fun r =>
    let rest := Quotation.dropSuffix r.2
    (.token (.literal (.zeroEnded (String.ofList (start.take (start.length - rest.length))))), rest)

open Quotation in
/-- Reads a literal. -/
def literal? (cs : List Char) : Option (Lexeme × List Char) :=
  match cs with
  | '"' :: rest => ofText (readFrom textKind .plain [] rest)
  | 'r' :: rest => ofText (raw textKind rest)
  | 'b' :: '"' :: rest => ofOther ((readFrom byteKind .plain [] rest).map (·.2))
  | 'b' :: 'r' :: rest => ofOther ((raw byteKind rest).map (·.2))
  | 'b' :: '\'' :: rest => ofOther (single byteKind rest)
  | 'c' :: '"' :: rest => ofZeroEnded cs (readFrom zeroEndedKind .plain [] rest)
  | 'c' :: 'r' :: rest => ofZeroEnded cs (raw zeroEndedKind rest)
  | '\'' :: rest => ofOther (single textKind rest)
  | _ => (Numeral.read cs).map fun rest => (.token (.literal .other), rest)

/-- Beginnings that only a literal can have. -/
def literalStarts : List (List Char) :=
  ["r\"", "r#\"", "r##", "b\"", "b'", "br\"", "br#", "c\"", "cr\"", "cr#"].map String.toList

/-- Reads a word, with or without the mark of raw ones. -/
def anyWord? (cs : List Char) : Option (String × List Char) :=
  match cs with
  | 'r' :: '#' :: c :: rest =>
    let bare := String.ofList (c :: rest.takeWhile isWordPart)
    if isWordStart c && !neverRaw.contains bare then
      some (rawMark ++ bare, rest.dropWhile isWordPart)
    else none
  | c :: rest =>
    if isWordStart c then
      some (String.ofList (c :: rest.takeWhile isWordPart), rest.dropWhile isWordPart)
    else none
  | [] => none

def word? (cs : List Char) : Option (Lexeme × List Char) :=
  if literalStarts.any (·.isPrefixOf cs) then none
  else (anyWord? cs).map fun r => (.token (.word r.1), r.2)

def signs : List Char := "~!@#$%^&*-=+|;:,<.>/?'".toList

/-- Whether a sign comes next, and not a comment. -/
def startsWithSign (cs : List Char) : Bool :=
  match cs with
  | '/' :: '/' :: _ | '/' :: '*' :: _ => false
  | c :: _ => signs.contains c
  | [] => false

/-- Reads a sign. A single quote is one only in front of a word that no quote follows. -/
def sign? (cs : List Char) : Option (Lexeme × List Char) :=
  match cs with
  | '\'' :: rest => do
    let (_, behind) ← anyWord? rest
    if behind.head? = some '\'' then none
    else if behind.head? = some '#' && !(rawMark.toList.isPrefixOf rest) then none
    else some (.token (.sign '\'' true), rest)
  | c :: rest => if startsWithSign cs then some (.token (.sign c (startsWithSign rest)), rest) else none
  | [] => none

def delimiter? (c : Char) : Option Lexeme :=
  match c with
  | '(' => some (.opening .parenthesis)
  | ')' => some (.closing .parenthesis)
  | '[' => some (.opening .bracket)
  | ']' => some (.closing .bracket)
  | '\x7b' => some (.opening .brace)
  | '\x7d' => some (.closing .brace)
  | _ => none

/-- Reads what comes next: nothing in the place of a blank or a comment. -/
def next? (c : Char) (rest : List Char) : Option (List Lexeme × List Char) :=
  if isBlank c then some ([], rest)
  else
    match delimiter? c with
    | some l => some ([l], rest)
    | none =>
      (comment? (c :: rest)).or
        ((((literal? (c :: rest)).or (sign? (c :: rest))).or (word? (c :: rest))).map
          fun r => ([r.1], r.2))

/-- Reads at most `fuel` times, `out` being what was read so far, the last one first. -/
def readFrom (out : List Lexeme) : Nat → List Char → Option (List Lexeme)
  | _, [] => some out.reverse
  | 0, _ => none
  | fuel + 1, c :: rest =>
    match next? c rest with
    | some (found, rest) => readFrom (found.reverse ++ out) fuel rest
    | none => none

end Lexeme

/-- The tokens of a source text; absent if it is none. -/
def tokens? (s : String) : Option (List Token) := do
  let cs := match s.toList with
    | c :: rest => if c.toNat = 0xFEFF then rest else c :: rest
    | [] => []
  Lexeme.nest [] [] (← Lexeme.readFrom [] cs.length cs)

end DeployTrigger.Kit.Source
