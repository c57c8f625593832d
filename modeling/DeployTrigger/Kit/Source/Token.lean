/-!
Tokens of source text. Brackets of all kinds are matched, and what stands between them is one token.
-/
namespace DeployTrigger.Kit.Source

inductive Delimiter where
  | parenthesis | bracket | brace
  deriving DecidableEq, Repr

/-- What the pair of delimiters is called. -/
def Delimiter.name : Delimiter → String
  | parenthesis => "parentheses"
  | bracket => "square brackets"
  | brace => "curly braces"

inductive Literal where
  /-- A text, without its quotes and escapes. -/
  | text (value : String)
  /-- A text that ends with a zero byte, as it is written. -/
  | zeroEnded (written : String)
  /-- A byte text, a character, a byte or a number. -/
  | other
  deriving DecidableEq, Repr

inductive Token where
  /-- An identifier or a keyword. -/
  | word (text : String)
  /-- A sign, and whether another sign follows it without a gap. -/
  | sign (c : Char) (joint : Bool)
  | literal (l : Literal)
  | group (d : Delimiter) (content : List Token)
  deriving Repr

/-- Tokens before brackets are matched. -/
inductive Lexeme where
  | token (t : Token)
  | opening (d : Delimiter)
  | closing (d : Delimiter)
  deriving Repr

/-- Groups under way: the tokens read in front of each, the last one first, and its delimiter. -/
abbrev Lexeme.Stack := List (Delimiter × List Token)

/-- Matches the brackets, `out` being the tokens of the innermost group so far, last one first. -/
def Lexeme.nest (stack : Stack) (out : List Token) : List Lexeme → Option (List Token)
  | [] => if stack.isEmpty then some out.reverse else none
  | token t :: rest => nest stack (t :: out) rest
  | opening d :: rest => nest ((d, out) :: stack) [] rest
  | closing d :: rest =>
    match stack with
    | (opened, outer) :: stack =>
      if opened = d then nest stack (.group d out.reverse :: outer) rest else none
    | [] => none

mutual

/-- The number of tokens in a token, itself included. -/
def Token.size : Token → Nat
  | .group _ content => sizeAll content + 1
  | _ => 1

/-- The number of tokens in tokens. -/
def sizeAll : List Token → Nat
  | [] => 0
  | t :: rest => t.size + sizeAll rest

end

end DeployTrigger.Kit.Source
