import DeployTrigger.CommandLine.Switch
import DeployTrigger.Text.Utf8

/-!
What an argument says by itself. Behind two dashes stands a long name, with a value behind an equals
sign; behind one dash stand letters, and what follows the letter of a switch with a value is its
value. Everything else is plain, a lone dash included.
-/
namespace DeployTrigger.CommandLine

inductive Mention where
  /-- A switch and the value that is attached to it. -/
  | switch (s : Switch) (value : Option Bytes)
  | unknown (name : String)
  deriving DecidableEq, Repr

inductive Argument where
  /-- What follows is plain. -/
  | separator
  | switches (mentions : List Mention)
  | plain (text : Bytes)
  deriving DecidableEq, Repr

namespace Mention

def dash : UInt8 := 0x2D

def equals : UInt8 := 0x3D

/-- The switch with a long name, both behind the dashes. -/
def ofLong (b : Bytes) : Mention :=
  let name := b.takeWhile (· ≠ equals)
  match (Utf8.decode? name).bind Switch.ofLong? with
  | some s => switch s (if name = b then none else some (b.drop (name.length + 1)))
  | none => unknown ("--" ++ Utf8.lossy name)

/-- The value that follows a letter, an equals sign in front of it being left out. -/
def attached (b : Bytes) : Option Bytes :=
  if b.isEmpty then none else if b.head? = some equals then some b.tail else some b

/-- The switches with the given letters, behind which stand bytes that are no text. -/
def ofLetters (broken : Bytes) : List Char → List Mention
  | [] => if broken.isEmpty then [] else [unknown ("-" ++ Utf8.lossy broken)]
  | c :: rest =>
    match Switch.ofShort? c with
    | none => [unknown ("-" ++ String.singleton c)]
    | some s =>
      if s.takesValue then [switch s (attached (utf8 (String.ofList rest) ++ broken))]
      else switch s none :: ofLetters broken rest

/-- The switches in an argument behind its dash. -/
def ofShort (b : Bytes) : List Mention :=
  let n := match Utf8.fault? b with
    | some fault => fault.offset
    | none => b.length
  ofLetters (b.drop n) (Utf8.lossy (b.take n)).toList

end Mention

/-- Takes an argument by itself. -/
def Argument.ofBytes (b : Bytes) : Argument :=
  match b with
  | x :: y :: rest =>
    if x = Mention.dash then
      if y = Mention.dash then
        if rest.isEmpty then separator else switches [Mention.ofLong rest]
      else switches (Mention.ofShort (y :: rest))
    else plain b
  | _ => plain b

end DeployTrigger.CommandLine
