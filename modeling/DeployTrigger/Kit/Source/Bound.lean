import DeployTrigger.Kit.Source.Path

/-!
Paths with arguments in source text, and the bounds that they make. Types occur in both, so that the
readers for types are given from outside. Only the form is checked.
-/
namespace DeployTrigger.Kit.Source

namespace TypeForm

open Reader

/-- What a type looks like, as far as it matters for what may follow. -/
inductive Shape where
  | path
  /-- A single name with arguments. -/
  | applied
  /-- A single bound that stands for a type. -/
  | bound
  | other
  deriving DecidableEq, Repr

inductive Bound where
  | trait
  | lifetime
  deriving DecidableEq, Repr

/-- Readers for what occurs inside of types and bounds. -/
structure Forms where
  /-- A type, to which plus signs may add bounds or not. -/
  type : Bool → Reader Shape
  bound : Reader Bound

/-- What ends a list of bounds. -/
def endsBounds (ts : List Token) : Bool :=
  ts.isEmpty || Sees.group .brace ts || Sees.sign "," ts || Sees.sign ";" ts ||
    (Sees.sign ":" ts && !Sees.sign "::" ts) || Sees.sign "=" ts

def startsBound (ts : List Token) : Bool :=
  Sees.anyWord ts || Sees.sign "::" ts || Sees.sign "?" ts || Sees.lifetime ts ||
    Sees.group .parenthesis ts || Sees.sign "~" ts

/-- Lifetimes behind the word `for`, if it comes next; whether it does. -/
def boundLifetimes : Reader Bool := do
  if ← word? "for" then
    sign "<"
    listUntil (Sees.sign ">") "," do
      attributes
      lifetime
    sign ">"
    pure true
  else pure false

/-- A constant as an argument: a literal, a name or a block. -/
def constantArgument : Reader Unit := do
  if ← sees Sees.literal then literal
  else if ← sees Sees.identifier then drop 1
  else group .brace takeAll

/-- Bounds with plus signs between them, up to what ends them. -/
def boundsUntil (bound : Reader Bound) (last : List Token → Bool) : Reader Unit :=
  loop do
    if ← sees last then return false
    let _ ← bound
    sign? "+"

/-- Bounds with plus signs between them; whether one of them is a trait. -/
def boundsFrom (bound : Reader Bound) (plus traits : Bool) : Nat → Reader Bool
  | 0 => pure traits
  | n + 1 => do
    let traits := (← bound) = .trait || traits
    if plus && (← sign? "+") then
      if ← sees startsBound then boundsFrom bound plus traits n else pure traits
    else pure traits

def bounds (bound : Reader Bound) (plus : Bool) : Reader Bool := do
  boundsFrom bound plus false ((← rest).length + 1)

/-- The type behind an arrow, if there is an arrow; whether there is. -/
def output (sub : Forms) (plus : Bool) : Reader Bool := do
  if ← sign? "->" then
    let _ ← sub.type plus
    pure true
  else pure false

def startsParenthesized (ts : List Token) : Bool :=
  Sees.group .parenthesis ts ||
    (Sees.sign "::" ts && Sees.group .parenthesis (behindNext (behindNext ts)))

/-- Types between parentheses as arguments, and a type behind an arrow. -/
def parenthesized (sub : Forms) : Reader Unit := do
  let _ ← sign? "::"
  group .parenthesis (commaSeparated (discard (sub.type true)))
  let _ ← output sub false

/-- An argument between angle brackets. -/
def argument (sub : Forms) : Reader Unit := do
  let ts ← rest
  let behind := behindNext ts
  if Sees.lifetime ts && !Sees.sign "+" behind then lifetime
  else if Sees.identifier ts && Sees.sign "=" behind then
    drop 2
    if ← sees Sees.literal then literal
    else if ← sees (Sees.group .brace) then drop 1
    else discard (sub.type true)
  else if Sees.identifier ts && Sees.sign ":" behind && !Sees.sign "::" behind then
    drop 2
    boundsUntil sub.bound fun ts => Sees.sign "," ts || Sees.sign ">" ts
  else if Sees.literal ts || Sees.group .brace ts then constantArgument
  else
    let shape ← sub.type true
    if shape = .applied then
      if ← sign? "=" then discard (sub.type true)
      else if ← sign? ":" then
        boundsUntil sub.bound fun ts => Sees.sign "," ts || Sees.sign ">" ts

/-- Arguments between angle brackets. -/
def arguments (sub : Forms) : Reader Unit := do
  let _ ← sign? "::"
  sign "<"
  listUntil (Sees.sign ">") "," (argument sub)
  sign ">"

/-- A name in a path; whether it has arguments. In front of them colons may stand, in expressions
they have to. -/
def segment (sub : Forms) (inExpression : Bool) : Reader Bool := do
  if ← sees fun ts => ["super", "self", "crate", "try"].any (Sees.word · ts) then
    drop 1
    pure false
  else
    if ← sees (Sees.word "Self") then drop 1 else discard identifier
    let ts ← rest
    if (!inExpression && Sees.sign "<" ts && !Sees.sign "<=" ts) ||
        (Sees.sign "::" ts && Sees.sign "<" (behindNext (behindNext ts))) then
      arguments sub
      pure true
    else pure false

/-- What is known of a path: how many names it has and whether the last of them has arguments, and
whether any has. -/
structure PathInfo where
  names : Nat
  lastApplied : Bool
  anyApplied : Bool
  /-- Whether it begins with colons or with a type. -/
  anchored : Bool

/-- Further names of a path. -/
def segmentsFrom (sub : Forms) (inExpression : Bool) (info : PathInfo) : Nat → Reader PathInfo
  | 0 => pure info
  | n + 1 => do
    let ts ← rest
    if Sees.sign "::" ts && !Sees.group .parenthesis (behindNext (behindNext ts)) then
      drop 2
      let applied ← segment sub inExpression
      segmentsFrom sub inExpression
        { info with names := info.names + 1, lastApplied := applied,
                    anyApplied := info.anyApplied || applied } n
    else pure info

def path (sub : Forms) (inExpression : Bool) : Reader PathInfo := do
  let anchored ← sign? "::"
  let applied ← segment sub inExpression
  segmentsFrom sub inExpression ⟨1, applied, applied, anchored⟩ ((← rest).length + 1)

/-- Names behind the type that they belong to. -/
def qualifiedFrom (sub : Forms) (inExpression : Bool) : Nat → Reader Bool
  | 0 => pure false
  | n + 1 => do
    let applied ← segment sub inExpression
    if ← sign? "::" then qualifiedFrom sub inExpression n else pure applied

/-- A path that may begin with a type between angle brackets; whether it does. -/
def qualifiedPath (sub : Forms) (inExpression : Bool) : Reader (Bool × PathInfo) := do
  if ← sign? "<" then
    discard (sub.type true)
    if ← word? "as" then discard (path sub false)
    sign ">"
    sign "::"
    let applied ← qualifiedFrom sub inExpression ((← rest).length + 1)
    pure (true, ⟨1, applied, applied, true⟩)
  else pure (false, ← path sub inExpression)

/-- A trait as a bound. -/
def traitBound (sub : Forms) : Reader Unit := do
  let ts ← rest
  if Sees.sign "~" ts && Sees.word "const" (behindNext ts) then drop 2
  let _ ← sign? "?"
  let _ ← boundLifetimes
  let info ← path sub false
  if !info.lastApplied && (← sees startsParenthesized) then parenthesized sub

def boundWith (sub : Forms) : Reader Bound := do
  if ← sees Sees.lifetime then
    lifetime
    pure .lifetime
  else if ← sees (Sees.group .parenthesis) then
    group .parenthesis (traitBound sub)
    pure .trait
  else
    traitBound sub
    pure .trait

/-- Further bounds behind plus signs. -/
def moreBounds (sub : Forms) : Reader Unit :=
  loop do
    if ← sign? "+" then
      if ← sees startsBound then
        discard sub.bound
        pure true
      else pure false
    else pure false

end TypeForm
end DeployTrigger.Kit.Source
