import DeployTrigger.Kit.Source.TypeForm

/-! Patterns in source text, such as stand in front of the types of inputs. Only the form is checked. -/
namespace DeployTrigger.Kit.Source.Pattern

open Reader TypeForm

/-- Patterns with bars between them; a bar may stand in front. -/
def alternatives (pattern : Reader Unit) : Reader Unit := do
  let _ ← sign? "|"
  pattern
  loop do
    if ← sees fun ts => Sees.sign "|" ts && !Sees.sign "||" ts && !Sees.sign "|=" ts then
      sign "|"
      pattern
      pure true
    else pure false

/-- A field, with a pattern for it or standing for itself. -/
def field (pattern : Reader Unit) : Reader Unit := do
  let boxed ← word? "box"
  let byRef ← word? "ref"
  let mutable ← word? "mut"
  match ← rest with
  | .literal _ :: _ =>
    drop 1
    sign ":"
    alternatives pattern
  | _ =>
    discard identifier
    if !boxed && !byRef && !mutable then
      if ← sign? ":" then alternatives pattern

/-- Fields between braces; two dots stand for all others. -/
def fields (pattern : Reader Unit) : Reader Unit :=
  loop do
    if ← atEnd then return false
    attributes
    if ← sign? ".." then return false
    field pattern
    if ← atEnd then return false
    sign ","
    pure true

/-- A path, and what the thing that it names is made of. -/
def ofPath (forms : Forms) (pattern : Reader Unit) : Reader Unit := do
  let (qualified, info) ← qualifiedPath forms true
  let ts ← rest
  if !qualified && !info.anyApplied && Sees.sign "!" ts && !Sees.sign "!=" ts then
    drop 1
    match ← rest with
    | .group .. :: _ => drop 1
    | _ => fail ["delimiter"]
  else if Sees.group .brace ts then group .brace (fields pattern)
  else if Sees.group .parenthesis ts then
    group .parenthesis (commaSeparated (alternatives pattern))
  else if Sees.sign ".." ts then
    if !(← sign? "..=") && !(← sign? "...") then sign ".."
    if ← sees Sees.literal then literal

/-- A name, with a pattern behind an at sign. -/
def named (pattern : Reader Unit) : Reader Unit := do
  let _ ← word? "ref"
  let _ ← word? "mut"
  anyWord
  if ← sign? "@" then pattern

/-- What patterns begin with, in the order of the attempts. -/
def beginnings : List String :=
  ["identifier", quoted "::", quoted "<", quoted "_", "literal", quoted "ref", quoted "mut",
    quoted "&", Delimiter.parenthesis.name, Delimiter.bracket.name, quoted "..", quoted "const"]

def startsPath (ts : List Token) : Bool :=
  let behind := behindNext ts
  (Sees.identifier ts && (Sees.sign "::" behind || Sees.sign "!" behind ||
      Sees.group .brace behind || Sees.group .parenthesis behind || Sees.sign ".." behind)) ||
    (Sees.word "self" ts && Sees.sign "::" behind) || Sees.sign "::" ts || Sees.sign "<" ts ||
    Sees.word "Self" ts || Sees.word "super" ts || Sees.word "crate" ts

def patternWith (forms : Forms) (pattern : Reader Unit) : Reader Unit := do
  let ts ← rest
  if startsPath ts then ofPath forms pattern
  else if Sees.word "_" ts then drop 1
  else if Sees.word "box" ts then
    drop 1
    pattern
  else if Sees.literal ts then
    literal
    if ← sees (Sees.sign "..") then
      if !(← sign? "..=") && !(← sign? "...") then sign ".."
      if ← sees Sees.literal then literal
  else if Sees.word "ref" ts || Sees.word "mut" ts || Sees.word "self" ts || Sees.identifier ts then
    named pattern
  else if Sees.sign "&" ts then
    drop 1
    let _ ← word? "mut"
    pattern
  else if Sees.group .parenthesis ts then
    group .parenthesis (commaSeparated (alternatives pattern))
  else if Sees.group .bracket ts then group .bracket (commaSeparated (alternatives pattern))
  else if Sees.sign ".." ts && !Sees.sign "..." ts then
    if ← sign? "..=" then literal else sign ".."
  else if Sees.word "const" ts then
    drop 1
    group .brace takeAll
  else fail beginnings

/-- A pattern nested no deeper than so much. -/
def patternUpTo (forms : Forms) : Nat → Reader Unit
  | 0 => fail beginnings
  | n + 1 => patternWith forms (patternUpTo forms n)

/-- A pattern: each nesting takes a token. -/
def read : Reader Unit := do patternUpTo (← forms) (sizeAll (← rest) + 1)

end DeployTrigger.Kit.Source.Pattern
