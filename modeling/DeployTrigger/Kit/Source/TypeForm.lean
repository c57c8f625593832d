import DeployTrigger.Kit.Source.Bound

/-!
Types in source text. Only the form is checked; of expressions in types, such as the length of an
array, no more than that they are there.
-/
namespace DeployTrigger.Kit.Source.TypeForm

open Reader

/-- A path as a type: it may turn out to be a call between delimiters or the first of some bounds. -/
def pathType (sub : Forms) (plus lifetimes : Bool) : Reader Shape := do
  let (qualified, info) ← qualifiedPath sub false
  let called ← if !info.lastApplied && (← sees startsParenthesized) then
      parenthesized sub
      pure true
    else pure false
  if qualified then return .path
  if !info.anyApplied && !called && (← sees fun ts => Sees.sign "!" ts && !Sees.sign "!=" ts) then
    drop 1
    match ← rest with
    | .group .. :: _ =>
      drop 1
      return .other
    | _ => fail ["delimiter"]
  if lifetimes || (plus && (← sees (Sees.sign "+"))) then
    let single := !(← sees (Sees.sign "+"))
    if plus then moreBounds sub
    return if single then .bound else .other
  pure (if info.names = 1 && info.lastApplied && !info.anchored then .applied else .path)

/-- The type of a function. -/
def functionType (sub : Forms) : Reader Unit := do
  let _ ← word? "unsafe"
  interface
  word "fn"
  group .parenthesis do
    commaSeparated do
      attributes
      if !(← sign? "...") then
        let ts ← rest
        let behind := behindNext ts
        if (Sees.identifier ts || Sees.word "_" ts) && Sees.sign ":" behind &&
            !Sees.sign "::" behind then drop 2
        discard (sub.type true)
  let _ ← output sub false

/-- A type between parentheses, several of them, or a bound. -/
def parenthesizedType (sub : Forms) (plus : Bool) : Reader Shape := do
  let inner : Reader Shape := do
    if ← atEnd then return .other
    if ← sees Sees.lifetime then
      let traits ← bounds sub.bound true
      if !traits then throw (.notAllowed "at least one trait is required for an object type")
      return .other
    if ← sees (Sees.sign "?") then
      traitBound sub
      return .bound
    let first ← sub.type true
    if ← sign? "," then
      commaSeparated (discard (sub.type true))
      return .other
    pure first
  let ts ← rest
  let optional := match ts with
    | .group _ content :: _ => Sees.sign "?" content
    | _ => false
  let shape ← group .parenthesis inner
  if optional then
    moreBounds sub
    return .other
  if plus && shape ≠ .other && (← sees (Sees.sign "+")) then moreBounds sub
  pure .other

/-- Words and signs that types begin with, in the order of the attempts. -/
def beginnings : List String :=
  [quoted "for", Delimiter.parenthesis.name, quoted "fn", quoted "unsafe", quoted "extern",
    "identifier", quoted "::", quoted "<", quoted "dyn", Delimiter.bracket.name, quoted "*",
    quoted "&", quoted "!", quoted "impl", quoted "_", "lifetime"]

/-- What may follow lifetimes in front of a type. -/
def beginningsBehindFor : List String :=
  ["identifier", quoted "fn", quoted "unsafe", quoted "extern", quoted "super", quoted "self",
    quoted "Self", quoted "crate"]

def seesFunction (ts : List Token) : Bool :=
  Sees.word "fn" ts || Sees.word "unsafe" ts || Sees.word "extern" ts

/-- Several bounds as a type. -/
def objectType (sub : Forms) (plus : Bool) : Reader Shape := do
  let traits ← bounds sub.bound plus
  if !traits then throw (.notAllowed "at least one trait is required for an object type")
  pure .other

def typeWith (sub : Forms) (plus : Bool) : Reader Shape := do
  let lifetimes ← boundLifetimes
  let ts ← rest
  if lifetimes && !(Sees.identifier ts || seesFunction ts || seesPathWord ts) then
    fail beginningsBehindFor
  if Sees.group .parenthesis ts then parenthesizedType sub plus
  else if seesFunction ts then
    functionType sub
    pure .other
  else if Sees.identifier ts || seesPathWord ts || Sees.sign "::" ts || Sees.sign "<" ts then
    pathType sub plus lifetimes
  else if Sees.word "dyn" ts then
    drop 1
    objectType sub plus
  else if Sees.group .bracket ts then
    group .bracket do
      discard (sub.type true)
      if ← sign? ";" then
        if ← atEnd then fail ["expression"]
        takeAll
    pure .other
  else if Sees.sign "*" ts then
    drop 1
    if !(← word? "const") && !(← word? "mut") then fail [quoted "const", quoted "mut"]
    discard (sub.type false)
    pure .other
  else if Sees.sign "&" ts then
    drop 1
    if ← sees Sees.lifetime then lifetime
    let _ ← word? "mut"
    discard (sub.type false)
    pure .other
  else if Sees.sign "!" ts && !Sees.sign "!=" ts then
    drop 1
    pure .other
  else if Sees.word "impl" ts then
    drop 1
    let traits ← bounds sub.bound plus
    if !traits then throw (.notAllowed "at least one trait must be specified")
    pure .other
  else if Sees.word "_" ts then
    drop 1
    pure .other
  else if Sees.lifetime ts then objectType sub true
  else fail beginnings

/-- Readers for types and bounds that are nested no deeper than so much. -/
def formsUpTo : Nat → Forms
  | 0 => ⟨fun _ => fail beginnings, fail ["identifier"]⟩
  | n + 1 => ⟨typeWith (formsUpTo n), boundWith (formsUpTo n)⟩

/-- Readers for the types and bounds that can stand here: each nesting takes a token. -/
def forms : Reader Forms := do pure (formsUpTo (sizeAll (← rest) + 1))

end DeployTrigger.Kit.Source.TypeForm
