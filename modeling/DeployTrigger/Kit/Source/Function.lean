import DeployTrigger.Kit.Source.Pattern

/-!
Functions in source text. What is kept of a function is its name, and what its head says about the
way it can be called.
-/
namespace DeployTrigger.Kit.Source

/-- A parameter that a function is generic in. -/
inductive GenericParam where
  | lifetime
  | type
  | constant
  deriving DecidableEq, Repr

/-- An input of a function. -/
inductive Input where
  /-- The value that a method is called on, without a type of its own. -/
  | receiver
  /-- A pattern with its type. -/
  | typed
  deriving DecidableEq, Repr

/-- The forms that an input has in source text. -/
inductive InputForm where
  | receiver
  /-- A pattern, a colon and a type. -/
  | typed
  /-- A type alone. -/
  | anonymous
  /-- A pattern, a colon and three dots. -/
  | dotted
  /-- Three dots. -/
  | dots
  deriving DecidableEq, Repr

namespace InputForm

/-- A type alone has a pattern that takes any value, and three dots count as a type. -/
def input : InputForm → Input
  | receiver => .receiver
  | typed | anonymous | dotted | dots => .typed

/-- Whether any further inputs may follow one of this form at the end. -/
def isOpen : InputForm → Bool
  | dotted | dots => true
  | receiver | typed | anonymous => false

end InputForm

structure Function where
  name : String
  isAsync : Bool
  generics : List GenericParam
  inputs : List Input
  /-- Whether any further inputs may follow. -/
  isVariadic : Bool
  hasOutput : Bool
  deriving DecidableEq, Repr

namespace Function

open Reader TypeForm

/-- Who may see the function. A place in parentheses may restrict it; if there is none, the
parentheses are left alone. -/
def visibility : Reader Unit := do
  let ts ← rest
  if Sees.word "pub" ts then
    drop 1
    match ts with
    | _ :: .group .parenthesis content :: _ =>
      if Sees.word "in" content then
        group .parenthesis do
          word "in"
          plainPath
      else if content.length = 1 &&
          (Sees.word "crate" content || Sees.word "self" content || Sees.word "super" content) then
        drop 1
    | _ => pure ()
  else if Sees.word "crate" ts && !Sees.sign "::" (behindNext ts) then drop 1

/-- Bounds of a generic parameter, if a colon comes next. -/
def parameterBounds (bound : Reader Bound) (last : List Token → Bool) : Reader Unit := do
  if ← sign? ":" then boundsUntil bound last

/-- Bounds of a lifetime, which are lifetimes. -/
def outlived (last : List Token → Bool) : Reader Unit := do
  if ← sign? ":" then
    loop do
      if ← sees last then return false
      lifetime
      sign? "+"

def endsParameter (ts : List Token) : Bool := Sees.sign "," ts || Sees.sign ">" ts

def genericParam (forms : Forms) : Reader GenericParam := do
  attributes
  let ts ← rest
  if Sees.lifetime ts then
    lifetime
    outlived endsParameter
    pure .lifetime
  else if Sees.identifier ts then
    drop 1
    parameterBounds forms.bound fun ts => endsParameter ts || Sees.sign "=" ts
    if ← sign? "=" then discard (forms.type true)
    pure .type
  else if Sees.word "const" ts then
    drop 1
    discard identifier
    sign ":"
    discard (forms.type true)
    if ← sign? "=" then constantArgument
    pure .constant
  else if Sees.word "_" ts then
    drop 1
    pure .type
  else fail ["lifetime", "identifier", quoted "const"]

/-- Generic parameters, `out` being those read so far. -/
def genericsFrom (forms : Forms) (out : List GenericParam) : Nat → Reader (List GenericParam)
  | 0 => pure out
  | n + 1 => do
    if ← sees (Sees.sign ">") then return out
    let out := out ++ [← genericParam forms]
    if ← sees (Sees.sign ">") then return out
    sign ","
    genericsFrom forms out n

def genericList : Reader (List GenericParam) := do
  if ← sign? "<" then
    let params ← genericsFrom (← forms) [] ((← rest).length + 1)
    sign ">"
    pure params
  else pure []

/-- How many tokens a receiver takes, if one comes next: a reference with an optional lifetime, the
word `mut`, the word `self`. A colon makes it a pattern. -/
def receiverWidth? (ts : List Token) : Option Nat :=
  let reference := if Sees.sign "&" ts then
      if Sees.lifetime (ts.drop 1) then 3 else 1
    else 0
  let width := reference + if Sees.word "mut" (ts.drop reference) then 1 else 0
  let behind := ts.drop width
  if Sees.word "self" behind && !Sees.sign ":" (behind.drop 1) then some (width + 1) else none

/-- An input with a pattern, or a type alone: a name with arguments is no pattern. Three dots may stand
for the type behind a pattern. -/
def typedInput (forms : Forms) : Reader InputForm := do
  let ts ← rest
  if Sees.identifier ts && Sees.sign "<" (behindNext ts) then
    discard (forms.type true)
    pure .anonymous
  else
    Pattern.read
    sign ":"
    if ← sign? "..." then pure .dotted
    else
      discard (forms.type true)
      pure .typed

/-- An input behind others. Only the first one can be a receiver. -/
def inputBehind (forms : Forms) (out : List InputForm) : Reader InputForm := do
  attributes
  if ← sign? "..." then pure .dots
  else
    attributes
    match receiverWidth? (← rest) with
    | some width =>
      drop width
      if out.contains .receiver then throw (.notAllowed "unexpected second method receiver")
      if !out.isEmpty then throw (.notAllowed "unexpected method receiver")
      pure .receiver
    | none => typedInput forms

/-- Inputs as they are read, and whether a comma follows the last one. -/
structure Inputs where
  forms : List InputForm := []
  comma : Bool := false

def inputsFrom (forms : Forms) (out : Inputs) : Nat → Reader Inputs
  | 0 => pure out
  | n + 1 => do
    if ← atEnd then return out
    let form ← inputBehind forms out.forms
    if ← atEnd then return ⟨out.forms ++ [form], false⟩
    sign ","
    inputsFrom forms ⟨out.forms ++ [form], true⟩ n

/-- The inputs proper: three dots at the very end are none. -/
def Inputs.proper (read : Inputs) : List InputForm :=
  if read.forms.getLast? = some .dots && !read.comma then read.forms.dropLast else read.forms

/-- The inputs between the parentheses, and whether any further ones may follow. -/
def inputList : Reader (List Input × Bool) := do
  let forms ← forms
  let read ← group .parenthesis do inputsFrom forms {} ((← rest).length + 1)
  pure (read.proper.map InputForm.input, read.forms.getLast?.any InputForm.isOpen)

/-- A condition: what a lifetime or a type is bound by. -/
def condition (forms : Forms) : Reader Unit := do
  let ts ← rest
  if Sees.lifetime ts && Sees.sign ":" (behindNext ts) then
    lifetime
    outlived endsBounds
  else
    let _ ← boundLifetimes
    discard (forms.type true)
    sign ":"
    boundsUntil forms.bound endsBounds

/-- Conditions behind the word `where`. -/
def conditions : Reader Unit := do
  let forms ← forms
  if ← word? "where" then
    loop do
      if ← sees endsBounds then return false
      condition forms
      sign? ","

/-- A function with its body, of which the tokens are not looked at. -/
def reader : Reader Function := do
  attributes
  visibility
  let _ ← word? "const"
  let isAsync ← word? "async"
  let _ ← word? "unsafe"
  interface
  word "fn"
  let name ← identifier
  let generics ← genericList
  let (inputs, isVariadic) ← inputList
  let hasOutput ← output (← forms) true
  conditions
  group .brace takeAll
  pure ⟨name, isAsync, generics, inputs, isVariadic, hasOutput⟩

/-- The function that the tokens are. -/
def ofTokens (ts : List Token) : Except Flaw Function := reader.run ts

end Function
end DeployTrigger.Kit.Source
