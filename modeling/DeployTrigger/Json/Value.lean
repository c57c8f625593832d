import DeployTrigger.Json.Number
import DeployTrigger.Json.Text
import DeployTrigger.Text.Quoted

/-! Whole documents: values of all kinds, nested up to a depth. -/
namespace DeployTrigger.Json

inductive Value where
  | null
  | bool (b : Bool)
  | number (n : Number)
  | text (s : String)
  | array (items : List Value)
  /-- Members in the order of the document, repeated keys included. -/
  | object (members : List (String × Value))
  deriving Repr

/-- A value in a message. -/
def Value.described : Value → String
  | null => "null"
  | bool b => "boolean `" ++ (if b then "true" else "false") ++ "`"
  | number n => n.described
  | text s => "string " ++ Quoted.quote s
  | array _ => "sequence"
  | object _ => "map"

/-- A value of the wrong kind. -/
def Value.wrongType (v : Value) (expected : String) : Flaw :=
  .mismatch ("invalid type: " ++ v.described ++ ", expected " ++ expected)

/-- A value of the right kind that stands for nothing. -/
def Value.wrongValue (v : Value) (expected : String) : Flaw :=
  .mismatch ("invalid value: " ++ v.described ++ ", expected " ++ expected)

/-- Brackets nest at most so deep below a document's outermost one. -/
def maxDepth : Nat := 126

namespace Reader

/-- The value in front, arrays and objects being read as told. -/
def valueWith (array object : Reader Value) : Reader Value := do
  match ← peekToken with
  | none => fail .eofInValue
  | some c =>
    if c = 'n' then do
      advance
      word ['u', 'l', 'l']
      pure .null
    else if c = 't' then do
      advance
      word ['r', 'u', 'e']
      pure (.bool true)
    else if c = 'f' then do
      advance
      word ['a', 'l', 's', 'e']
      pure (.bool false)
    else if c = '"' then do
      pure (.text (← text))
    else if c = '[' then array
    else if c = '\x7b' then object
    else if c = '-' || Char.isDigit c then do
      pure (.number (← number))
    else failAhead .expectedValue

/-- Items up to the closing bracket, which is not taken; `out` holds those before, last one
first. -/
def items (item : Reader Value) (out : List Value) : Nat → Reader (List Value)
  | 0 => fail .eofInArray
  | fuel + 1 => do
    match ← peekToken with
    | none => fail .eofInArray
    | some c =>
      if c = ']' then pure out.reverse
      else if out.isEmpty then do
        items item [← item] fuel
      else if c = ',' then do
        advance
        match ← peekToken with
        | some ']' => failAhead .trailingComma
        | none => fail .eofInValue
        | some _ => items item ((← item) :: out) fuel
      else failAhead .expectedArrayCommaOrEnd

def arrayOf (item : Reader Value) : Reader Value := do
  advance
  let vs ← items item [] ((← get).rest.length + 1)
  advance
  pure (.array vs)

/-- The key of the next member, if there is one; `first` if none came before. -/
def nextKey (first : Bool) : Reader (Option String) := do
  let key (atEnd : Reader (Option String)) : Reader (Option String) := do
    match ← peek with
    | none => fail .eofInValue
    | some c =>
      if c = '"' then some <$> text else if c = '\x7d' then atEnd else failAhead .keyNotText
  match ← peekToken with
  | none => fail .eofInObject
  | some c =>
    if c = '\x7d' then pure none
    else if first then key (pure none)
    else if c = ',' then do
      advance
      skipBlanks
      key (failAhead .trailingComma)
    else failAhead .expectedObjectCommaOrEnd

/-- The colon behind a key. -/
def colon : Reader Unit := do
  match ← peekToken with
  | none => fail .eofInObject
  | some c => if c = ':' then advance else failAhead .expectedColon

/-- Members up to the closing brace, which is not taken. -/
def members (item : Reader Value) (out : List (String × Value)) :
    Nat → Reader (List (String × Value))
  | 0 => fail .eofInObject
  | fuel + 1 => do
    match ← nextKey out.isEmpty with
    | none => pure out.reverse
    | some k => do
      colon
      members item ((k, ← item) :: out) fuel

def objectOf (item : Reader Value) : Reader Value := do
  advance
  let ms ← members item [] ((← get).rest.length + 1)
  advance
  pure (.object ms)

/-- The value in front, with brackets nested at most `depth` times. -/
def value : Nat → Reader Value
  | 0 => valueWith (failAhead .tooDeep) (failAhead .tooDeep)
  | depth + 1 => valueWith (arrayOf (value depth)) (objectOf (value depth))

/-- Fails on a value that is not of the expected kind. Scalars are read first, brackets are not. -/
def reject {α : Type} (expected : String) : Reader α := do
  let v ← valueWith (do fail ((Value.array []).wrongType expected))
    (do fail ((Value.object []).wrongType expected))
  fail (v.wrongType expected)

/-- Nothing but blanks is left. -/
def ended : Reader Unit := do
  match ← peekToken with
  | none => pure ()
  | some _ => failAhead .trailingCharacters

/-- The value that a whole document holds. -/
def document {α : Type} (reader : Reader α) (s : String) : Except (Fault Error) α := do
  let (a, _) ← (do let a ← reader; ended; pure a : Reader α).run (.ofText s)
  pure a

end Reader
end DeployTrigger.Json
