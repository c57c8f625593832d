import DeployTrigger.Config
import DeployTrigger.Json.Value
import DeployTrigger.Time.Duration.Units

/-!
Settings as a JSON object. Each setting is a member of its own, in any order; members that are
missing take their defaults and members of other names are read and dropped. The two limits are
looked at only when the object was read to its end.
-/
namespace DeployTrigger.Config

open Json Json.Reader

/-- The settings as a compact document. -/
def toDocument (c : Config) : String :=
  let timeout := match c.timeout with
    | none => "null"
    | some d => Text.write d.inUnits
  "\x7b\"entrypoint\":" ++ Text.write c.entrypoint ++ ",\"timeout\":" ++ timeout ++
    ",\"maxAddressLen\":" ++ decimal c.limits.maxAddressLen.toNat ++
    ",\"maxSchemasLen\":" ++ decimal c.limits.maxSchemasLen.toNat ++ "\x7d"

/-- The members of a document as far as they were read. -/
structure Members where
  entrypoint : Option String
  timeout : Option (Option Duration)
  /-- All other members, last one first. -/
  others : List (String × Value)
  deriving Repr

/-- A text. -/
def readEntrypoint : Reader String := do
  match ← peekToken with
  | none => fail .eofInValue
  | some c => if c = '"' then text else reject "a string"

/-- A text that is a sum of numbers with units, or null. -/
def readTimeout : Reader (Option Duration) := do
  match ← peekToken with
  | none => fail .eofInValue
  | some c =>
    if c = 'n' then do
      advance
      word ['u', 'l', 'l']
      pure none
    else if c = '"' then do
      let s ← text
      match Duration.ofUnits s with
      | .ok d => pure (some d)
      | .error .refused => fail ((Value.text s).wrongValue "a duration")
      | .error .overrun => throw .breakdown
    else reject "a duration"

/-- Reads members to the closing brace, which is not taken, or to a key that came before. -/
def readMembers (first : Bool) (m : Members) : Nat → Reader (Except Flaw Members)
  | 0 => fail .eofInObject
  | fuel + 1 => do
    match ← nextKey first with
    | none => pure (.ok m)
    | some key =>
      if key = "entrypoint" then
        if m.entrypoint.isSome then pure (.error (.mismatch "duplicate field `entrypoint`"))
        else do
          colon
          readMembers false { m with entrypoint := some (← readEntrypoint) } fuel
      else if key = "timeout" then
        if m.timeout.isSome then pure (.error (.mismatch "duplicate field `timeout`"))
        else do
          colon
          readMembers false { m with timeout := some (← readTimeout) } fuel
      else do
        colon
        readMembers false { m with others := (key, ← value maxDepth) :: m.others } fuel

/-- A whole number of 64 bits. -/
def limitOf (v : Value) : Except Flaw UInt64 :=
  match v with
  | .number (.natural n) => .ok n
  | .number (.negative _) => .error (v.wrongValue "usize")
  | _ => .error (v.wrongType "usize")

/-- The limits among some members; each may occur once. -/
def limitsFrom (address schemas : Option UInt64) : List (String × Value) → Except Flaw Limits
  | [] => .ok ⟨address.getD 1024, schemas.getD 1048576⟩
  | (key, v) :: rest =>
    if key = "maxAddressLen" then
      if address.isSome then .error (.mismatch "duplicate field `maxAddressLen`")
      else
        match limitOf v with
        | .ok n => limitsFrom (some n) schemas rest
        | .error e => .error e
    else if key = "maxSchemasLen" then
      if schemas.isSome then .error (.mismatch "duplicate field `maxSchemasLen`")
      else
        match limitOf v with
        | .ok n => limitsFrom address (some n) rest
        | .error e => .error e
    else limitsFrom address schemas rest

/-- The settings of some members. -/
def ofMembers (m : Members) : Except Flaw Config :=
  match limitsFrom none none m.others.reverse with
  | .ok limits => .ok ⟨m.entrypoint.getD "deploy_contract", m.timeout.getD none, limits⟩
  | .error e => .error e

/-- Settings from the object in front. A flaw that has no place of its own is told behind the
object's brace, if that comes next. -/
def reader : Reader Config := do
  match ← peekToken with
  | none => fail .eofInValue
  | some c =>
    if c = '\x7b' then do
      advance
      let read ← readMembers true ⟨none, none, []⟩ ((← get).rest.length + 1)
      let brace := (← peekToken) = some '\x7d'
      if brace then advance
      match read.bind ofMembers with
      | .ok config => pure config
      | .error flaw => fail flaw
    else reject "struct Config"

/-- The settings of a whole document. -/
def ofDocument (s : String) : Except (Fault Error) Config := document reader s

end DeployTrigger.Config
