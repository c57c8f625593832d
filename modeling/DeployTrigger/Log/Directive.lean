import DeployTrigger.Fault
import DeployTrigger.Log.Event
import DeployTrigger.Text.CharSet.Alphanumeric
import DeployTrigger.Text.CharSet.Blank
import DeployTrigger.Text.Utf8
import DeployTrigger.Text.WordNumeral

/-!
Directives say up to which level the events of a target are let through. A directive is a level, or
a target with an optional level behind an equals sign; between target and level, brackets may ask for
a span of work or, in braces, for a field that an event must have. Every event has one field, its
message, and belongs to no span.
-/
namespace DeployTrigger.Log

structure Directive where
  /-- How the names of the targets begin; absent for all targets. -/
  target : Option String
  /-- A field that an event must have. -/
  field : Option String
  /-- The last level that is let through; absent if none is. -/
  threshold : Option Level
  deriving DecidableEq, Repr

namespace Directive

/-- Reading either fails, with nothing to say about it, or breaks down. -/
abbrev Reading := Except (Fault Unit)

/-- A threshold by its number, nothing being let through at zero. -/
def thresholdOfRank? (n : Nat) : Option (Option Level) :=
  match n with
  | 0 => some none
  | 1 => some (some .error)
  | 2 => some (some .warn)
  | 3 => some (some .info)
  | 4 => some (some .debug)
  | 5 => some (some .trace)
  | _ => none

/-- A threshold by its name, in letters of either case. -/
def thresholdOfName? (s : String) : Option (Option Level) :=
  match String.ofList (s.toList.map Char.toUpper) with
  | "OFF" => some none
  | "ERROR" => some (some .error)
  | "WARN" => some (some .warn)
  | "INFO" => some (some .info)
  | "DEBUG" => some (some .debug)
  | "TRACE" => some (some .trace)
  | _ => none

def threshold? (s : String) : Option (Option Level) :=
  match WordNumeral.read s with
  | .ok n => thresholdOfRank? n.toNat
  | .error _ => thresholdOfName? s

/-- What is being read, with the position where it starts. -/
inductive Place where
  | start
  /-- A level or a target. -/
  | word
  | span (first : Nat)
  | field (first : Nat)
  /-- Behind the closing brace. -/
  | closing
  /-- Behind the closing bracket. -/
  | scoped
  | level (first : Nat)
  deriving DecidableEq, Repr

/-- A directive in the making. -/
structure Draft where
  target : Option String := none
  field : Option String := none
  /-- Whether a span or the value of a field is asked for, so that no event complies. -/
  unmet : Bool := false
  deriving DecidableEq, Repr

/-- A text that is no directive. -/
def invalid {α : Type} : Reading α := .error (.error ())

/-- The part of a text between two positions. It breaks down inside of a character. -/
def cut (text : Bytes) (first last : Nat) : Reading String :=
  match Utf8.decode? ((text.take last).drop first) with
  | some s => .ok s
  | none => .error .breakdown

/-- Takes a field; behind an equals sign stands the value that it must have. -/
def Draft.addField (d : Draft) (s : String) : Reading Draft :=
  if s = "" then invalid
  else if s.toList.contains '=' then .ok { d with unmet := true }
  else .ok { d with field := some s }

def isWordStart (c : Char) : Bool :=
  c = '-' || c = ':' || c = '_' || CharSet.alphanumeric.contains c

/-- Takes the character at position `i`, positions being counted without the blanks in front of the
text, whose parts are yet cut from the whole `text`. -/
def step (text : Bytes) (i : Nat) (c : Char) (d : Draft) :
    Place → Reading (Place × Draft)
  | .start =>
    if c = '[' then .ok (.span (i + 1), d)
    else if isWordStart c then .ok (.word, d)
    else invalid
  | .word => do
    if c = '=' then pure (.level (i + 1), { d with target := some (← cut text 0 i) })
    else if c = '[' then pure (.span (i + 1), { d with target := some (← cut text 0 i) })
    else pure (.word, d)
  | .span first => do
    if c = ']' then pure (.scoped, { d with unmet := true })
    else if c = '\x7b' then
      pure (.field (i + 1), { d with unmet := d.unmet || (← cut text first i) ≠ "" })
    else pure (.span first, d)
  | .field first => do
    if c = '\x7d' then pure (.closing, ← d.addField (← cut text first i))
    else pure (.field first, d)
  | .closing => if c = ']' then .ok (.scoped, d) else invalid
  | .scoped => if c = '=' then .ok (.level (i + 1), d) else invalid
  | .level first => .ok (.level first, d)

/-- Takes all characters from position `i` on. -/
def walk (text : Bytes) (i : Nat) (place : Place) (d : Draft) :
    List Char → Reading (Place × Draft)
  | [] => .ok (place, d)
  | c :: rest => do
    let (place, d) ← step text i c d place
    walk text (i + c.utf8Size) place d rest

/-- A directive without a level lets everything through. -/
def finish (text : Bytes) (place : Place) (d : Draft) : Reading (Option Directive) := do
  let directive (threshold : Option Level) : Option Directive :=
    if d.unmet then none else some ⟨d.target, d.field, threshold⟩
  match place with
  | .word =>
    let word ← cut text 0 text.length
    match threshold? word with
    | some threshold => pure (directive threshold)
    | none => pure (some ⟨some word, none, some .trace⟩)
  | .scoped => pure (directive (some .trace))
  | .level first =>
    let word ← cut text first text.length
    if word = "" then pure (directive (some .trace))
    else
      match threshold? word with
      | some threshold => pure (directive threshold)
      | none => invalid
  | _ => invalid

def trimmed (cs : List Char) : List Char :=
  ((cs.dropWhile CharSet.blank.contains).reverse.dropWhile CharSet.blank.contains).reverse

/-- Reads a directive; absent if no event can comply with it. -/
def read (s : String) : Reading (Option Directive) := do
  let text := utf8 s
  let (place, d) ← walk text 0 .start {} (trimmed s.toList)
  finish text place d

/-- Whether an event is one of those that the directive is about. -/
def concerns (d : Directive) (e : Event) : Bool :=
  d.target.all (fun t => t.toList.isPrefixOf e.source.target.toList) && d.field.all (· = "message")

def lets (d : Directive) (e : Event) : Bool :=
  d.threshold.any fun l => e.level.rank ≤ l.rank

/-- Of two directives about an event the one with the longer target counts, then the one that asks
for a field. -/
def weight (d : Directive) : Nat × Nat :=
  ((d.target.map fun t => t.utf8ByteSize + 1).getD 0, if d.field.isSome then 1 else 0)

end Directive
end DeployTrigger.Log
