import DeployTrigger.IoError
import DeployTrigger.Text.Numeral

/-!
What can be wrong with a JSON document, and where. Lines count from one; columns count the bytes of
the line in front of the place.
-/
namespace DeployTrigger.Json

structure Position where
  line : Nat
  column : Nat
  deriving DecidableEq, Repr

inductive Flaw where
  | eofInArray | eofInObject | eofInText | eofInValue
  | expectedColon | expectedArrayCommaOrEnd | expectedObjectCommaOrEnd
  | expectedWord | expectedValue
  | invalidEscape | invalidNumber | numberOutOfRange
  | controlCharacter | keyNotText | loneSurrogate | unendedEscape
  | trailingComma | trailingCharacters | tooDeep
  /-- The document is well-formed and does not hold what it should. -/
  | mismatch (message : String)
  deriving DecidableEq, Repr

/-- Kinds of flaws: the document ends too early, is not JSON, or holds the wrong things. -/
inductive Category where
  | ended | malformed | mismatched
  deriving DecidableEq, Repr

def Flaw.category : Flaw → Category
  | eofInArray | eofInObject | eofInText | eofInValue => .ended
  | mismatch _ => .mismatched
  | _ => .malformed

def Flaw.message : Flaw → String
  | eofInArray => "EOF while parsing a list"
  | eofInObject => "EOF while parsing an object"
  | eofInText => "EOF while parsing a string"
  | eofInValue => "EOF while parsing a value"
  | expectedColon => "expected `:`"
  | expectedArrayCommaOrEnd => "expected `,` or `]`"
  | expectedObjectCommaOrEnd => "expected `,` or `\x7d`"
  | expectedWord => "expected ident"
  | expectedValue => "expected value"
  | invalidEscape => "invalid escape"
  | invalidNumber => "invalid number"
  | numberOutOfRange => "number out of range"
  | controlCharacter => "control character (\\u0000-\\u001F) found while parsing a string"
  | keyNotText => "key must be a string"
  | loneSurrogate => "lone leading surrogate in hex escape"
  | unendedEscape => "unexpected end of hex escape"
  | trailingComma => "trailing comma"
  | trailingCharacters => "trailing characters"
  | tooDeep => "recursion limit exceeded"
  | mismatch message => message

structure Error where
  flaw : Flaw
  position : Position
  deriving DecidableEq, Repr

def Error.message (e : Error) : String :=
  e.flaw.message ++ " at line " ++ decimal e.position.line ++ " column " ++ decimal e.position.column

/-- A bad document as a failure of the file it was read from. -/
def Error.toIoError (e : Error) : IoError :=
  match e.flaw.category with
  | .ended => ⟨.unexpectedEof, e.message, none⟩
  | .malformed | .mismatched => ⟨.invalidData, e.message, none⟩

end DeployTrigger.Json
