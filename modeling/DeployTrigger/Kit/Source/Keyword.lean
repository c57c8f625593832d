import DeployTrigger.Text.CharSet.Identifier

/-! Identifiers of source text and the words among them that are reserved. -/
namespace DeployTrigger.Kit.Source

def isWordStart (c : Char) : Bool := c = '_' || CharSet.identifierStart.contains c

def isWordPart (c : Char) : Bool := CharSet.identifierContinue.contains c

/-- Words that are no identifiers, the lone underscore among them. -/
def keywords : List String := ["_", "abstract", "as", "async", "await", "become", "box", "break",
  "const", "continue", "crate", "do", "dyn", "else", "enum", "extern", "false", "final", "fn", "for",
  "if", "impl", "in", "let", "loop", "macro", "match", "mod", "move", "mut", "override", "priv",
  "pub", "ref", "return", "Self", "self", "static", "struct", "super", "trait", "true", "try",
  "type", "typeof", "unsafe", "unsized", "use", "virtual", "where", "while", "yield"]

/-- What makes a keyword an identifier when it stands in front of it. -/
def rawMark : String := "r#"

/-- Words that remain keywords even with the mark. -/
def neverRaw : List String := ["_", "super", "self", "Self", "crate"]

def isIdentifier (word : String) : Bool := !keywords.contains word

/-- Why a text cannot be used as a word. -/
inductive NameFlaw where
  | empty
  | number
  | notWord (text : String)
  /-- A word that does not go with the mark. -/
  | neverRaw (text : String)
  deriving DecidableEq, Repr

/-- Checks that a text is a word. -/
def checkWord (text : String) : Except NameFlaw Unit :=
  match text.toList with
  | [] => .error .empty
  | c :: rest =>
    if (c :: rest).all Char.isDigit then .error .number
    else if isWordStart c && rest.all isWordPart then .ok ()
    else .error (.notWord text)

/-- The word that a text names. The mark may stand in front. -/
def readWord (text : String) : Except NameFlaw String :=
  match text.toList with
  | 'r' :: '#' :: bare => do
    let bare := String.ofList bare
    checkWord bare
    if neverRaw.contains bare then throw (.neverRaw bare)
    pure (rawMark ++ bare)
  | _ => do
    checkWord text
    pure text

end DeployTrigger.Kit.Source
