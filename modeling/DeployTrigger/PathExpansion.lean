import DeployTrigger.Fault
import DeployTrigger.Text.CharSet.Alphanumeric
import DeployTrigger.Text.Quoted
import DeployTrigger.World

/-!
Paths as users write them: a tilde in front stands for the home directory, and references to
environment variables stand for their values. Values are inserted as they are and not looked at
again. A reference to a variable that is not set is refused unless it has a fallback.
-/
namespace DeployTrigger.PathExpansion

/-- Parts of a path. -/
inductive Piece where
  | literal (text : List Char)
  | reference (name : List Char) (fallback : Option (List Char))
  /-- A reference whose name starts outside of ASCII, on which expansion breaks down. -/
  | broken
  deriving DecidableEq, Repr

def isNameChar (c : Char) : Bool := c = '_' || CharSet.alphanumeric.contains c

/-- The text before the first `:-` and the text behind it, if there is one. -/
def splitFallback (before : List Char) : List Char → Option (List Char × List Char)
  | ':' :: '-' :: rest => some (before.reverse, rest)
  | c :: rest => splitFallback (c :: before) rest
  | [] => none

/-- The reference between two braces. A fallback follows a name that is not empty. -/
def braced (text : List Char) : Piece :=
  match splitFallback [] text with
  | some (name, fallback) =>
    if name.isEmpty then .reference text none else .reference name (some fallback)
  | none => .reference text none

theorem length_dropWhile_le {α : Type} (p : α → Bool) (l : List α) :
    (l.dropWhile p).length ≤ l.length :=
  (List.dropWhile_suffix p).length_le

/-- The pieces of a path. A doubled dollar is one, and a dollar that starts no reference is itself;
so is an opening brace behind it that is never closed. -/
def pieces : List Char → List Piece
  | [] => []
  | '$' :: '\x7b' :: rest =>
    if rest.contains '\x7d' then
      braced (rest.takeWhile (· ≠ '\x7d')) :: pieces ((rest.dropWhile (· ≠ '\x7d')).drop 1)
    else .literal ['$', '\x7b'] :: pieces rest
  | '$' :: '$' :: rest => .literal ['$'] :: pieces rest
  | '$' :: c :: rest =>
    if isNameChar c then
      if 1 < c.utf8Size then [.broken]
      else .reference (c :: rest.takeWhile isNameChar) none :: pieces (rest.dropWhile isNameChar)
    else .literal ['$'] :: pieces (c :: rest)
  | c :: rest => .literal [c] :: pieces rest
termination_by cs => cs.length
decreasing_by
  all_goals
    have := length_dropWhile_le (· ≠ '\x7d') rest
    have := length_dropWhile_le isNameChar rest
    simp only [List.length_drop, List.length_cons]
    omega

/-- The name of the variable that a piece refers to. -/
def Piece.name? : Piece → Option String
  | reference name _ => some (String.ofList name)
  | literal _ | broken => none

/-- The names of the variables that a path refers to. -/
def names (path : String) : List String := (pieces path.toList).filterMap Piece.name?

/-- Why a variable has no value. -/
def missing (name : String) (reason : String) : IoError :=
  ⟨.invalidInput, "error looking key '" ++ name ++ "' up: " ++ reason, some reason⟩

/-- The value of a variable. -/
def value (w : World) (name : String) : Except IoError String :=
  match w.env? name with
  | none => .error (missing name "environment variable not found")
  | some b =>
    match Utf8.decode? b with
    | some s => .ok s
    | none =>
      .error (missing name ("environment variable was not valid unicode: " ++ Quoted.quoteBytes b))

/-- What a piece stands for. -/
def Piece.expand (w : World) : Piece → Except (Fault IoError) (List Char)
  | literal text => .ok text
  | reference name fallback =>
    match value w (String.ofList name), fallback with
    | .ok s, _ => .ok s.toList
    | .error _, some fallback => .ok fallback
    | .error e, none => .error (.error e)
  | broken => .error .breakdown

/-- A path with its references replaced. -/
def expandReferences (w : World) (path : List Char) : Except (Fault IoError) (List Char) :=
  ((pieces path).mapM (Piece.expand w)).map List.flatten

/-- The home directory. -/
def home? (w : World) : Option String :=
  match w.env? "HOME" with
  | some b => if b.isEmpty then w.accountHome.map Utf8.lossy else some (Utf8.lossy b)
  | none => w.accountHome.map Utf8.lossy

/-- A path with a tilde in front, alone or before a slash, replaced. -/
def expandTilde (w : World) (path : List Char) : List Char :=
  match path with
  | '~' :: rest =>
    if rest.head?.all (· = '/') then
      match home? w with
      | some home => home.toList ++ rest
      | none => path
    else path
  | _ => path

/-- A path with references and tilde replaced; a tilde that came out of a variable stays. -/
def expandText (w : World) (path : String) : Except (Fault IoError) String := do
  let cs := path.toList
  let expanded ← expandReferences w cs
  pure (String.ofList
    (if cs.contains '$' && cs.head? ≠ some '~' then expanded else expandTilde w expanded))

end DeployTrigger.PathExpansion

namespace DeployTrigger

/-- The path that a user means. -/
def expandPath (w : World) (path : Bytes) : Except (Fault IoError) String :=
  match Utf8.decode? path with
  | some s => PathExpansion.expandText w s
  | none => .error (.error ⟨.invalidInput, "non UTF-8 path: " ++ Utf8.lossy path, none⟩)

end DeployTrigger
