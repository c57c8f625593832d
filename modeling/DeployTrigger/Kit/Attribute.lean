import DeployTrigger.Kit.Source.Function
import DeployTrigger.Kit.Source.Token.Lexer
import DeployTrigger.Text.Quoted

/-!
The attribute that makes a function the entrypoint of a module. The function stays as it is; next to
it goes an exported one that calls it with the timestamp, hands its address to the host, or gives up
with its error.
-/
namespace DeployTrigger.Kit

open Source

/-- The name of the exported function unless the attribute names another. -/
def defaultExport : String := "deploy_contract"

/-- Why there is no exported function. -/
inductive Rejection where
  /-- A text that does not consist of tokens. -/
  | noTokens
  | flawed (flaw : Flaw)
  /-- The name of the exported function is no word. -/
  | badName (flaw : NameFlaw)
  /-- A literal of a kind that is not known. -/
  | strangeLiteral (written : String)
  /-- The name of the exported function is a keyword, so that the result is no source text. -/
  | keyword (name : String)
  deriving DecidableEq, Repr

def Source.NameFlaw.message : NameFlaw → String
  | empty => "Ident is not allowed to be empty; use Option<Ident>"
  | number => "Ident cannot be a number; use Literal instead"
  | notWord text => Quoted.quote text ++ " is not a valid Ident"
  | neverRaw text => "`r#" ++ text ++ "` cannot be a raw identifier"

/-- What is said about a rejection; for some there are no words. -/
def Rejection.message : Rejection → String
  | noTokens | keyword _ => ""
  | flawed flaw => flaw.message
  | badName flaw => flaw.message
  | strangeLiteral written => "Unrecognized literal: `" ++ written ++ "`"

/-- The annotated function and the exported one, by their names. -/
structure Entrypoint where
  annotated : String
  exported : String
  deriving DecidableEq, Repr

namespace Entrypoint

def signatureMessage : String :=
  "deployment entrypoint is expected to have the signature of " ++
    "fn(u64) -> Result<impl Into<Vec<u8>>, ModuleError>"

def genericMessage : String := "deployment entrypoint cannot be async or generic"

/-- What is wrong with a function as an entrypoint. It has to take one value and give one; it must not
be asynchronous nor generic. -/
def objection? (f : Function) : Option String :=
  if f.inputs ≠ [.typed] || !f.hasOutput then some signatureMessage
  else if f.isAsync || !f.generics.isEmpty then some genericMessage
  else none

/-- The name of the exported function by the tokens that the attribute is given. -/
def exportName (args : List Token) : Except Rejection String :=
  match args with
  | [] => .ok defaultExport
  | .literal (.text name) :: rest =>
    if rest.isEmpty then (readWord name).mapError .badName else .error (.flawed .leftover)
  | .literal (.zeroEnded written) :: _ => .error (.strangeLiteral written)
  | _ => .error (.flawed (.expected ["string literal"] false))

/-- The entrypoint made of a function. -/
def ofFunction (f : Function) (exported : String) : Except Rejection Entrypoint :=
  match objection? f with
  | some message => .error (.flawed (.notAllowed message))
  | none => if isIdentifier exported then .ok ⟨f.name, exported⟩ else .error (.keyword exported)

/-- The entrypoint made of an annotated item. The attribute is looked at first. -/
def ofTokens (args item : List Token) : Except Rejection Entrypoint := do
  let exported ← exportName args
  ofFunction (← (Function.ofTokens item).mapError .flawed) exported

/-- The entrypoint by the text in the attribute and that of the annotated item. -/
def ofText (args item : String) : Except Rejection Entrypoint := do
  match tokens? args, tokens? item with
  | some args, some item => ofTokens args item
  | _, _ => throw .noTokens

/-- The names of the resulting functions. -/
def functions (e : Entrypoint) : List String := [e.annotated, e.exported]

/-- The exported function, with blanks between its tokens. -/
def exportText (e : Entrypoint) : String :=
  "# [no_mangle] pub extern \"C\" fn " ++ e.exported ++ " (timestamp : u64) -> u64 \x7b " ++
    "rensa_deployer_sdk :: set_panic_hook () ; match " ++ e.annotated ++ " (timestamp) \x7b " ++
    "Ok (address) => rensa_deployer_sdk :: pack (address) , " ++
    "Err (error) => rensa_deployer_sdk :: abort (error) , \x7d \x7d"

end Entrypoint
end DeployTrigger.Kit
