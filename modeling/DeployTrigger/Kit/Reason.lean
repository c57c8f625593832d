import DeployTrigger.ModuleError.Wire

/-!
Reasons that a module gives for not producing an address, as module authors write them. Their wire
form is laid out here from the module's side: a tag, and for most tags a text behind four bytes
of length.
-/
namespace DeployTrigger.Kit

inductive Reason where
  | invalidTimestamp
  | unavailable (text : String)
  | rejected (text : String)
  | other (text : String)
  deriving DecidableEq, Repr

namespace Reason

/-- The error that the host makes of a reason. -/
def toModuleError : Reason → ModuleError
  | invalidTimestamp => .invalidTimestamp
  | unavailable text => .unavailable text
  | rejected text => .rejected text
  | other text => .other text

/-- What stands behind a tag: nothing, or a text. -/
inductive Form where
  | bare (reason : Reason)
  | withText (make : String → Reason)

/-- The forms in the order of their tags. -/
def forms : List Form :=
  [.bare invalidTimestamp, .withText unavailable, .withText rejected, .withText other]

def tag : Reason → UInt8
  | invalidTimestamp => 0
  | unavailable _ => 1
  | rejected _ => 2
  | other _ => 3

def text? : Reason → Option String
  | invalidTimestamp => none
  | unavailable text | rejected text | other text => some text

/-- A word in four bytes, least significant first. -/
def wordBytes (n : UInt32) : Bytes :=
  [n.toUInt8, (n >>> 8).toUInt8, (n >>> 16).toUInt8, (n >>> 24).toUInt8]

/-- The wire form, unless the text is too long for its length to be written. -/
def encode? (r : Reason) : Option Bytes :=
  match r.text? with
  | none => some [r.tag]
  | some text =>
    let size := (utf8 text).length
    if size ≤ 0xFFFFFFFF then some (r.tag :: wordBytes (UInt32.ofNat size) ++ utf8 text) else none

/-- The text that is all of the bytes behind its length. -/
def decodeText : Bytes → Except ModuleError.DecodeError String
  | a :: b :: c :: d :: body =>
    let size := a.toNat + b.toNat * 0x100 + c.toNat * 0x10000 + d.toNat * 0x1000000
    if body.length < size then .error .short
    else
      match Utf8.decode (body.take size) with
      | .error fault => .error (.notText fault)
      | .ok text => if body.length = size then .ok text else .error .leftOver
  | _ => .error .short

/-- The reason whose wire form the bytes are. -/
def decode : Bytes → Except ModuleError.DecodeError Reason
  | [] => .error .short
  | tag :: rest =>
    match forms[tag.toNat]? with
    | none => .error (.unknownTag tag)
    | some (.bare reason) => if rest = [] then .ok reason else .error .leftOver
    | some (.withText make) => make <$> decodeText rest

/-- The name of the reason with its text in quotes. -/
def labelled : Reason → String
  | invalidTimestamp => "InvalidTimestamp"
  | unavailable text => "Unavailable(" ++ Quoted.quote text ++ ")"
  | rejected text => "Rejected(" ++ Quoted.quote text ++ ")"
  | other text => "Other(" ++ Quoted.quote text ++ ")"

end Reason
end DeployTrigger.Kit
