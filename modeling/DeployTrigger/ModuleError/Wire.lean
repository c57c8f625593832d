import DeployTrigger.IoError
import DeployTrigger.LittleEndian
import DeployTrigger.ModuleError

/-!
Module errors as bytes: a tag, and for the reasons with a text its length in four bytes and its
UTF-8 form. A text of 2³² bytes or more has no encoding. Decoding takes the bytes as a whole and
accepts nothing but encodings.
-/
namespace DeployTrigger.ModuleError

inductive DecodeError where
  /-- The bytes end too soon. -/
  | short
  | unknownTag (tag : UInt8)
  | notText (fault : Utf8.Fault)
  /-- Bytes are left behind the error. -/
  | leftOver
  deriving DecidableEq, Repr

def DecodeError.toIoError : DecodeError → IoError
  | .short => ⟨.invalidInput, "Unexpected length of input", none⟩
  | .unknownTag tag => ⟨.invalidInput, "Unexpected variant index: " ++ decimal tag.toNat, none⟩
  | .notText fault => ⟨.invalidData, fault.message, none⟩
  | .leftOver => ⟨.invalidData, "Not all bytes read", none⟩

/-- A text behind its length, if the length fits four bytes. -/
def encodeText? (s : String) : Option Bytes :=
  let bytes := utf8 s
  if bytes.length < UInt32.size then some (LittleEndian.encode 4 bytes.length ++ bytes) else none

def encode? : ModuleError → Option Bytes
  | invalidTimestamp => some [0]
  | unavailable text => (encodeText? text).map (1 :: ·)
  | rejected text => (encodeText? text).map (2 :: ·)
  | other text => (encodeText? text).map (3 :: ·)

/-- The text at the front of the bytes and what follows it. -/
def decodeText (b : Bytes) : Except DecodeError (String × Bytes) :=
  let size := LittleEndian.decode (b.take 4)
  let rest := b.drop 4
  if (b.take 4).length < 4 then .error .short
  else if rest.length < size then .error .short
  else
    match Utf8.decode (rest.take size) with
    | .ok s => .ok (s, rest.drop size)
    | .error fault => .error (.notText fault)

/-- The error at the front of the bytes and what follows it. -/
def decodeFirst : Bytes → Except DecodeError (ModuleError × Bytes)
  | [] => .error .short
  | tag :: rest =>
    if tag = 0 then .ok (invalidTimestamp, rest)
    else if tag = 1 then (decodeText rest).map fun (s, left) => (unavailable s, left)
    else if tag = 2 then (decodeText rest).map fun (s, left) => (rejected s, left)
    else if tag = 3 then (decodeText rest).map fun (s, left) => (other s, left)
    else .error (.unknownTag tag)

def decode (b : Bytes) : Except DecodeError ModuleError :=
  match decodeFirst b with
  | .ok (e, left) => if left.isEmpty then .ok e else .error .leftOver
  | .error e => .error e

end DeployTrigger.ModuleError
