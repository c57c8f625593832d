import DeployTrigger.Text.Numeral

/-!
Bytes and the texts they hold. Strict decoding accepts exactly the UTF-8 form of a text
(`decode?_eq_some_iff`); a refusal names the first byte that no text can have there. Lossy decoding
puts a replacement mark in place of every run of bytes that starts a character and does not go on.
-/
namespace DeployTrigger

/-- A byte string. -/
abbrev Bytes := List UInt8

/-- The UTF-8 form of a text. -/
def utf8 (s : String) : Bytes := s.toUTF8.data.toList

theorem length_utf8 (s : String) : (utf8 s).length = s.utf8ByteSize := Array.length_toList

theorem length_utf8_cons (c : Char) (cs : List Char) :
    (utf8 (String.ofList (c :: cs))).length = c.utf8Size + (utf8 (String.ofList cs)).length := by
  rw [← List.singleton_append, String.ofList_append, ← String.singleton_eq_ofList, length_utf8,
    String.utf8ByteSize_append, String.utf8ByteSize_singleton, length_utf8]

/-- Characters of one byte each make as many bytes. -/
theorem length_utf8_of_narrow {cs : List Char} (h : ∀ c ∈ cs, c.utf8Size = 1) :
    (utf8 (String.ofList cs)).length = cs.length := by
  induction cs with
  | nil => rfl
  | cons c cs ih =>
    rw [List.forall_mem_cons] at h
    rw [length_utf8_cons, h.1, ih h.2, List.length_cons, Nat.add_comm]

theorem utf8_append (s t : String) : utf8 (s ++ t) = utf8 s ++ utf8 t := by
  simp [utf8]

theorem utf8_join (ps : List String) : utf8 (String.join ps) = (ps.map utf8).flatten := by
  induction ps with
  | nil => rfl
  | cons p ps ih => simp [utf8_append, ih]

namespace Utf8

/-- The text whose UTF-8 form the bytes are. -/
def decode? (b : Bytes) : Option String := String.fromUTF8? b.toByteArray

theorem toByteArray_utf8 (s : String) : (utf8 s).toByteArray = s.toUTF8 := by
  apply ByteArray.ext
  simp [utf8, List.data_toByteArray]

theorem decode?_utf8 (s : String) : decode? (utf8 s) = some s := by
  have h : s.toUTF8.IsValidUTF8 := s.isValidUTF8
  rw [decode?, toByteArray_utf8, String.fromUTF8?, dif_pos h]
  rfl

theorem decode?_eq_some_iff {b : Bytes} {s : String} : decode? b = some s ↔ b = utf8 s := by
  constructor
  · intro h
    rw [decode?, String.fromUTF8?] at h
    split at h
    · cases h
      simp [utf8, String.fromUTF8, String.toUTF8, List.data_toByteArray]
    · cases h
  · rintro rfl
    exact decode?_utf8 s

/-- Where decoding stops: the offset of the character at fault, and how many of its bytes were
read before one that cannot follow (`none` when the bytes end inside the character). -/
structure Fault where
  offset : Nat
  width : Option Nat
  deriving DecidableEq, Repr

def Fault.message (f : Fault) : String :=
  match f.width with
  | some w => "invalid utf-8 sequence of " ++ decimal w ++ " bytes from index " ++ decimal f.offset
  | none => "incomplete utf-8 byte sequence from index " ++ decimal f.offset

/-- A character under way: its bytes so far (last one first), how many are owed, the range of the
next one and the value so far. Between characters nothing is owed. -/
structure Partial where
  held : Bytes
  owed : Nat
  low : UInt8
  high : UInt8
  value : Nat
  deriving DecidableEq, Repr

def Partial.start : Partial := ⟨[], 0, 0x80, 0xBF, 0⟩

/-- The state after the first byte of a character. The second byte has a narrower range after
`E0`, `ED`, `F0` and `F4`: no overlong forms, no surrogates, nothing above the last code point. -/
def Partial.first? (b : UInt8) : Option Partial :=
  if b ≤ 0x7F then some ⟨[b], 0, 0x80, 0xBF, b.toNat⟩
  else if 0xC2 ≤ b && b ≤ 0xDF then some ⟨[b], 1, 0x80, 0xBF, b.toNat % 32⟩
  else if 0xE0 ≤ b && b ≤ 0xEF then
    some ⟨[b], 2, if b = 0xE0 then 0xA0 else 0x80, if b = 0xED then 0x9F else 0xBF, b.toNat % 16⟩
  else if 0xF0 ≤ b && b ≤ 0xF4 then
    some ⟨[b], 3, if b = 0xF0 then 0x90 else 0x80, if b = 0xF4 then 0x8F else 0xBF, b.toNat % 8⟩
  else none

/-- The state after one more byte of a character under way. -/
def Partial.next? (p : Partial) (b : UInt8) : Option Partial :=
  if p.low ≤ b && b ≤ p.high then
    some ⟨b :: p.held, p.owed - 1, 0x80, 0xBF, p.value * 64 + b.toNat % 64⟩
  else none

/-- Searches the fault from offset `i` on, inside the character `p`. -/
def faultFrom (p : Partial) (i : Nat) : Bytes → Option Fault
  | [] => if p.owed = 0 then none else some ⟨i - p.held.length, none⟩
  | b :: rest =>
    if p.owed = 0 then
      match Partial.first? b with
      | some q => faultFrom q (i + 1) rest
      | none => some ⟨i, some 1⟩
    else
      match p.next? b with
      | some q => faultFrom q (i + 1) rest
      | none => some ⟨i - p.held.length, some p.held.length⟩

/-- The first fault of the bytes. -/
def fault? (b : Bytes) : Option Fault := faultFrom Partial.start 0 b

/-- Strict decoding with the fault as the error. -/
def decode (b : Bytes) : Except Fault String :=
  match decode? b with
  | some s => .ok s
  | none => .error ((fault? b).getD ⟨0, none⟩)

/-- A part of damaged bytes: a character, or the longest run that starts one and does not go on. -/
inductive Piece where
  | char (c : Char)
  | broken (b : Bytes)
  deriving DecidableEq, Repr

/-- The pieces found so far (last one first) and the finished character `p`, if it is finished. -/
def Partial.close (p : Partial) (out : List Piece) : List Piece :=
  if p.owed = 0 then .char (Char.ofNat p.value) :: out else out

/-- The pieces found so far and the character `p`, which does not go on. -/
def Partial.abandon (p : Partial) (out : List Piece) : List Piece :=
  if p.owed = 0 then out else .broken p.held.reverse :: out

/-- All pieces, last one first, `out` being those found so far. -/
def piecesFrom (p : Partial) (out : List Piece) : Bytes → List Piece
  | [] => p.abandon out
  | b :: rest =>
    match (if p.owed = 0 then none else p.next? b) with
    | some q => piecesFrom q (q.close out) rest
    | none =>
      match Partial.first? b with
      | some q => piecesFrom q (q.close (p.abandon out)) rest
      | none => piecesFrom Partial.start (.broken [b] :: p.abandon out) rest

def pieces (b : Bytes) : List Piece := (piecesFrom Partial.start [] b).reverse

/-- The mark that stands for a broken piece. -/
def replacement : Char := Char.ofNat 0xFFFD

def Piece.toChar : Piece → Char
  | .char c => c
  | .broken _ => replacement

/-- The text of the bytes, with a replacement mark for each piece that is not UTF-8. -/
def lossy (b : Bytes) : String :=
  match decode? b with
  | some s => s
  | none => String.ofList ((pieces b).map Piece.toChar)

/-- Valid bytes are shown as their own text. -/
theorem lossy_utf8 (s : String) : lossy (utf8 s) = s := by
  simp [lossy, decode?_utf8]

end Utf8
end DeployTrigger
