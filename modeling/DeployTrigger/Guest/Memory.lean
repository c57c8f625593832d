import DeployTrigger.Text.Utf8
import Std.Data.TreeMap.Lemmas

/-!
The memory of an instance: a size in pages, the bytes that were there at the beginning, and the
bytes stored since. Ranges are inside the memory iff their end, as a number, is at most its size.
-/
namespace DeployTrigger.Guest

structure Memory where
  pages : Nat
  /-- The size that the memory cannot outgrow. -/
  limit : Nat
  initial : Nat → UInt8
  stored : Std.TreeMap Nat UInt8

namespace Memory

def pageSize : Nat := 65536

def size (m : Memory) : Nat := m.pages * pageSize

/-- A memory of zeros. -/
def zeros (pages limit : Nat) : Memory := ⟨pages, limit, fun _ => 0, ∅⟩

/-- The byte at an address, whether inside the memory or not. -/
def byte (m : Memory) (a : Nat) : UInt8 :=
  match m.stored[a]? with
  | some b => b
  | none => m.initial a

/-- The memory with another byte at an address. -/
def put (m : Memory) (a : Nat) (b : UInt8) : Memory := { m with stored := m.stored.insert a b }

@[simp] theorem size_put (m : Memory) (a : Nat) (b : UInt8) : (m.put a b).size = m.size := rfl

/-- The memory with bytes from an address on. -/
def putAll (m : Memory) (a : Nat) : Bytes → Memory
  | [] => m
  | b :: rest => (m.put a b).putAll (a + 1) rest

/-- The bytes of a range, whether inside the memory or not. -/
def slice (m : Memory) (start length : Nat) : Bytes :=
  (List.range' start length).map m.byte

/-- The bytes of a range that is inside the memory. -/
def read? (m : Memory) (start length : Nat) : Option Bytes :=
  if start + length ≤ m.size then some (m.slice start length) else none

/-- How many bytes of a memory the host sees. It is assumed of the engine that these are all of them,
also in a memory of 65536 pages, whose size in bytes needs more than 32 bits. -/
def hostSize (m : Memory) : Nat := m.size

/-- The bytes of a range that is inside of what the host sees. -/
def view? (m : Memory) (start length : Nat) : Option Bytes :=
  if start + length ≤ m.hostSize then some (m.slice start length) else none

/-- By that assumption host and guest can read the same ranges. -/
theorem view?_eq_read? (m : Memory) (start length : Nat) : m.view? start length = m.read? start length :=
  rfl

/-- The memory with bytes written to a range that is inside of it. -/
def write? (m : Memory) (start : Nat) (bs : Bytes) : Option Memory :=
  if start + bs.length ≤ m.size then some (m.putAll start bs) else none

/-- The memory with data that was there from the beginning. -/
def load? (m : Memory) (start : Nat) (bs : Bytes) : Option Memory :=
  if start + bs.length ≤ m.size then
    let data := bs.toArray
    let before := m.initial
    some { m with initial := fun a => if a < start then before a else data[a - start]?.getD (before a) }
  else none

/-- More pages, if the memory may have so many. -/
def grow? (m : Memory) (more : Nat) : Option Memory :=
  if m.pages + more ≤ m.limit then some { m with pages := m.pages + more } else none

end Memory
end DeployTrigger.Guest
