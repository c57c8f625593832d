import DeployTrigger.IoError
import DeployTrigger.Text.Utf8

/-!
Report streams. A stream takes bytes up to its budget and fails on the first one beyond it, what
fits being taken; it may also fail one of its flushes.
-/
namespace DeployTrigger

structure Sink where
  /-- How many more bytes are taken; no bound if absent. -/
  budget : Option Nat
  /-- How a write fails that finds the budget used up. -/
  full : IoError
  /-- The number of the flush that fails, counted from one, and how. -/
  brokenFlush : Option (Nat × IoError)
  written : Bytes
  flushes : Nat
  deriving DecidableEq, Repr

namespace Sink

/-- A stream that takes everything. -/
def unbounded : Sink := ⟨none, .writeZero, none, [], 0⟩

/-- How many of `n` bytes are taken. -/
def taken (s : Sink) (n : Nat) : Nat :=
  match s.budget with
  | none => n
  | some room => min room n

def write (s : Sink) (bytes : Bytes) : Except IoError Unit × Sink :=
  let n := s.taken bytes.length
  let s' := { s with budget := s.budget.map (· - n), written := s.written ++ bytes.take n }
  if n = bytes.length then (.ok (), s') else (.error s.full, s')

def flush (s : Sink) : Except IoError Unit × Sink :=
  let s' := { s with flushes := s.flushes + 1 }
  match s.brokenFlush with
  | some (k, e) => if k = s'.flushes then (.error e, s') else (.ok (), s')
  | none => (.ok (), s')

/-- Writes pieces one after the other, up to the first that fails. -/
def writeAll (s : Sink) : List Bytes → Except IoError Unit × Sink
  | [] => (.ok (), s)
  | piece :: rest =>
    match s.write piece with
    | (.ok (), s) => s.writeAll rest
    | (.error e, s) => (.error e, s)

/-- Writes a text piece by piece and flushes, unless a write fails. -/
def report (s : Sink) (pieces : List String) : Except IoError Unit × Sink :=
  match s.writeAll (pieces.map utf8) with
  | (.ok (), s) => s.flush
  | (.error e, s) => (.error e, s)

end Sink
end DeployTrigger
