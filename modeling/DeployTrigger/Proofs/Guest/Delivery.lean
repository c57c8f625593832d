import DeployTrigger.Proofs.Guest.Invocation

/-!
Values on their way from a module to the host. What the module packs the host unpacks, and the other
way round; so the bytes that a module leaves in its memory are the address, or the document, that
the call gives, wherever in the memory they lie (`packed_values_arrive`).
-/
namespace DeployTrigger
open Deploy Guest Machine

/-- The lower half of a packed word is the length, whatever the start. -/
theorem Kit.toUInt32_pack (start length : UInt64) :
    (pack start length).toUInt32 = length.toUInt32 := by
  have hstart : (start <<< 32).toUInt32 = 0 := by
    rw [← UInt32.toNat_inj, UInt64.toNat_toUInt32, UInt64.toNat_shiftLeft]
    change start.toNat <<< 32 % _ % _ = 0
    rw [Nat.shiftLeft_eq]
    omega
  rw [pack, UInt64.toUInt32_or, hstart, UInt32.zero_or]

theorem Kit.toNat_toUInt32_packBytes (start : UInt64) {b : Bytes} (h : b.length < UInt32.size) :
    (packBytes start b).toUInt32.toNat = b.length := by
  rw [packBytes, toUInt32_pack, UInt64.toUInt32_ofNat', UInt32.toNat_ofNat_of_lt' h]

theorem Kit.unpack_packBytes (start : UInt32) {b : Bytes} (h : b.length < UInt32.size) :
    Location.unpack (packBytes start.toUInt64 b) = ⟨start, UInt32.ofNat b.length⟩ := by
  have hlength : UInt64.ofNat b.length = (UInt32.ofNat b.length).toUInt64 := by
    rw [← UInt64.toNat_inj, UInt32.toNat_toUInt64, UInt32.toNat_ofNat_of_lt' h]
    exact UInt64.toNat_ofNat_of_lt' (Nat.lt_trans h (by decide))
  rw [packBytes, hlength]
  exact unpack_pack ⟨start, _⟩

namespace Guest

/-- The bytes lie in the memory, from an address on. -/
structure Memory.Holds (m : Memory) (start : Nat) (b : Bytes) : Prop where
  inside : start + b.length ≤ m.size
  bytes (i : Nat) (h : i < b.length) : m.byte (start + i) = b[i]

theorem Memory.Holds.slice {m : Memory} {start : Nat} {b : Bytes} (h : m.Holds start b) :
    m.slice start b.length = b := by
  refine List.ext_getElem (by simp [Memory.slice]) fun i _ hi => ?_
  simp [Memory.slice, h.bytes i hi]

namespace Sandbox
variable {s : Sandbox} {limits : Limits} {memory : Memory} {start : UInt32} {b : Bytes}

theorem addressAt_packBytes (h : memory.Holds start.toNat b) (hlt : b.length < UInt32.size)
    (hpos : 0 < b.length) (hle : b.length ≤ limits.maxAddressLen.toNat) :
    addressAt limits memory (.unpack (Kit.packBytes start.toUInt64 b)) = .ok ⟨b⟩ := by
  rw [Kit.unpack_packBytes start hlt, addressAt_eq_ok_iff]
  dsimp only
  rw [UInt32.toNat_ofNat_of_lt' hlt]
  exact ⟨⟨hpos, hle⟩, h.inside, h.slice.symm⟩

/-- The bytes that the function leaves behind are the address. -/
theorem Entry.settles_invoking_of_left {name : String} {t : Timestamp} (x : s.Entry name .wordToWord)
    {after : Store}
    (h : Ends s.module (x.machine [t.millis]) (.value (Kit.packBytes start.toUInt64 b)) after)
    (left : after.memory.Holds start.toNat b) (hlt : b.length < UInt32.size) (hpos : 0 < b.length)
    (hle : b.length ≤ s.limits.maxAddressLen.toNat) :
    Settles (s.invoking name t) (.ok ⟨b⟩) (x.logged ++ invokingEvent name t ::
      (after.events ++ [returnedEvent name ⟨start, UInt32.ofNat b.length⟩])) := by
  have hsettles := x.settles_invoking_of_value h
  rwa [addressAt_packBytes left hlt hpos hle, Kit.unpack_packBytes start hlt] at hsettles

end Sandbox
end Guest
end DeployTrigger
