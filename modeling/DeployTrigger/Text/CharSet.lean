/-!
Sets of characters as sorted lists of boundaries: membership changes at every boundary, so a
character is a member iff the number of boundaries up to it is odd.
-/
namespace DeployTrigger

/-- Code points at which membership changes, in increasing order. -/
structure CharSet where
  boundaries : List Nat

namespace CharSet

/-- Membership of `c`, where `inside` is the membership just before the first boundary. -/
def inside (c : Nat) (now : Bool) : List Nat → Bool
  | [] => now
  | b :: rest => if c < b then now else inside c (!now) rest

def contains (s : CharSet) (c : Char) : Bool := inside c.toNat false s.boundaries

end CharSet
end DeployTrigger
