/-! Values handed out one after the other, the last of which is handed out for ever. -/
namespace DeployTrigger

structure Supply (α : Type) where
  first : α
  rest : List α
  deriving DecidableEq, Repr

namespace Supply

/-- A supply of one value. -/
def always {α : Type} (a : α) : Supply α := ⟨a, []⟩

/-- The next value and what is left. -/
def next {α : Type} (s : Supply α) : α × Supply α :=
  match s.rest with
  | [] => (s.first, s)
  | a :: rest => (s.first, ⟨a, rest⟩)

end Supply
end DeployTrigger
