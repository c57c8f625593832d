import DeployTrigger.Log.Event

/-! Values together with the events logged on the way to them, in order. -/
namespace DeployTrigger.Log

structure Logged (α : Type) where
  value : α
  events : List Event
  deriving DecidableEq, Repr

namespace Logged

def bind {α β : Type} (x : Logged α) (f : α → Logged β) : Logged β :=
  ⟨(f x.value).value, x.events ++ (f x.value).events⟩

instance : Monad Logged where
  pure a := ⟨a, []⟩
  bind := bind

/-- Logs one event. -/
def emit (e : Event) : Logged Unit := ⟨(), [e]⟩

@[simp] theorem value_bind {α β : Type} (x : Logged α) (f : α → Logged β) :
    (x >>= f).value = (f x.value).value := rfl

@[simp] theorem events_bind {α β : Type} (x : Logged α) (f : α → Logged β) :
    (x >>= f).events = x.events ++ (f x.value).events := rfl

end Logged
end DeployTrigger.Log
