import DeployTrigger.Log.Directive

/-! Filters of the log, as lists of directives. What no directive is about is not let through. -/
namespace DeployTrigger.Log

structure Filter where
  directives : List Directive
  deriving DecidableEq, Repr

namespace Filter

/-- Lets everything through up to a level. -/
def upTo (level : Level) : Filter := ⟨[⟨none, none, some level⟩]⟩

/-- Whether a directive outweighs an earlier one. -/
def outweighs (d : Directive) (earlier : Directive) : Bool :=
  earlier.weight.1 < d.weight.1 ||
    (earlier.weight.1 = d.weight.1 && earlier.weight.2 ≤ d.weight.2)

/-- The directive that decides about an event. -/
def decisive? (f : Filter) (e : Event) : Option Directive :=
  (f.directives.filter (·.concerns e)).foldl
    (fun best d => if best.all (outweighs d) then some d else best) none

def allows (f : Filter) (e : Event) : Bool := (f.decisive? e).any (·.lets e)

/-- The events that are let through. -/
def select (f : Filter) (events : List Event) : List Event := events.filter f.allows

/-- Reads directives between commas. -/
def read (s : String) : Directive.Reading Filter := do
  let pieces := (s.toList.splitOn ',').filter (! ·.isEmpty)
  let directives ← pieces.mapM fun cs => Directive.read (String.ofList cs)
  pure ⟨directives.reduceOption⟩

/-- A filter lets a part of the events through and keeps their order. -/
theorem select_sublist (f : Filter) (events : List Event) : (f.select events).Sublist events :=
  List.filter_sublist

theorem allows_upTo {level : Level} {e : Event} :
    (upTo level).allows e = decide (e.level.rank ≤ level.rank) := by
  simp [allows, decisive?, upTo, Directive.concerns, Directive.lets]

end Filter
end DeployTrigger.Log
