import DeployTrigger.Clock
import DeployTrigger.Deployer
import DeployTrigger.Sink
import DeployTrigger.TriggerError

/-!
The trigger reads the clock once, reports the timestamp, asks the deployer once and reports the
address it resolves with. Nothing is asked for before the timestamp is reported, and no address
is reported before the deployer resolved with it.
-/
namespace DeployTrigger

structure Trigger (σ : Type) where
  deployer : Deployer σ
  /-- How long to wait for the deployer; for ever if absent. -/
  timeout : Option Duration

/-- What a run leaves behind. -/
structure Run (σ : Type) where
  /-- The address or why there is none; absent if the run does not come to an end. -/
  result : Option (Except TriggerError Address)
  sink : Sink
  clock : Clock
  state : σ
  events : List Log.Event

namespace Trigger

/-- The report's first two lines. -/
def header (t : Timestamp) : String := "Deploying with timestamp:\n" ++ t.shown ++ "\n"

def addressLine (a : Address) : String := "contract address: " ++ a.shown ++ "\n"

/-- The first two lines as they are written: the number is a piece of its own. -/
def headerPieces (t : Timestamp) : List String := ["Deploying with timestamp:\n", t.shown, "\n"]

def addressPieces (a : Address) : List String := ["contract address: ", a.shown, "\n"]

def startEvent (t : Timestamp) : Log.Event :=
  ⟨.info, .trigger, "deploying with timestamp " ++ t.labelled⟩

def failureEvent (t : Timestamp) (e : DeployError) : Log.Event :=
  ⟨.error, .trigger, "deployment with timestamp " ++ t.shown ++ " failed: " ++ e.message⟩

def successEvent (a : Address) : Log.Event :=
  ⟨.info, .trigger, "contract deployed at " ++ a.shown⟩

/-- Asks the deployer, the timestamp being reported. -/
def deploy {σ : Type} (t : Trigger σ) (time : Timestamp) (clock : Clock) (state : σ) (sink : Sink) :
    Run σ :=
  let (attempt, state) := t.deployer.deploy time state
  let events := startEvent time :: attempt.events
  match attempt.value.within t.timeout with
  | none => ⟨none, sink, clock, state, events⟩
  | some (.error e) => ⟨some (.error (.deploy e)), sink, clock, state, events ++ [failureEvent time e]⟩
  | some (.ok a) =>
    match sink.report (addressPieces a) with
    | (.ok (), sink) => ⟨some (.ok a), sink, clock, state, events ++ [successEvent a]⟩
    | (.error e, sink) => ⟨some (.error (.report e)), sink, clock, state, events ++ [successEvent a]⟩

/-- One run: clock, header, deployer, address. -/
def run {σ : Type} (t : Trigger σ) (clock : Clock) (state : σ) (sink : Sink) : Run σ :=
  let (reading, clock) := clock.read
  match Timestamp.ofInstant reading with
  | .error e => ⟨some (.error (.clock e)), sink, clock, state, []⟩
  | .ok time =>
    match sink.report (headerPieces time) with
    | (.error e, sink) => ⟨some (.error (.report e)), sink, clock, state, []⟩
    | (.ok (), sink) => t.deploy time clock state sink

/-- Runs one after the other, each with a stream of its own. -/
def runs {σ : Type} (t : Trigger σ) (clock : Clock) (state : σ) : List Sink → List (Run σ)
  | [] => []
  | sink :: rest =>
    let r := t.run clock state sink
    r :: t.runs r.clock r.state rest

end Trigger
end DeployTrigger
