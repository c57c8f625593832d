import DeployTrigger.Guest.Sandbox

/-!
Modules at work on an engine. The engine holds the states of all instances that there have been,
those of ended calls too; an instance is a number. Guests get at their memory and their globals step
by step, by the number of their instance.
-/
namespace DeployTrigger.Guest

structure Engine where
  states : Array State

namespace Engine

def empty : Engine := ⟨#[]⟩

/-- The state of an instance; without such an instance, one of no size. -/
def state (e : Engine) (i : Nat) : State := e.states[i]?.getD ⟨.zeros 0 0, []⟩

def put (e : Engine) (i : Nat) (state : State) : Engine := ⟨e.states.setIfInBounds i state⟩

/-- One more instance, behind those that there are. -/
def add (e : Engine) (state : State) : Engine := ⟨e.states.push state⟩

variable {e : Engine} {i j : Nat}

@[simp] theorem size_put (e : Engine) (i : Nat) (state : State) :
    (e.put i state).states.size = e.states.size := Array.size_setIfInBounds

@[simp] theorem put_put (e : Engine) (i : Nat) (before after : State) :
    (e.put i before).put i after = e.put i after := by
  simp [put]

@[simp] theorem put_state (e : Engine) (i : Nat) : e.put i (e.state i) = e := by
  by_cases h : i < e.states.size <;> simp [put, Engine.state, Array.setIfInBounds, h]

theorem state_put (h : i < e.states.size) (state : State) : (e.put i state).state i = state := by
  simp [put, Engine.state, h]

theorem states_put_of_ne (h : j ≠ i) (state : State) :
    (e.put i state).states[j]? = e.states[j]? := by
  simp [put, h.symm]

theorem state_add (e : Engine) (state : State) : (e.add state).state e.states.size = state := by
  simp [add, Engine.state]

theorem states_add_of_lt (h : j < e.states.size) (state : State) :
    (e.add state).states[j]? = e.states[j]? := by
  simp [add, Array.getElem?_push, Nat.ne_of_lt h]

end Engine

/-- A machine without the state of its instance. -/
structure Thread where
  control : Control
  stack : List Pending
  slots : List UInt64
  depth : Nat
  visible : Bool
  log : List Log.Event

namespace Thread

def machine (t : Thread) (state : State) : Machine :=
  ⟨t.control, t.stack, t.slots, t.depth, state, t.visible, t.log⟩

def ofMachine (c : Machine) : Thread :=
  ⟨c.control, c.stack, c.slots, c.depth, c.store.visible, c.store.log⟩

/-- Takes steps on the state of an instance until the machine is finished, at most `fuel` many. -/
def run (m : Module) (i : Nat) : Nat → Thread → Engine → (Outcome × Store) × Engine
  | 0, t, e => ((.unfinished, (t.machine (e.state i)).store), e)
  | fuel + 1, t, e =>
    match (t.machine (e.state i)).step m with
    | .go c => run m i fuel (ofMachine c) (e.put i c.store.toState)
    | .done v s => ((.value v, s), e.put i s.toState)
    | .stop why s => ((.stopped why, s), e.put i s.toState)

end Thread

/-- A function at its beginning, nothing being logged yet. -/
def Func.thread (f : Func) (arguments : List UInt64) (visible : Bool) : Thread :=
  ⟨.run f.body, [], arguments ++ List.replicate f.locals 0, 0, visible, []⟩

/-- Logged work on an engine, which may fail. -/
abbrev Hosted := ExceptT Failure (StateT Engine Log.Logged)

namespace Hosted
variable {α : Type}

/-- What the work ends with, the engine afterwards, and what is logged. -/
def outcome (x : Hosted α) (e : Engine) : Log.Logged (Except Failure α × Engine) :=
  (ExceptT.run x).run e

/-- Work that leaves the engine alone. -/
def ofDeploy (x : Deploy α) : Hosted α := ExceptT.mk fun e => do
  let r ← x.outcome
  pure (r, e)

def fail (e : DeployError) : Hosted α := ofDeploy (Deploy.fail e)

/-- A new instance with a state. -/
def allocate (state : State) : Hosted Nat := ExceptT.mk fun e =>
  pure (.ok e.states.size, e.add state)

/-- The state of an instance as it is now. -/
def state (i : Nat) : Hosted State := ExceptT.mk fun e => pure (.ok (e.state i), e)

def put (i : Nat) (state : State) : Hosted Unit := ExceptT.mk fun e =>
  pure (.ok (), e.put i state)

def run (m : Module) (fuel i : Nat) (f : Func) (arguments : List UInt64) (visible : Bool) :
    Hosted (Outcome × Store) := ExceptT.mk fun e =>
  let (ended, e) := (f.thread arguments visible).run m i fuel e
  pure (.ok ended, e)

def load (i : Nat) (piece : Nat × Bytes) : Hosted Unit := do
  let state ← Hosted.state i
  match state.memory.load? piece.1 piece.2 with
  | some memory => put i { state with memory := memory }
  | none => fail (.instantiation (InstantiationError.stopped (.trap .outOfBounds)).message)

end Hosted

def Module.runStartOn (m : Module) (fuel i : Nat) : Hosted (Outcome × Store) := do
  match m.startFunc? with
  | some f => Hosted.run m fuel i f [] false
  | none => pure (.value 0, ⟨← Hosted.state i, false, []⟩)

/-- The number of a fresh instance. -/
def Module.instantiateOn (m : Module) (fuel : Nat) : Hosted Nat := do
  match m.link with
  | .error e => Hosted.fail (.instantiation (InstantiationError.link e).message)
  | .ok hostFuncs =>
    let i ← Hosted.allocate ⟨m.blankMemory, m.initialGlobals⟩
    m.data.forM (Hosted.load i)
    let ended ← m.runStartOn fuel i
    let _ ← Hosted.ofDeploy (m.started hostFuncs ended)
    pure i

namespace Sandbox

/-! The calls of a sandbox, step by step as they are made with an instance of their own; the number
of the instance stands for its store. -/

def enterOn (s : Sandbox) (name : String) (type : FuncType) : Hosted (Nat × Func) := do
  let i ← s.module.instantiateOn s.fuel
  Hosted.ofDeploy s.requireMemory
  let f ← Hosted.ofDeploy (s.requireFunc name type)
  pure (i, f)

def callOn (s : Sandbox) (f : Func) (arguments : List UInt64) (i : Nat) : Hosted UInt64 := do
  let ended ← Hosted.run s.module s.fuel i f arguments true
  let r ← Hosted.ofDeploy (finished ended)
  pure r.1

def invokeOn (s : Sandbox) (entrypoint : String) (t : Timestamp) : Hosted Address := do
  let (i, f) ← s.enterOn entrypoint .wordToWord
  Hosted.ofDeploy (Deploy.emit (invokingEvent entrypoint t))
  let packed ← s.callOn f [t.millis] i
  Hosted.ofDeploy (Deploy.emit (returnedEvent entrypoint (.unpack packed)))
  let state ← Hosted.state i
  Hosted.ofDeploy (settle (addressAt s.limits state.memory (.unpack packed)))

def schemasOn (s : Sandbox) : Hosted (Option String) :=
  if s.module.exports.all (·.1 ≠ schemasExport) then pure none
  else do
    let (i, f) ← s.enterOn schemasExport .word
    let packed ← s.callOn f [] i
    let state ← Hosted.state i
    Hosted.ofDeploy (some <$> settle (schemasAt s.limits state.memory (.unpack packed)))

end Sandbox
end DeployTrigger.Guest
