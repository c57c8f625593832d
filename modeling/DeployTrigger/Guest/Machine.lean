import DeployTrigger.Guest.Syntax
import DeployTrigger.Guest.Memory
import DeployTrigger.Log.Event
import DeployTrigger.Location
import DeployTrigger.ModuleError.Wire

/-!
Running functions of a module, one small step at a time. A machine holds what it is working on and a
stack of what is to be done with the result, so calls and loops need no recursion; a run is a
number of steps and ends with a value, with a stop, or unfinished.
-/
namespace DeployTrigger.Guest

inductive Trap where
  | unreachable
  | divideByZero
  | overflow
  | outOfBounds
  | stackExhausted
  deriving DecidableEq, Repr

def Trap.message : Trap → String
  | unreachable => "unreachable"
  | divideByZero => "integer divide by zero"
  | overflow => "integer overflow"
  | outOfBounds => "out of bounds memory access"
  | stackExhausted => "call stack exhausted"

/-- Why a run stops without a value. -/
inductive Stop where
  | trap (trap : Trap)
  /-- The module called the abort function; this is the error it handed over. -/
  | abort (reason : ModuleError)
  deriving DecidableEq, Repr

def Stop.message : Stop → String
  | trap t => t.message
  | abort reason => reason.message

/-- What guests can change: the memory, and the values of the globals. -/
structure State where
  memory : Memory
  globals : List UInt64

/-- What outlives a call: the state, and the events logged so far, last one first. -/
structure Store extends State where
  /-- Whether host functions can see the memory; they cannot during instantiation. -/
  visible : Bool
  log : List Log.Event

namespace Store

/-- The bytes of a range as host functions see them. -/
def hostRead? (s : Store) (r : Location) : Option Bytes :=
  if s.visible then s.memory.view? r.start.toNat r.length.toNat else none

/-- The event of a call of the log function. -/
def logEvent (s : Store) (r : Location) : Log.Event :=
  match s.hostRead? r with
  | some bytes => ⟨.info, .module, Utf8.lossy bytes⟩
  | none => ⟨.warn, .imports, "module log message at " ++ r.shown ++ " is out of bounds"⟩

/-- The error that a call of the abort function hands over. -/
def abortReason (s : Store) (r : Location) : ModuleError :=
  match s.hostRead? r with
  | some bytes =>
    match ModuleError.decode bytes with
    | .ok e => e
    | .error e => .other ("malformed abort payload: " ++ e.toIoError.message)
  | none => .other ("abort payload at " ++ r.shown ++ " out of bounds")

end Store

/-- All ones. -/
def minusOne : UInt64 := 0xFFFFFFFFFFFFFFFF

def truth (b : Bool) : UInt64 := if b then 1 else 0

/-- The value of an operation. Shifts take the amount modulo 64. -/
def BinaryOp.apply (op : BinaryOp) (a b : UInt64) : Except Trap UInt64 :=
  match op with
  | add => .ok (a + b)
  | sub => .ok (a - b)
  | mul => .ok (a * b)
  | and => .ok (a &&& b)
  | or => .ok (a ||| b)
  | xor => .ok (a ^^^ b)
  | shl => .ok (a <<< b)
  | shrU => .ok (a >>> b)
  | divU => if b = 0 then .error .divideByZero else .ok (a / b)
  | divS =>
    if b = 0 then .error .divideByZero
    else if a = 0x8000000000000000 ∧ b = minusOne then .error .overflow
    else .ok (a.toInt64 / b.toInt64).toUInt64
  | remU => if b = 0 then .error .divideByZero else .ok (a % b)
  | eq => .ok (truth (a = b))
  | ne => .ok (truth (a ≠ b))
  | ltU => .ok (truth (a < b))
  | ltS => .ok (truth (a.toInt64 < b.toInt64))
  | gtU => .ok (truth (b < a))

/-- An address is the lower half of a word. -/
def address (w : UInt64) : Nat := w.toUInt32.toNat

/-- What is to be done when the current work is finished. -/
inductive Pending where
  | left (op : BinaryOp) (right : Expr)
  | right (op : BinaryOp) (left : UInt64)
  | load8
  | load64
  | grow
  | argument (func : Nat)
  | result
  | logStart (length : Expr)
  | logLength (start : UInt64)
  | abort
  /-- The address of a store, of eight bytes if `wide`. -/
  | storeAddress (wide : Bool) (value : Expr)
  | storeValue (wide : Bool) (address : UInt64)
  | assign (index : Nat)
  | setGlobal (index : Nat)
  | drop
  | branch (whenTrue whenFalse : List Stmt)
  | loop (condition : Expr) (body : List Stmt)
  /-- The statements after a block. -/
  | block (rest : List Stmt)
  /-- The caller's variables; the value of the call is the value of an expression there. -/
  | caller (slots : List UInt64)

inductive Control where
  | eval (e : Expr)
  | value (v : UInt64)
  | run (block : List Stmt)
  /-- Leaves the current function with a value. -/
  | leave (v : UInt64)

structure Machine where
  control : Control
  stack : List Pending
  /-- Parameters and variables of the current function. -/
  slots : List UInt64
  /-- How many calls are under way. -/
  depth : Nat
  store : Store

inductive Next where
  | go (c : Machine)
  | done (value : UInt64) (store : Store)
  | stop (why : Stop) (store : Store)

/-- Calls nest at most so deep. -/
def maxDepth : Nat := 16384

namespace Machine

def trap (c : Machine) (t : Trap) : Next := .stop (.trap t) c.store

def push (c : Machine) (p : Pending) (control : Control) : Next :=
  .go { c with control := control, stack := p :: c.stack }

/-- Starts the evaluation of an expression or gives its value. -/
def evalStep (c : Machine) : Expr → Next
  | .const v => .go { c with control := .value v }
  | .slot i => .go { c with control := .value (c.slots[i]?.getD 0) }
  | .global i => .go { c with control := .value (c.store.globals[i]?.getD 0) }
  | .memorySize => .go { c with control := .value (UInt64.ofNat c.store.memory.pages) }
  | .load8 a => c.push .load8 (.eval a)
  | .load64 a => c.push .load64 (.eval a)
  | .grow n => c.push .grow (.eval n)
  | .call f a => c.push (.argument f) (.eval a)
  | .binary op a b => c.push (.left op b) (.eval a)

def stmtStep (c : Machine) (rest : List Stmt) : Stmt → Next
  | .result e => c.push .result (.eval e)
  | .log p l => { c with stack := .block rest :: c.stack }.push (.logStart l) (.eval p)
  | .abort e => { c with stack := .block rest :: c.stack }.push .abort (.eval e)
  | .trap => c.trap .unreachable
  | .store8 a e => { c with stack := .block rest :: c.stack }.push (.storeAddress false e) (.eval a)
  | .store64 a e => { c with stack := .block rest :: c.stack }.push (.storeAddress true e) (.eval a)
  | .assign i e => { c with stack := .block rest :: c.stack }.push (.assign i) (.eval e)
  | .setGlobal i e => { c with stack := .block rest :: c.stack }.push (.setGlobal i) (.eval e)
  | .eval e => { c with stack := .block rest :: c.stack }.push .drop (.eval e)
  | .branch e t f => { c with stack := .block rest :: c.stack }.push (.branch t f) (.eval e)
  | .loop e b => { c with stack := .block rest :: c.stack }.push (.loop e b) (.eval e)

/-- Reads `width` bytes as a number, the rest of the stack being `stack`. -/
def load (c : Machine) (stack : List Pending) (v : UInt64) (width : Nat) : Next :=
  match c.store.memory.read? (address v) width with
  | some bytes =>
    .go { c with control := .value (UInt64.ofNat (LittleEndian.decode bytes)), stack := stack }
  | none => c.trap .outOfBounds

/-- Writes the lowest `width` bytes of a number. -/
def save (c : Machine) (stack : List Pending) (a v : UInt64) (width : Nat) : Next :=
  match c.store.memory.write? (address a) (LittleEndian.encode width v.toNat) with
  | some memory =>
    .go { c with control := .run [], stack := stack, store := { c.store with memory := memory } }
  | none => c.trap .outOfBounds

def growMemory (c : Machine) (stack : List Pending) (v : UInt64) : Next :=
  match c.store.memory.grow? (address v) with
  | some memory =>
    .go { c with
      control := .value (UInt64.ofNat c.store.memory.pages), stack := stack,
      store := { c.store with memory := memory } }
  | none => .go { c with control := .value minusOne, stack := stack }

/-- Enters a function of the module with one argument. -/
def enter (m : Module) (c : Machine) (stack : List Pending) (func : Nat) (v : UInt64) : Next :=
  match m.funcs[func]? with
  | none => c.trap .unreachable
  | some f =>
    if maxDepth ≤ c.depth then c.trap .stackExhausted
    else
      .go { c with
        control := .run f.body, stack := .caller c.slots :: stack,
        slots := v :: List.replicate f.locals 0, depth := c.depth + 1 }

/-- Hands a value to the work that waits for it, the rest of the stack being `stack`. -/
def valueStep (m : Module) (c : Machine) (v : UInt64) (stack : List Pending) : Pending → Next
  | .left op e => .go { c with control := .eval e, stack := .right op v :: stack }
  | .right op a =>
    match op.apply a v with
    | .ok w => .go { c with control := .value w, stack := stack }
    | .error t => c.trap t
  | .load8 => c.load stack v 1
  | .load64 => c.load stack v 8
  | .grow => c.growMemory stack v
  | .argument f => c.enter m stack f v
  | .result => .go { c with control := .leave v, stack := stack }
  | .logStart l => .go { c with control := .eval l, stack := .logLength v :: stack }
  | .logLength p =>
    let event := c.store.logEvent ⟨p.toUInt32, v.toUInt32⟩
    .go { c with
      control := .run [], stack := stack, store := { c.store with log := event :: c.store.log } }
  | .abort => .stop (.abort (c.store.abortReason (.unpack v))) c.store
  | .storeAddress wide e => .go { c with control := .eval e, stack := .storeValue wide v :: stack }
  | .storeValue wide a => c.save stack a v (if wide then 8 else 1)
  | .assign i => .go { c with control := .run [], stack := stack, slots := c.slots.set i v }
  | .setGlobal i =>
    .go { c with
      control := .run [], stack := stack,
      store := { c.store with globals := c.store.globals.set i v } }
  | .drop => .go { c with control := .run [], stack := stack }
  | .branch t f => .go { c with control := .run (if v = 0 then f else t), stack := stack }
  | .loop e b =>
    if v = 0 then .go { c with control := .run [], stack := stack }
    else .go { c with control := .run b, stack := .block [.loop e b] :: stack }
  | .block rest => .go { c with control := .run rest, stack := stack }
  | .caller slots =>
    .go { c with control := .value v, stack := stack, slots := slots, depth := c.depth - 1 }

/-- One step. A block that is at its end goes on with what follows it; a function that is at its
end gives zero. -/
def step (m : Module) (c : Machine) : Next :=
  match c.control with
  | .eval e => c.evalStep e
  | .value v =>
    match c.stack with
    | [] => .done v c.store
    | p :: stack => c.valueStep m v stack p
  | .run (s :: rest) => c.stmtStep rest s
  | .run [] =>
    match c.stack with
    | .block rest :: stack => .go { c with control := .run rest, stack := stack }
    | _ => .go { c with control := .leave 0 }
  | .leave v =>
    match c.stack with
    | [] => .done v c.store
    | .caller slots :: stack =>
      .go { c with control := .value v, stack := stack, slots := slots, depth := c.depth - 1 }
    | _ :: stack => .go { c with stack := stack }

end Machine

/-- How a run ends. -/
inductive Outcome where
  | value (v : UInt64)
  | stopped (why : Stop)
  /-- All steps were used up. -/
  | unfinished
  deriving DecidableEq, Repr

/-- Takes steps until the machine is finished, at most `fuel` many. -/
def Machine.run (m : Module) : Nat → Machine → Outcome × Store
  | 0, c => (.unfinished, c.store)
  | fuel + 1, c =>
    match c.step m with
    | .go next => next.run m fuel
    | .done v s => (.value v, s)
    | .stop why s => (.stopped why, s)

/-- A function at its beginning, its variables being zero. -/
def Func.machine (f : Func) (arguments : List UInt64) (s : Store) : Machine :=
  ⟨.run f.body, [], arguments ++ List.replicate f.locals 0, 0, s⟩

/-- Runs a function of the module with some arguments. -/
def Func.run (m : Module) (fuel : Nat) (f : Func) (arguments : List UInt64) (s : Store) :
    Outcome × Store :=
  Machine.run m fuel (f.machine arguments s)

end DeployTrigger.Guest
