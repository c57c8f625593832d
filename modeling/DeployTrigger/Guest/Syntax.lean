import DeployTrigger.Text.Utf8

/-!
Deployer modules: a memory with data in it, globals, imported and own functions, and the names
under which some of these are exported. Function bodies compute with words of 64 bits.
-/
namespace DeployTrigger.Guest

inductive ValueType where
  | i32 | i64 | f32 | f64 | v128 | funcRef | externRef
  deriving DecidableEq, Repr

structure FuncType where
  params : List ValueType
  results : List ValueType
  deriving DecidableEq, Repr

inductive BinaryOp where
  | add | sub | mul | and | or | xor | shl | shrU | divU | divS | remU
  | eq | ne | ltU | ltS | gtU
  deriving DecidableEq, Repr

inductive Expr where
  | const (value : UInt64)
  /-- A parameter or, behind the parameters, a variable of the function. -/
  | slot (index : Nat)
  /-- A global of the module. -/
  | global (index : Nat)
  /-- The size of the memory in pages. -/
  | memorySize
  | load8 (address : Expr)
  | load64 (address : Expr)
  /-- Grows the memory by some pages; the value is the size before, or -1. -/
  | grow (pages : Expr)
  /-- Calls a function of the module. -/
  | call (func : Nat) (argument : Expr)
  | binary (op : BinaryOp) (left right : Expr)
  deriving DecidableEq, Repr

inductive Stmt where
  /-- Ends the function with a value. -/
  | result (value : Expr)
  /-- Calls the imported log function with a start and a length. -/
  | log (start length : Expr)
  /-- Calls the imported abort function with a packed location. -/
  | abort (location : Expr)
  | trap
  | store8 (address value : Expr)
  | store64 (address value : Expr)
  | assign (index : Nat) (value : Expr)
  /-- Sets a global of the module. -/
  | setGlobal (index : Nat) (value : Expr)
  /-- Evaluates an expression and drops its value. -/
  | eval (value : Expr)
  | branch (condition : Expr) (whenTrue whenFalse : List Stmt)
  | loop (condition : Expr) (body : List Stmt)
  deriving Repr

/-- The packed location of a start and a length. -/
def Expr.location (start length : Expr) : Expr :=
  .binary .or (.binary .shl start (.const 32)) (.binary .and length (.const 0xFFFFFFFF))

structure Func where
  exports : List String
  type : FuncType
  /-- How many variables there are behind the parameters. -/
  locals : Nat
  body : List Stmt
  deriving Repr

/-- What an import asks for. -/
inductive ExternType where
  | func (type : FuncType)
  | memory
  | global
  | table
  deriving DecidableEq, Repr

structure Import where
  module : String
  name : String
  type : ExternType
  deriving DecidableEq, Repr

/-- A memory with its size and greatest size in pages. -/
structure MemoryType where
  min : Nat
  max : Option Nat
  export? : Option String
  deriving DecidableEq, Repr

/-- A global with the value that it has at first. -/
structure Global where
  exports : List String
  /-- Whether it can be set. -/
  mutable : Bool
  initial : UInt64
  deriving DecidableEq, Repr

structure Module where
  name : Option String
  memory : Option MemoryType
  globals : List Global
  /-- Bytes and the address they are copied to. -/
  data : List (Nat × Bytes)
  imports : List Import
  funcs : List Func
  /-- The function that runs at the end of instantiation. -/
  start : Option Nat
  deriving Repr

inductive ExportKind where
  | memory
  | global
  | func (index : Nat)
  deriving DecidableEq, Repr

namespace Module

/-- Exports of the functions from number `i` on. -/
def funcExports (i : Nat) : List Func → List (String × ExportKind)
  | [] => []
  | f :: rest => f.exports.map (·, .func i) ++ funcExports (i + 1) rest

/-- All exports: the memory, the globals, the functions. -/
def exports (m : Module) : List (String × ExportKind) :=
  (m.memory.bind (·.export?)).toList.map (·, .memory) ++
    (m.globals.flatMap (·.exports)).map (·, .global) ++ funcExports 0 m.funcs

def export? (m : Module) (name : String) : Option ExportKind := m.exports.lookup name

end Module
end DeployTrigger.Guest
