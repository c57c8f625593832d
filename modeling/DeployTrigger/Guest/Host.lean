import DeployTrigger.Guest.Syntax

/-! The functions that the host offers to modules, and how types of imports are written. -/
namespace DeployTrigger.Guest

inductive HostFunc where
  /-- Logs a range of memory. -/
  | log
  /-- Ends the call with an error that lies in memory. -/
  | abort
  deriving DecidableEq, Repr

def HostFunc.name : HostFunc → String
  | log => "log"
  | abort => "abort"

def HostFunc.type : HostFunc → FuncType
  | log => ⟨[.i32, .i32], []⟩
  | abort => ⟨[.i64], []⟩

/-- The name space of the functions that the host offers. -/
def hostModule : String := "env"

def HostFunc.toImport (f : HostFunc) : Import := ⟨hostModule, f.name, .func f.type⟩

/-- The function that the host offers under the names of an import. -/
def Import.offered? (i : Import) : Option HostFunc :=
  if i.module = hostModule then
    [HostFunc.log, HostFunc.abort].find? (·.name = i.name)
  else none

def ValueType.name : ValueType → String
  | i32 => "I32"
  | i64 => "I64"
  | f32 => "F32"
  | f64 => "F64"
  | v128 => "V128"
  | funcRef => "FuncRef"
  | externRef => "ExternRef"

/-- Names of types in brackets. -/
def ValueType.list (ts : List ValueType) : String := "[" ++ ", ".intercalate (ts.map name) ++ "]"

def FuncType.shown (t : FuncType) : String :=
  "Function(FunctionType \x7b params: " ++ ValueType.list t.params ++ ", results: " ++
    ValueType.list t.results ++ " \x7d)"

def ExternType.shown : ExternType → String
  | func t => t.shown
  | memory => "Memory(MemoryType \x7b minimum: 1 pages, maximum: None, shared: false \x7d)"
  | global => "Global(GlobalType \x7b ty: I64, mutability: Const \x7d)"
  | table => "Table(TableType \x7b ty: FuncRef, minimum: 1, maximum: None \x7d)"

/-- Why an import cannot be satisfied. -/
inductive LinkError where
  | unknown (wanted : Import)
  | incompatible (wanted : Import) (offered : HostFunc)
  deriving DecidableEq, Repr

def LinkError.message : LinkError → String
  | unknown i => "Error while importing \"" ++ i.module ++ "\".\"" ++ i.name ++
      "\": unknown import. Expected " ++ i.type.shown
  | incompatible i f => "Error while importing \"" ++ i.module ++ "\".\"" ++ i.name ++
      "\": incompatible import type. Expected " ++ i.type.shown ++ " but received " ++ f.type.shown

/-- The offered function of an import, if the types agree. -/
def Import.resolve (i : Import) : Except LinkError HostFunc :=
  match i.offered? with
  | none => .error (.unknown i)
  | some f => if i.type = .func f.type then .ok f else .error (.incompatible i f)

/-- Resolves imports in order; the first that cannot be satisfied is reported. -/
def Module.link (m : Module) : Except LinkError (List HostFunc) := m.imports.mapM Import.resolve

end DeployTrigger.Guest
