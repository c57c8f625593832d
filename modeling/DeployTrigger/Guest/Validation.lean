import DeployTrigger.Guest.Host

/-!
Which modules compile: export names differ, everything that is used is there and has the right
type, the start function takes and gives nothing, and the memory has possible sizes.
-/
namespace DeployTrigger.Guest

/-- The type of entrypoints and of the functions that bodies can call. -/
def FuncType.wordToWord : FuncType := ⟨[.i64], [.i64]⟩

/-- The type of functions that give a word. -/
def FuncType.word : FuncType := ⟨[], [.i64]⟩

/-- The type of functions that give nothing. -/
def FuncType.unit : FuncType := ⟨[], []⟩

/-- A memory has at most so many pages. -/
def maxPages : Nat := 65536

namespace Module

/-- Whether there is a memory, own or imported. -/
def hasMemory (m : Module) : Bool := m.memory.isSome || m.imports.any (·.type = .memory)

/-- The type of the first imported function of a name. -/
def importedFunc? (m : Module) (name : String) : Option FuncType :=
  m.imports.findSome? fun i =>
    match i.type with
    | .func t => if i.name = name then some t else none
    | _ => none

def canCallHost (m : Module) (f : HostFunc) : Bool := m.importedFunc? f.name = some f.type

end Module

/-- Whether a function has a variable of 64 bits at an index. -/
def Func.hasVariable (f : Func) (index : Nat) : Bool :=
  match f.type.params[index]? with
  | some t => t = .i64
  | none => index < f.type.params.length + f.locals

def Expr.isValid (m : Module) (f : Func) : Expr → Bool
  | const _ => true
  | slot i => f.hasVariable i
  | global i => i < m.globals.length
  | memorySize => m.hasMemory
  | load8 a => m.hasMemory && a.isValid m f
  | load64 a => m.hasMemory && a.isValid m f
  | grow n => m.hasMemory && n.isValid m f
  | call g a => (m.funcs[g]?).any (·.type = .wordToWord) && a.isValid m f
  | binary _ a b => a.isValid m f && b.isValid m f

mutual
def Stmt.isValid (m : Module) (f : Func) : Stmt → Bool
  | .result e => (f.type.results = [.i64] || f.type.results = []) && e.isValid m f
  | .log p l => m.canCallHost .log && p.isValid m f && l.isValid m f
  | .abort e => m.canCallHost .abort && e.isValid m f
  | .trap => true
  | .store8 a e => m.hasMemory && a.isValid m f && e.isValid m f
  | .store64 a e => m.hasMemory && a.isValid m f && e.isValid m f
  | .assign i e => f.hasVariable i && e.isValid m f
  | .setGlobal i e => (m.globals[i]?).any (·.mutable) && e.isValid m f
  | .eval e => e.isValid m f
  | .branch c t e => c.isValid m f && blockIsValid m f t && blockIsValid m f e
  | .loop c b => c.isValid m f && blockIsValid m f b

def blockIsValid (m : Module) (f : Func) : List Stmt → Bool
  | [] => true
  | s :: rest => s.isValid m f && blockIsValid m f rest
end

def MemoryType.isValid (t : MemoryType) : Bool :=
  t.min ≤ maxPages && (t.max.all fun n => t.min ≤ n && n ≤ maxPages)

/-- Whether no element stands in front of an equal one. -/
def distinct : List String → Bool
  | [] => true
  | x :: rest => !rest.contains x && distinct rest

namespace Module

def isValid (m : Module) : Bool :=
  distinct (m.exports.map (·.1)) &&
    m.memory.all MemoryType.isValid &&
    !(m.memory.isSome && m.imports.any (·.type = .memory)) &&
    (m.data.isEmpty || m.hasMemory) &&
    m.funcs.all (fun f => blockIsValid m f f.body) &&
    m.start.all (fun i => (m.funcs[i]?).any (·.type = .unit))

end Module
end DeployTrigger.Guest
