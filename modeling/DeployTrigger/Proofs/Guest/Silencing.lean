import DeployTrigger.Guest.Instance
import Mathlib.Data.List.Forall2

/-!
Modules with silenced calls of the log function. What a silenced call would have been given is still
evaluated, and dropped. The module imports and exports what it did, starts with the same state, and
compiles if it did (`Module.Silenced.isValid`).
-/
namespace DeployTrigger.Guest

/-- Statements without blocks in them. -/
def Stmt.isSimple : Stmt → Bool
  | .branch .. | .loop .. => false
  | _ => true

/-- The second block is the first one with some calls of the log function silenced. -/
inductive Silenced : List Stmt → List Stmt → Prop where
  | nil : Silenced [] []
  | silence (start length : Expr) {rest rest' : List Stmt} (h : Silenced rest rest') :
      Silenced (.log start length :: rest) (.eval start :: .eval length :: rest')
  | keep {s : Stmt} {rest rest' : List Stmt} (hs : s.isSimple = true) (h : Silenced rest rest') :
      Silenced (s :: rest) (s :: rest')
  | branch (condition : Expr) {t t' e e' rest rest' : List Stmt} (ht : Silenced t t')
      (he : Silenced e e') (h : Silenced rest rest') :
      Silenced (.branch condition t e :: rest) (.branch condition t' e' :: rest')
  | loop (condition : Expr) {body body' rest rest' : List Stmt} (hb : Silenced body body')
      (h : Silenced rest rest') :
      Silenced (.loop condition body :: rest) (.loop condition body' :: rest')

structure Func.Silenced (f f' : Func) : Prop where
  exports : f'.exports = f.exports
  type : f'.type = f.type
  locals : f'.locals = f.locals
  body : Guest.Silenced f.body f'.body

/-- The second module is the first one with some calls of the log function silenced. -/
structure Module.Silenced (m m' : Module) : Prop where
  name : m'.name = m.name
  memory : m'.memory = m.memory
  globals : m'.globals = m.globals
  data : m'.data = m.data
  imports : m'.imports = m.imports
  funcs : List.Forall₂ Func.Silenced m.funcs m'.funcs
  start : m'.start = m.start

namespace Module.Silenced
variable {m m' : Module} {f f' : Func}

theorem get? (h : m.Silenced m') (i : Nat) :
    (m.funcs[i]? = none ∧ m'.funcs[i]? = none) ∨
      ∃ f f', m.funcs[i]? = some f ∧ m'.funcs[i]? = some f' ∧ f.Silenced f' := by
  have hlength := h.funcs.length_eq
  by_cases hi : i < m.funcs.length
  · have hi' : i < m'.funcs.length := hlength ▸ hi
    exact .inr ⟨m.funcs[i], m'.funcs[i], List.getElem?_eq_getElem hi, List.getElem?_eq_getElem hi',
      h.funcs.get hi hi'⟩
  · exact .inl ⟨List.getElem?_eq_none (by omega), List.getElem?_eq_none (by omega)⟩

theorem any_type (h : m.Silenced m') (i : Nat) (t : FuncType) :
    (m'.funcs[i]?).any (·.type = t) = (m.funcs[i]?).any (·.type = t) := by
  obtain ⟨hi, hi'⟩ | ⟨f, f', hi, hi', hf⟩ := h.get? i
  · rw [hi, hi']
  · rw [hi, hi', Option.any_some, Option.any_some, hf.type]

theorem funcExports_eq {fs fs' : List Func} (h : List.Forall₂ Func.Silenced fs fs') (i : Nat) :
    funcExports i fs' = funcExports i fs := by
  induction h generalizing i with
  | nil => rfl
  | cons hf _ ih => rw [funcExports, funcExports, hf.exports, ih]

theorem exports (h : m.Silenced m') : m'.exports = m.exports := by
  rw [Module.exports, Module.exports, h.memory, h.globals, funcExports_eq h.funcs]

theorem export? (h : m.Silenced m') (name : String) : m'.export? name = m.export? name := by
  rw [Module.export?, Module.export?, h.exports]

theorem exportsMemory (h : m.Silenced m') : m'.exportsMemory = m.exportsMemory := by
  rw [Module.exportsMemory, Module.exportsMemory, h.export?]

theorem exportedFunc (h : m.Silenced m') (name : String) (type : FuncType) :
    (∃ e, m.exportedFunc name type = .error e ∧ m'.exportedFunc name type = .error e) ∨
      ∃ f f', m.exportedFunc name type = .ok f ∧ m'.exportedFunc name type = .ok f' ∧
        f.Silenced f' := by
  simp only [Module.exportedFunc, h.export?]
  cases m.export? name with
  | none => exact .inl ⟨_, rfl, rfl⟩
  | some kind =>
    cases kind with
    | memory | global => exact .inl ⟨_, rfl, rfl⟩
    | func i =>
      obtain ⟨hi, hi'⟩ | ⟨f, f', hi, hi', hf⟩ := h.get? i
      · simp only [hi, hi']
        exact .inl ⟨_, rfl, rfl⟩
      · simp only [hi, hi', hf.type]
        by_cases ht : f.type = type
        · exact .inr ⟨f, f', if_pos ht, if_pos ht, hf⟩
        · exact .inl ⟨_, if_neg ht, if_neg ht⟩

theorem link (h : m.Silenced m') : m'.link = m.link := by
  rw [Module.link, Module.link, h.imports]

theorem initialMemory (h : m.Silenced m') : m'.initialMemory = m.initialMemory := by
  rw [Module.initialMemory, Module.initialMemory, Module.blankMemory, Module.blankMemory, h.data,
    h.memory]

theorem blankStore (h : m.Silenced m') (memory : Memory) : m'.blankStore memory = m.blankStore memory := by
  rw [Module.blankStore, Module.blankStore, Module.initialGlobals, Module.initialGlobals, h.globals]

theorem startFunc? (h : m.Silenced m') :
    (m.startFunc? = none ∧ m'.startFunc? = none) ∨
      ∃ f f', m.startFunc? = some f ∧ m'.startFunc? = some f' ∧ f.Silenced f' := by
  rw [Module.startFunc?, Module.startFunc?, h.start]
  cases m.start with
  | none => exact .inl ⟨rfl, rfl⟩
  | some i => exact h.get? i

section Validity

theorem hasMemory (h : m.Silenced m') : m'.hasMemory = m.hasMemory := by
  rw [Module.hasMemory, Module.hasMemory, h.memory, h.imports]

theorem canCallHost (h : m.Silenced m') (g : HostFunc) : m'.canCallHost g = m.canCallHost g := by
  rw [Module.canCallHost, Module.canCallHost, Module.importedFunc?, Module.importedFunc?, h.imports]

theorem hasVariable (hf : f.Silenced f') (i : Nat) : f'.hasVariable i = f.hasVariable i := by
  rw [Func.hasVariable, Func.hasVariable, hf.type, hf.locals]

theorem expr_isValid (h : m.Silenced m') (hf : f.Silenced f') (e : Expr) :
    e.isValid m' f' = e.isValid m f := by
  induction e with
  | const v => rfl
  | slot i => exact hasVariable hf i
  | global i => simp only [Expr.isValid, h.globals]
  | memorySize => exact h.hasMemory
  | load8 a ih | load64 a ih | grow a ih => simp only [Expr.isValid, h.hasMemory, ih]
  | call g a ih => simp only [Expr.isValid, h.any_type, ih]
  | binary op a b iha ihb => simp only [Expr.isValid, iha, ihb]

theorem stmt_isValid (h : m.Silenced m') (hf : f.Silenced f') {s : Stmt}
    (hs : s.isSimple = true) : s.isValid m' f' = s.isValid m f := by
  cases s with
  | branch | loop => cases hs
  | _ => simp only [Stmt.isValid, h.expr_isValid hf, h.hasMemory, h.canCallHost, h.globals,
      hasVariable hf, hf.type]

theorem blockIsValid (h : m.Silenced m') (hf : f.Silenced f') {b b' : List Stmt}
    (hb : Guest.Silenced b b') (hv : blockIsValid m f b = true) : blockIsValid m' f' b' = true := by
  induction hb with
  | nil => exact hv
  | silence p l _ ih =>
    simp only [Guest.blockIsValid, Stmt.isValid, Bool.and_eq_true, h.expr_isValid hf] at hv ⊢
    exact ⟨hv.1.1.2, hv.1.2, ih hv.2⟩
  | keep hs _ ih =>
    simp only [Guest.blockIsValid, Bool.and_eq_true, h.stmt_isValid hf hs] at hv ⊢
    exact ⟨hv.1, ih hv.2⟩
  | branch c _ _ _ iht ihe ih =>
    simp only [Guest.blockIsValid, Stmt.isValid, Bool.and_eq_true, h.expr_isValid hf] at hv ⊢
    exact ⟨⟨⟨hv.1.1.1, iht hv.1.1.2⟩, ihe hv.1.2⟩, ih hv.2⟩
  | loop c _ _ ihb ih =>
    simp only [Guest.blockIsValid, Stmt.isValid, Bool.and_eq_true, h.expr_isValid hf] at hv ⊢
    exact ⟨⟨hv.1.1, ihb hv.1.2⟩, ih hv.2⟩

/-- What compiles still compiles with silenced calls. -/
theorem isValid (h : m.Silenced m') (hv : m.isValid = true) : m'.isValid = true := by
  have hbodies : ∀ {fs fs' : List Func}, List.Forall₂ Func.Silenced fs fs' →
      fs.all (fun f => Guest.blockIsValid m f f.body) = true →
      fs'.all (fun f => Guest.blockIsValid m' f f.body) = true := by
    intro fs fs' hfs hall
    induction hfs with
    | nil => rfl
    | cons hf _ ih =>
      rw [List.all_cons, Bool.and_eq_true] at hall ⊢
      exact ⟨h.blockIsValid hf hf.body hall.1, ih hall.2⟩
  simp only [Module.isValid, Bool.and_eq_true, h.exports, h.memory, h.imports, h.data, h.start,
    h.hasMemory, h.any_type] at hv ⊢
  exact ⟨⟨hv.1.1, hbodies h.funcs hv.1.2⟩, hv.2⟩

end Validity
end Module.Silenced
end DeployTrigger.Guest
