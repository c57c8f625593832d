import DeployTrigger.Kit.Export
import DeployTrigger.ModuleDeployer.Session
import DeployTrigger.Proofs.Guest.Hosting

/-!
Requests of a session do not influence each other. The answer to each is the answer that it gets
alone, in a new session with the same module file and under the setting that is in force; a call
leaves nothing behind, whatever the guest does to its memory and its globals and however the call
ends.
-/
namespace DeployTrigger.Guest

/-- What is answered to requests one after the other, if each of them hands on a setting. -/
def answersFrom {ρ ν κ : Type} (reply : ν → ρ → κ) (next : ν → ρ → ν) : ν → List ρ → List κ
  | _, [] => []
  | v, r :: rs => reply v r :: answersFrom reply next (next v r) rs

section Serving
variable {σ ρ γ ν κ : Type} {reply : ν → ρ → κ} {next : ν → ρ → ν}

variable (reply next) in
theorem length_answersFrom (v : ν) (rs : List ρ) :
    (answersFrom reply next v rs).length = rs.length := by
  induction rs generalizing v with
  | nil => rfl
  | cons r rs ih => rw [answersFrom, List.length_cons, List.length_cons, ih]

theorem answersFrom_append (v : ν) (rs rs' : List ρ) :
    answersFrom reply next v (rs ++ rs') =
      answersFrom reply next v rs ++ answersFrom reply next (rs.foldl next v) rs' := by
  induction rs generalizing v with
  | nil => rfl
  | cons r rs ih => rw [List.cons_append, answersFrom, ih, answersFrom, List.cons_append,
      List.foldl_cons]

theorem getElem?_answersFrom (v : ν) (before : List ρ) (r : ρ) (after : List ρ) :
    (answersFrom reply next v (before ++ r :: after))[before.length]? =
      some (reply (before.foldl next v) r) := by
  have hlength := length_answersFrom reply next v before
  rw [answersFrom_append, List.getElem?_append_right (Nat.le_of_eq hlength), hlength, Nat.sub_self]
  rfl

theorem eraseIdx_answersFrom (v : ν) (before : List ρ) (r : ρ) (after : List ρ)
    (h : next (before.foldl next v) r = before.foldl next v) :
    (answersFrom reply next v (before ++ r :: after)).eraseIdx before.length =
      answersFrom reply next v (before ++ after) := by
  have hlength := length_answersFrom reply next v before
  rw [answersFrom_append, answersFrom_append, answersFrom, h,
    List.eraseIdx_append_of_length_le (Nat.le_of_eq hlength), hlength, Nat.sub_self]
  rfl

theorem run_mapM_eq {answer : ρ → StateM σ κ} (Knows : ν → σ → Prop)
    (h : ∀ v s r, Knows v s →
      ((answer r).run s).1 = reply v r ∧ Knows (next v r) ((answer r).run s).2)
    (rs : List ρ) {v : ν} {s : σ} (hs : Knows v s) :
    ((rs.mapM answer).run s).1 = answersFrom reply next v rs := by
  -- Behind each request the state knows the setting that the request hands on.
  induction rs generalizing v s with
  | nil => rfl
  | cons r rs ih =>
    obtain ⟨hreply, hnext⟩ := h v s r hs
    rw [List.mapM_cons, answersFrom, ← hreply, ← ih hnext]
    rfl

end Serving

/-- The answers to requests do not depend on each other. -/
structure Independent {ρ γ ν κ : Type} (call : γ → ρ) (next : ν → ρ → ν)
    (answers : ν → List ρ → Except Failure (List κ)) : Prop where
  /-- Each request gets the answer that it gets alone under the setting in force. -/
  alone (v : ν) (before : List ρ) (r : ρ) (after : List ρ) :
    (answers v (before ++ r :: after)).map (·[before.length]?) =
      (answers (before.foldl next v) [r]).map List.head?
  /-- Without a call, all others are answered as with it. -/
  traceless (v : ν) (before : List ρ) (c : γ) (after : List ρ) :
    (answers v (before ++ call c :: after)).map (·.eraseIdx before.length) =
      answers v (before ++ after)
  /-- Every request gets one answer, and calls leave the setting alone. -/
  length (v : ν) (rs : List ρ) :
    (answers v rs).map List.length = (answers v []).map fun _ => rs.length
  setting (v : ν) (c : γ) : next v (call c) = v

theorem independent_of_eq {ρ γ ν κ ι : Type} {call : γ → ρ} {next : ν → ρ → ν}
    {answers : ν → List ρ → Except Failure (List κ)} {made : Except Failure ι}
    {reply : ι → ν → ρ → κ} (hcall : ∀ v c, next v (call c) = v)
    (h : ∀ v rs, answers v rs = made.map fun x => answersFrom (reply x) next v rs) :
    Independent call next answers where
  alone v before r after := by
    rw [h, h]
    refine (Functor.map_map _ _ made).trans (Eq.trans ?_ (Functor.map_map _ _ made).symm)
    exact congrArg made.map (funext fun x => getElem?_answersFrom v before r after)
  traceless v before c after := by
    rw [h, h]
    refine (Functor.map_map _ _ made).trans (congrArg made.map (funext fun x => ?_))
    exact eraseIdx_answersFrom v before (call c) after (hcall _ c)
  length v rs := by
    rw [h, h]
    refine (Functor.map_map _ _ made).trans (Eq.trans ?_ (Functor.map_map _ _ made).symm)
    exact congrArg made.map (funext fun x => length_answersFrom (reply x) next v rs)
  setting := hcall

/-- The answer to a call that has an instance of its own. -/
def Sandbox.answer (s : Sandbox) : Call → Log.Logged Answer
  | .invoke entrypoint t =>
    ⟨.address (s.invoke entrypoint t).outcome.value, (s.invoke entrypoint t).outcome.events⟩
  | .schemas => ⟨.schemas s.schemas.outcome.value, s.schemas.outcome.events⟩

/-- An engine full of instances answers a call as an empty one does. -/
theorem Sandbox.answerOn_eq (s : Sandbox) (c : Call) (e : Engine) :
    (s.answerOn c e).1 = s.answer c := by
  cases c with
  | invoke entrypoint t => exact (s.mirrors_invoke entrypoint t (Nat.le_refl _)).answer_eq _
  | schemas => exact (s.mirrors_schemas (Nat.le_refl _)).answer_eq _

theorem Sandbox.agree_answerOn (s : Sandbox) (c : Call) (e : Engine) :
    e.Agree e.states.size (s.answerOn c e).2 := by
  cases c with
  | invoke entrypoint t => exact (s.mirrors_invoke entrypoint t (Nat.le_refl _)).agree
  | schemas => exact (s.mirrors_schemas (Nat.le_refl _)).agree

/-- The limits that are in force behind a request. -/
def Request.next (l : Limits) : Request → Limits
  | .call _ => l
  | .limits l => l

def Request.reply (s : Sandbox) (l : Limits) : Request → Log.Logged Answer
  | .call c => { s with limits := l }.answer c
  | .limits _ => ⟨.accepted, []⟩

theorem Compiler.answers_eq (compiler : Compiler) (file : Bytes) (fuel : Nat) (l : Limits)
    (rs : List Request) :
    compiler.answers file l fuel rs = (compiler.compile file).outcome.value.map fun s =>
      answersFrom (Request.reply { s with fuel := fuel }) Request.next l rs := by
  refine congrArg (fun f => (compiler.compile file).outcome.value.map f) (funext fun s => ?_)
  refine run_mapM_eq (fun l t => t.sandbox = { s with fuel := fuel, limits := l })
    (fun l t r ht => ?_) rs rfl
  cases r with
  | limits l' =>
    obtain ⟨_, engine⟩ := t
    cases ht
    exact ⟨rfl, rfl⟩
  | call c =>
    constructor
    · rw [Request.reply, ← ht]
      exact Sandbox.answerOn_eq t.sandbox c t.engine
    · exact ht

end DeployTrigger.Guest

namespace DeployTrigger.ModuleDeployer
open Guest

def answer (d : ModuleDeployer) : Call → Log.Logged Answer
  | .deploy t => ⟨.address (d.deploy t).outcome.value, (d.deploy t).outcome.events⟩
  | .schemas => ⟨.schemas d.schemas.outcome.value, d.schemas.outcome.events⟩

theorem mirrors_deploy (d : ModuleDeployer) (t : Timestamp) (e : Engine) :
    Mirrors e.states.size e (d.deployOn t) (d.deploy t) fun _ a b => a = b := by
  refine (Mirrors.same (Deploy.emit (callingEvent d.entrypoint t))).bind ?_
  rintro _ _ _ ⟨rfl, -⟩
  exact d.sandbox.mirrors_invoke d.entrypoint t (Nat.le_refl _)

theorem answerOn_eq (d : ModuleDeployer) (c : Call) (e : Engine) :
    (d.answerOn c e).1 = d.answer c := by
  cases c with
  | deploy t => exact (d.mirrors_deploy t e).answer_eq _
  | schemas => exact (d.sandbox.mirrors_schemas (Nat.le_refl _)).answer_eq _

/-- The entrypoint that is called behind a request. -/
def Request.next (entrypoint : String) : Request → String
  | .call _ => entrypoint
  | .entrypoint name => name

def Request.reply (s : Sandbox) (entrypoint : String) : Request → Log.Logged Answer
  | .call c => answer ⟨s, entrypoint⟩ c
  | .entrypoint _ => ⟨.accepted, []⟩

theorem answers_eq (compiler : Compiler) (file : Bytes) (l : Limits) (fuel : Nat)
    (entrypoint : String) (rs : List Request) :
    answers compiler file l fuel entrypoint rs = (compiler.compile file).outcome.value.map fun s =>
      answersFrom (Request.reply { s with limits := l, fuel := fuel }) Request.next entrypoint
        rs := by
  refine congrArg (fun f => (compiler.compile file).outcome.value.map f) (funext fun s => ?_)
  refine run_mapM_eq
    (fun entrypoint t => t.deployer = ⟨{ s with limits := l, fuel := fuel }, entrypoint⟩)
    (fun entrypoint t r ht => ?_) rs rfl
  cases r with
  | entrypoint name =>
    obtain ⟨_, engine⟩ := t
    cases ht
    exact ⟨rfl, rfl⟩
  | call c =>
    constructor
    · rw [Request.reply, ← ht]
      exact answerOn_eq t.deployer c t.engine
    · exact ht

end DeployTrigger.ModuleDeployer

namespace DeployTrigger
open Guest

structure Isolated (compiler : Compiler) (file : Bytes) (fuel : Nat) : Prop where
  sandboxes : Independent Request.call Request.next fun l => compiler.answers file l fuel
  deployers (l : Limits) : Independent ModuleDeployer.Request.call ModuleDeployer.Request.next
    (ModuleDeployer.answers compiler file l fuel)
  /-- The answer to a call alone is that of an instance that no engine holds. -/
  call (l : Limits) (c : Guest.Call) :
    compiler.answers file l fuel [.call c] = (compiler.compile file).outcome.value.map fun s =>
      [Sandbox.answer { s with limits := l, fuel := fuel } c]
  /-- A deployer calls its entrypoint, and says so first. -/
  deploy (l : Limits) (entrypoint : String) (t : Timestamp) :
    ModuleDeployer.answers compiler file l fuel entrypoint [.call (.deploy t)] =
      (compiler.answers file l fuel [.call (.invoke entrypoint t)]).map
        (List.map fun a => ⟨a.value, ModuleDeployer.callingEvent entrypoint t :: a.events⟩)
  /-- What a module publishes does not depend on the entrypoint. -/
  schemas (l : Limits) (entrypoint : String) :
    ModuleDeployer.answers compiler file l fuel entrypoint [.call .schemas] =
      compiler.answers file l fuel [.call .schemas]
  /-- A call writes to no memory and to no global but those of its own instance. -/
  states (s : Sandbox) (c : Guest.Call) (e : Engine) :
    e.Agree e.states.size (s.answerOn c e).2

/-- Calls of a module do not influence each other. -/
theorem sessions_isolated (compiler : Compiler) (file : Bytes) (fuel : Nat) :
    Isolated compiler file fuel where
  sandboxes := independent_of_eq (fun _ _ => rfl) (compiler.answers_eq file fuel)
  deployers l := independent_of_eq (fun _ _ => rfl) (ModuleDeployer.answers_eq compiler file l fuel)
  call l c := compiler.answers_eq file fuel l [.call c]
  deploy l entrypoint t := by
    rw [Compiler.answers_eq, ModuleDeployer.answers_eq]
    cases (compiler.compile file).outcome.value <;> rfl
  schemas l entrypoint := by
    rw [Compiler.answers_eq, ModuleDeployer.answers_eq]
    rfl
  states s c e := s.agree_answerOn c e

/-- A module that counts its calls in a global and gives the count as an address of one byte. -/
def counting : Sandbox where
  module := {
    name := none
    memory := some ⟨1, none, some memoryExport⟩
    globals := [⟨[], true, 0⟩]
    data := []
    imports := []
    funcs := [⟨["deploy"], .wordToWord, 0, [
      .setGlobal 0 (.binary .add (.global 0) (.const 1)),
      .store8 (.const 16) (.global 0),
      .result (.const (Kit.pack 16 1))]⟩]
    start := none }
  valid := by decide
  limits := {}
  fuel := 32

/-- Its count does not go on from call to call. -/
example :
    let requests : List Request := List.replicate 2 (.call (.invoke "deploy" ⟨5⟩))
    ((requests.mapM Session.answer).run (.start counting)).1.map (·.value) =
      List.replicate 2 (.address (.ok ⟨[1]⟩)) := rfl

end DeployTrigger
