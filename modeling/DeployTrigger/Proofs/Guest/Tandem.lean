import DeployTrigger.Proofs.Guest.Silencing
import DeployTrigger.Proofs.Guest.Start

/-!
Two executions side by side, the second one in a module with silenced calls of the log function. A
step of the first is one or more steps of the second (`Alongside.step`), so the two end alike or not
at all; on the way every call of the log function is booked, with whether it is silenced.
-/
namespace DeployTrigger.Guest
open Deploy Machine

/-- What waits for an operand. -/
def Pending.isOperand : Pending → Bool
  | .left .. | .right .. | .load8 | .load64 | .grow | .argument _ => true
  | _ => false

/-- What waits for a value in a statement without blocks. -/
def Pending.isSimple : Pending → Bool
  | .result | .logStart _ | .logLength _ | .abort | .storeAddress .. | .storeValue .. | .assign _
  | .setGlobal _ | .drop => true
  | _ => false

mutual

/-- Stacks that wait for a value. -/
inductive ValueStacks : List Pending → List Pending → Prop where
  | nil : ValueStacks [] []
  | operand {p : Pending} {S S' : List Pending} (hp : p.isOperand = true) (h : ValueStacks S S') :
      ValueStacks (p :: S) (p :: S')
  | caller (slots : List UInt64) {S S' : List Pending} (h : ValueStacks S S') :
      ValueStacks (.caller slots :: S) (.caller slots :: S')
  | simple {p : Pending} {S S' : List Pending} (hp : p.isSimple = true) (h : BlockStacks S S') :
      ValueStacks (p :: S) (p :: S')
  | branch {t t' e e' : List Stmt} {S S' : List Pending} (ht : Silenced t t') (he : Silenced e e')
      (h : BlockStacks S S') : ValueStacks (.branch t e :: S) (.branch t' e' :: S')
  | loop (condition : Expr) {b b' : List Stmt} {S S' : List Pending} (hb : Silenced b b')
      (h : BlockStacks S S') : ValueStacks (.loop condition b :: S) (.loop condition b' :: S')
  | silencedStart (length : Expr) {b b' : List Stmt} {S S' : List Pending} (hb : Silenced b b')
      (h : BlockStacks S S') :
      ValueStacks (.logStart length :: .block b :: S) (.drop :: .block (.eval length :: b') :: S')
  | silencedLength (start : UInt64) {S S' : List Pending} (h : BlockStacks S S') :
      ValueStacks (.logLength start :: S) (.drop :: S')

/-- Stacks that wait for the end of a block. -/
inductive BlockStacks : List Pending → List Pending → Prop where
  | nil : BlockStacks [] []
  | caller (slots : List UInt64) {S S' : List Pending} (h : ValueStacks S S') :
      BlockStacks (.caller slots :: S) (.caller slots :: S')
  | block {b b' : List Stmt} {S S' : List Pending} (hb : Silenced b b') (h : BlockStacks S S') :
      BlockStacks (.block b :: S) (.block b' :: S')

end

namespace Machine

/-- The second machine is where the first one is, in code with silenced calls. What was logged does
not matter. -/
inductive Alongside : Machine → Machine → Prop where
  | eval {e : Expr} {S S' : List Pending} {slots : List UInt64} {depth : Nat} {state : State}
      {visible : Bool} {log log' : List Log.Event} (h : ValueStacks S S') :
      Alongside ⟨.eval e, S, slots, depth, state, visible, log⟩
        ⟨.eval e, S', slots, depth, state, visible, log'⟩
  | value {v : UInt64} {S S' : List Pending} {slots : List UInt64} {depth : Nat} {state : State}
      {visible : Bool} {log log' : List Log.Event} (h : ValueStacks S S') :
      Alongside ⟨.value v, S, slots, depth, state, visible, log⟩
        ⟨.value v, S', slots, depth, state, visible, log'⟩
  | run {b b' : List Stmt} {S S' : List Pending} {slots : List UInt64} {depth : Nat}
      {state : State} {visible : Bool} {log log' : List Log.Event} (hb : Silenced b b')
      (h : BlockStacks S S') :
      Alongside ⟨.run b, S, slots, depth, state, visible, log⟩
        ⟨.run b', S', slots, depth, state, visible, log'⟩
  | leave {v : UInt64} {S S' : List Pending} {slots : List UInt64} {depth : Nat} {state : State}
      {visible : Bool} {log log' : List Log.Event} (h : BlockStacks S S') :
      Alongside ⟨.leave v, S, slots, depth, state, visible, log⟩
        ⟨.leave v, S', slots, depth, state, visible, log'⟩

end Machine

/-- An event, and whether the call that logs it is silenced. -/
structure Booking where
  event : Log.Event
  silenced : Bool
  deriving DecidableEq, Repr

/-- The events that are left. -/
def heard (booked : List Booking) : List Log.Event :=
  (booked.filter fun b => ! b.silenced).map Booking.event

theorem heard_append (booked booked' : List Booking) :
    heard (booked ++ booked') = heard booked ++ heard booked' := by
  rw [heard, heard, heard, List.filter_append, List.map_append]

namespace Machine

/-- The machine drops the length that a silenced call would have been given. -/
def Drops (c : Machine) (v : UInt64) : Prop := c.control = .value v ∧ ∃ S, c.stack = .drop :: S

/-- One step of the first machine next to the steps of the second: neither logs anything, or both
call the log function alike, or the first one calls it where the second one drops the length. -/
inductive Pace (m m' : Module) (c c' : Machine) : List Booking → Machine → Machine → Prop where
  | quiet {d d' e' : Machine} (hs : c.step m = .go d) (hs' : c'.step m' = .go e')
      (hl : Leads m' e' d') (hlog : d.store.log = c.store.log)
      (hlog' : d'.store.log = c'.store.log) : Pace m m' c c' [] d d'
  | kept {d d' : Machine} {r : Location} (hc : c.CallsLog r) (hc' : c'.CallsLog r)
      (hs : c.step m = .go d) (hs' : c'.step m' = .go d')
      (hlog : d.store.log = c.store.logEvent r :: c.store.log)
      (hlog' : d'.store.log = c.store.logEvent r :: c'.store.log) :
      Pace m m' c c' [⟨c.store.logEvent r, false⟩] d d'
  | silenced {d d' : Machine} {r : Location} {v : UInt64} (hc : c.CallsLog r)
      (hv : c.control = .value v) (hc' : c'.Drops v) (hs : c.step m = .go d)
      (hs' : c'.step m' = .go d') (hlog : d.store.log = c.store.logEvent r :: c.store.log)
      (hlog' : d'.store.log = c'.store.log) :
      Pace m m' c c' [⟨c.store.logEvent r, true⟩] d d'

/-- Two machines at the same place go on to the same place, or end alike. -/
inductive Meets (m m' : Module) (c c' : Machine) : Prop where
  | value {v : UInt64} (hs : c.step m = .done v c.store) (hs' : c'.step m' = .done v c'.store)
  | stopped {why : Stop} (hs : c.step m = .stop why c.store) (hs' : c'.step m' = .stop why c'.store)
  | onward {booked : List Booking} {d d' : Machine} (hp : Pace m m' c c' booked d d')
      (h : Alongside d d')

section Steps
variable {m m' : Module} {S S' : List Pending} {slots : List UInt64} {depth : Nat} {state : State}
  {visible : Bool} {log log' : List Log.Event}

/-- Both machines take one step and log nothing. -/
theorem Meets.lockstep {c c' d d' : Machine} (hs : c.step m = .go d) (hs' : c'.step m' = .go d')
    (hlog : d.store.log = c.store.log) (hlog' : d'.store.log = c'.store.log)
    (h : Alongside d d') : Meets m m' c c' :=
  .onward (.quiet hs hs' (.refl d') hlog hlog') h

theorem Meets.trapped {c c' : Machine} (t : Trap) (hs : c.step m = c.trap t)
    (hs' : c'.step m' = c'.trap t) : Meets m m' c c' := .stopped hs hs'

theorem meets_eval (e : Expr) (h : ValueStacks S S') :
    Meets m m' ⟨.eval e, S, slots, depth, state, visible, log⟩
      ⟨.eval e, S', slots, depth, state, visible, log'⟩ := by
  cases e with
  | const | slot | global | memorySize => exact .lockstep rfl rfl rfl rfl (.value h)
  | load8 | load64 | grow | call | binary =>
    exact .lockstep rfl rfl rfl rfl (.eval (.operand rfl h))

theorem meets_load {p : Pending} {v : UInt64} (width : Nat) (h : ValueStacks S S')
    (hp : ∀ (n : Module) (c : Machine) (stack : List Pending),
      c.valueStep n v stack p = c.load stack v width) :
    Meets m m' ⟨.value v, p :: S, slots, depth, state, visible, log⟩
      ⟨.value v, p :: S', slots, depth, state, visible, log'⟩ := by
  cases hr : state.memory.read? (address v) width with
  | none =>
    exact .trapped .outOfBounds (by simp [step, hp, load, hr]) (by simp [step, hp, load, hr])
  | some bytes =>
    have hs : ∀ (n : Module) (S : List Pending) (log : List Log.Event),
        step n ⟨.value v, p :: S, slots, depth, state, visible, log⟩ =
          .go ⟨.value (UInt64.ofNat (LittleEndian.decode bytes)), S, slots, depth, state, visible,
            log⟩ := fun n S log => by simp [step, hp, load, hr]
    exact .lockstep (hs ..) (hs ..) rfl rfl (.value h)

theorem meets_operand (hm : m.Silenced m') {p : Pending} {v : UInt64} (hp : p.isOperand = true)
    (h : ValueStacks S S') :
    Meets m m' ⟨.value v, p :: S, slots, depth, state, visible, log⟩
      ⟨.value v, p :: S', slots, depth, state, visible, log'⟩ := by
  cases p with
  | left op e => exact .lockstep rfl rfl rfl rfl (.eval (.operand rfl h))
  | right op a =>
    cases ha : op.apply a v with
    | error t =>
      exact .trapped t (by simp [step, valueStep, ha]) (by simp [step, valueStep, ha])
    | ok w =>
      have hs : ∀ (n : Module) (S : List Pending) (log : List Log.Event),
          step n ⟨.value v, .right op a :: S, slots, depth, state, visible, log⟩ =
            .go ⟨.value w, S, slots, depth, state, visible, log⟩ :=
        fun n S log => by simp [step, valueStep, ha]
      exact .lockstep (hs ..) (hs ..) rfl rfl (.value h)
  | load8 => exact meets_load 1 h fun _ _ _ => rfl
  | load64 => exact meets_load 8 h fun _ _ _ => rfl
  | grow =>
    cases hg : state.memory.grow? (address v) with
    | none =>
      have hs : ∀ (n : Module) (S : List Pending) (log : List Log.Event),
          step n ⟨.value v, .grow :: S, slots, depth, state, visible, log⟩ =
            .go ⟨.value minusOne, S, slots, depth, state, visible, log⟩ :=
        fun n S log => by simp [step, valueStep, growMemory, hg]
      exact .lockstep (hs ..) (hs ..) rfl rfl (.value h)
    | some grown =>
      have hs : ∀ (n : Module) (S : List Pending) (log : List Log.Event),
          step n ⟨.value v, .grow :: S, slots, depth, state, visible, log⟩ =
            .go ⟨.value (UInt64.ofNat state.memory.pages), S, slots, depth,
              { state with memory := grown }, visible, log⟩ :=
        fun n S log => by simp [step, valueStep, growMemory, hg]
      exact .lockstep (hs ..) (hs ..) rfl rfl (.value h)
  | argument i =>
    obtain ⟨hi, hi'⟩ | ⟨f, f', hi, hi', hf⟩ := hm.get? i
    · exact .trapped .unreachable (by simp [step, valueStep, enter, hi])
        (by simp [step, valueStep, enter, hi'])
    · by_cases hd : maxDepth ≤ depth
      · exact .trapped .stackExhausted (by simp [step, valueStep, enter, hi, hd])
          (by simp [step, valueStep, enter, hi', hd])
      · have hs : ∀ {n : Module} {g : Func} (S : List Pending) (log : List Log.Event),
            n.funcs[i]? = some g →
            step n ⟨.value v, .argument i :: S, slots, depth, state, visible, log⟩ =
              .go ⟨.run g.body, .caller slots :: S, v :: List.replicate g.locals 0, depth + 1,
                state, visible, log⟩ :=
          fun S log hg => by simp [step, valueStep, enter, hg, hd]
        have hs' := hs S' log' hi'
        rw [hf.locals] at hs'
        exact .lockstep (hs S log hi) hs' rfl rfl (.run hf.body (.caller slots h))
  | _ => cases hp

theorem meets_simple {p : Pending} {v : UInt64} (hp : p.isSimple = true) (h : BlockStacks S S') :
    Meets m m' ⟨.value v, p :: S, slots, depth, state, visible, log⟩
      ⟨.value v, p :: S', slots, depth, state, visible, log'⟩ := by
  cases p with
  | result => exact .lockstep rfl rfl rfl rfl (.leave h)
  | logStart | storeAddress => exact .lockstep rfl rfl rfl rfl (.eval (.simple rfl h))
  | logLength p =>
    exact .onward (.kept ⟨p, v, S, rfl, rfl, rfl⟩ ⟨p, v, S', rfl, rfl, rfl⟩ rfl rfl rfl rfl)
      (.run .nil h)
  | abort => exact .stopped rfl rfl
  | storeValue wide a =>
    cases hw : state.memory.write? (address a) (LittleEndian.encode (if wide then 8 else 1) v.toNat) with
    | none =>
      exact .trapped .outOfBounds (by simp [step, valueStep, save, hw])
        (by simp [step, valueStep, save, hw])
    | some written =>
      have hs : ∀ (n : Module) (S : List Pending) (log : List Log.Event),
          step n ⟨.value v, .storeValue wide a :: S, slots, depth, state, visible, log⟩ =
            .go ⟨.run [], S, slots, depth, { state with memory := written }, visible, log⟩ :=
        fun n S log => by simp [step, valueStep, save, hw]
      exact .lockstep (hs ..) (hs ..) rfl rfl (.run .nil h)
  | assign | setGlobal | drop => exact .lockstep rfl rfl rfl rfl (.run .nil h)
  | _ => cases hp

theorem meets_value (hm : m.Silenced m') (v : UInt64) (h : ValueStacks S S') :
    Meets m m' ⟨.value v, S, slots, depth, state, visible, log⟩
      ⟨.value v, S', slots, depth, state, visible, log'⟩ := by
  cases h with
  | nil => exact .value rfl rfl
  | operand hp h => exact meets_operand hm hp h
  | caller _ h => exact .lockstep rfl rfl rfl rfl (.value h)
  | simple hp h => exact meets_simple hp h
  | branch ht he h =>
    refine .lockstep rfl rfl rfl rfl (.run ?_ h)
    split
    · exact he
    · exact ht
  | @loop condition b b' S S' hb h =>
    by_cases hv : v = 0
    · have hs : ∀ (n : Module) (b : List Stmt) (S : List Pending) (log : List Log.Event),
          step n ⟨.value v, .loop condition b :: S, slots, depth, state, visible, log⟩ =
            .go ⟨.run [], S, slots, depth, state, visible, log⟩ :=
        fun n b S log => by simp [step, valueStep, hv]
      exact .lockstep (hs ..) (hs ..) rfl rfl (.run .nil h)
    · have hs : ∀ (n : Module) (b : List Stmt) (S : List Pending) (log : List Log.Event),
          step n ⟨.value v, .loop condition b :: S, slots, depth, state, visible, log⟩ =
            .go ⟨.run b, .block [.loop condition b] :: S, slots, depth, state, visible, log⟩ :=
        fun n b S log => by simp [step, valueStep, hv]
      exact .lockstep (hs ..) (hs ..) rfl rfl (.run hb (.block (.loop condition hb .nil) h))
  | silencedStart length hb h =>
    -- The second machine drops the start, leaves its statement and begins the next one.
    exact .onward (.quiet rfl rfl (.head rfl (.head rfl (.refl _))) rfl rfl)
      (.eval (.silencedLength v (.block hb h)))
  | @silencedLength start S S' h =>
    exact .onward (.silenced ⟨start, v, S, rfl, rfl, rfl⟩ rfl ⟨rfl, S', rfl⟩ rfl rfl rfl rfl)
      (.run .nil h)

theorem meets_run {b b' : List Stmt} (hb : Silenced b b') (h : BlockStacks S S') :
    Meets m m' ⟨.run b, S, slots, depth, state, visible, log⟩
      ⟨.run b', S', slots, depth, state, visible, log'⟩ := by
  cases hb with
  | nil =>
    cases h with
    | nil => exact .lockstep rfl rfl rfl rfl (.leave .nil)
    | caller slots h => exact .lockstep rfl rfl rfl rfl (.leave (.caller slots h))
    | block hb h => exact .lockstep rfl rfl rfl rfl (.run hb h)
  | silence start length hrest =>
    exact .lockstep rfl rfl rfl rfl (.eval (.silencedStart length hrest h))
  | @keep s _ _ hs hrest =>
    cases s with
    | result => exact .lockstep rfl rfl rfl rfl (.eval (.simple rfl h))
    | trap => exact .stopped rfl rfl
    | branch | loop => cases hs
    | log | abort | store8 | store64 | assign | setGlobal | eval =>
      exact .lockstep rfl rfl rfl rfl (.eval (.simple rfl (.block hrest h)))
  | branch _ ht he hrest =>
    exact .lockstep rfl rfl rfl rfl (.eval (.branch ht he (.block hrest h)))
  | loop condition hbody hrest =>
    exact .lockstep rfl rfl rfl rfl (.eval (.loop condition hbody (.block hrest h)))

theorem meets_leave (v : UInt64) (h : BlockStacks S S') :
    Meets m m' ⟨.leave v, S, slots, depth, state, visible, log⟩
      ⟨.leave v, S', slots, depth, state, visible, log'⟩ := by
  cases h with
  | nil => exact .value rfl rfl
  | caller slots h => exact .lockstep rfl rfl rfl rfl (.value h)
  | block hb h => exact .lockstep rfl rfl rfl rfl (.leave h)

end Steps

variable {m m' : Module} {c c' d d' : Machine}

theorem Alongside.step (hm : m.Silenced m') (h : Alongside c c') : Meets m m' c c' := by
  cases h with
  | eval h => exact meets_eval _ h
  | value h => exact meets_value hm _ h
  | run hb h => exact meets_run hb h
  | leave h => exact meets_leave _ h

theorem Alongside.state (h : Alongside c c') : c'.store.toState = c.store.toState := by
  cases h <;> rfl

theorem alongside_machine {f f' : Func} (hf : f.Silenced f') (arguments : List UInt64)
    (state : State) (visible : Bool) (log log' : List Log.Event) :
    Alongside (f.machine arguments ⟨state, visible, log⟩)
      (f'.machine arguments ⟨state, visible, log'⟩) := by
  rw [Func.machine, Func.machine, hf.locals]
  exact .run hf.body .nil

end Machine
end DeployTrigger.Guest
