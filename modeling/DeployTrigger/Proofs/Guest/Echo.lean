import DeployTrigger.Proofs.Guest.Beside
import DeployTrigger.Proofs.Guest.Delivery
import DeployTrigger.Proofs.Program.Refinement

/-!
Entrypoints that give their argument back: they leave it in memory, least significant byte first, and
return where it is. The address is then the timestamp in eight bytes, for the call, for the deployer
and for a run of the trigger (`timestamp_comes_back`).
-/
namespace DeployTrigger
open Deploy Guest Machine

/-- The address is the timestamp in eight bytes. -/
structure Address.Encodes (a : Address) (t : Timestamp) : Prop where
  length : a.bytes.length = 8
  value : LittleEndian.decode a.bytes = t.millis.toNat

theorem Address.Encodes.encode (t : Timestamp) :
    (⟨LittleEndian.encode 8 t.millis.toNat⟩ : Address).Encodes t where
  length := LittleEndian.length_encode 8 _
  value := (LittleEndian.decode_encode 8 _).trans (Nat.mod_eq_of_lt t.millis.toNat_lt)

theorem Address.Encodes.injective {a : Address} {t t' : Timestamp} (h : a.Encodes t)
    (h' : a.Encodes t') : t = t' :=
  congrArg Timestamp.mk (UInt64.toNat_inj.mp (h.value.symm.trans h'.value))

namespace Guest
namespace Memory
variable {m m' : Memory} {a start : Nat} {bs : Bytes}

end Memory

namespace Machine
variable {m : Module} {p : UInt32} {rest : List Stmt} {stack : List Pending} {slots : List UInt64}
  {depth : Nat} {store : Store} {v w : UInt64}

/-- The expression gives the value and changes nothing, whatever waits for it. -/
def Computes (m : Module) (slots : List UInt64) (depth : Nat) (store : Store) (e : Expr)
    (v : UInt64) : Prop :=
  ∀ stack, Leads m ⟨.eval e, stack, slots, depth, store⟩ ⟨.value v, stack, slots, depth, store⟩

theorem Computes.binary {op : BinaryOp} {x y : Expr} {a b : UInt64}
    (hx : Computes m slots depth store x a) (hy : Computes m slots depth store y b)
    (hop : op.apply a b = .ok v) : Computes m slots depth store (.binary op x y) v := by
  intro stack
  have hlast : step m ⟨.value b, .right op a :: stack, slots, depth, store⟩ =
      .go ⟨.value v, stack, slots, depth, store⟩ := by
    simp only [step, valueStep, hop]
  exact .head rfl ((hx _).trans (.head rfl ((hy _).trans (.head hlast (.refl _)))))

end Machine

namespace Sandbox
variable {s : Sandbox} {name : String} {p : UInt32} {t : Timestamp}

/-- Called with any word, the function returns where it left it, the lowest byte at `p`. -/
def Entry.Echoes (x : s.Entry name .wordToWord) (p : UInt32) : Prop :=
  ∀ w, ∃ after, Ends s.module (x.machine [w]) (.value (Kit.pack p.toUInt64 8)) after ∧
    after.memory.Holds p.toNat (LittleEndian.encode 8 w.toNat)

/-- The argument comes out of the call as it went in. -/
theorem Entry.Echoes.settles_invoking {x : s.Entry name .wordToWord} (h : x.Echoes p)
    (hlimit : 8 ≤ s.limits.maxAddressLen.toNat) (t : Timestamp) :
    ∃ events, Settles (s.invoking name t) (.ok ⟨LittleEndian.encode 8 t.millis.toNat⟩) events := by
  obtain ⟨after, hends, hleft⟩ := h t.millis
  have hlength := LittleEndian.length_encode 8 t.millis.toNat
  have hpack : Kit.pack p.toUInt64 8 =
      Kit.packBytes p.toUInt64 (LittleEndian.encode 8 t.millis.toNat) := by
    rw [Kit.packBytes, hlength]
    rfl
  rw [hpack] at hends
  exact ⟨_, x.settles_invoking_of_left hends hleft (by rw [hlength]; decide)
    (by rw [hlength]; decide) (by rwa [hlength])⟩

/-- A deployer does what the call does, and says so before. -/
theorem settles_deploy {r : Except DeployError Address} {events : List Log.Event}
    (h : Settles (s.invoking name t) r events) :
    Settles (fun n => ((⟨s, name⟩ : ModuleDeployer).within n).deploy t) r
      (ModuleDeployer.callingEvent name t :: events) :=
  (settles_emit (ModuleDeployer.callingEvent name t)).bind h

/-- What the timestamp is behind a call, a deployment and a run. -/
structure EchoLaw (s : Sandbox) (name : String) : Prop where
  deployed (t : Timestamp) : ∃ a events, a.Encodes t ∧ Settles (s.invoking name t) (.ok a) events ∧
    Settles (fun n => ((⟨s, name⟩ : ModuleDeployer).within n).deploy t) (.ok a)
      (ModuleDeployer.callingEvent name t :: events)
  apart {t t' : Timestamp} {a : Address} {events events' : List Log.Event}
    (h : Settles (s.invoking name t) (.ok a) events)
    (h' : Settles (s.invoking name t') (.ok a) events') : t = t'
  reported {clock : Clock} {time : Timestamp} (h : Timestamp.ofInstant clock.read.1 = .ok time) :
    ∃ a n, a.Encodes time ∧ WordNumeral.read (decimal time.millis.toNat) = .ok time.millis ∧
      ∀ (steps : Nat) (timeout : Option Duration) (delays : Supply (Option Duration)) (sink : Sink),
        n ≤ steps → sink.Unfailing →
        let trigger : Trigger (Supply (Option Duration)) :=
          ⟨((⟨s, name⟩ : ModuleDeployer).within steps).toDeployer, timeout⟩
        trigger.calls clock delays sink = [time] ∧
        -- A call that takes too long is not waited for.
        (Attempt.Meets timeout delays.next.1 →
          (trigger.run clock delays sink).result = some (.ok a) ∧
          ∃ report, (trigger.run clock delays sink).sink.written = sink.written ++ report ∧
            Lines report ["Deploying with timestamp:", decimal time.millis.toNat,
              "contract address: " ++ a.shown])

theorem Entry.Echoes.law {x : s.Entry name .wordToWord} (h : x.Echoes p)
    (hlimit : 8 ≤ s.limits.maxAddressLen.toNat) : EchoLaw s name where
  deployed t := by
    obtain ⟨events, hsettles⟩ := h.settles_invoking hlimit t
    exact ⟨_, events, .encode t, hsettles, settles_deploy hsettles⟩
  apart {t t' a _ _} ha ha' := by
    obtain ⟨_, hsettles⟩ := h.settles_invoking hlimit t
    obtain ⟨_, hsettles'⟩ := h.settles_invoking hlimit t'
    have heq : a = ⟨LittleEndian.encode 8 t.millis.toNat⟩ := Except.ok.inj (ha.unique hsettles).1
    have heq' : a = ⟨LittleEndian.encode 8 t'.millis.toNat⟩ := Except.ok.inj (ha'.unique hsettles').1
    have hencodes : a.Encodes t := heq ▸ .encode t
    have hencodes' : a.Encodes t' := heq' ▸ .encode t'
    exact hencodes.injective hencodes'
  reported {clock time} htime := by
    obtain ⟨events, n, hn⟩ := h.settles_invoking hlimit time
    refine ⟨_, n, .encode time, WordNumeral.read_decimal _, ?_⟩
    intro steps timeout delays sink hle hsink trigger
    refine ⟨Trigger.calls_of_headerOut htime (Trigger.headerOut_of_unfailing hsink), fun hmeets => ?_⟩
    have hgives := congrArg Log.Logged.value (hn steps hle)
    have hresult : (trigger.run clock delays sink).result = some (.ok _) :=
      Trigger.result_of_resolves hsink htime (ModuleDeployer.resolves_iff.mpr ⟨hgives, hmeets⟩)
    exact ⟨hresult, _, Trigger.written_run_of_ok hsink htime hresult,
      Trigger.lines_header_addressLine time _⟩

end Sandbox
end Guest
end DeployTrigger
