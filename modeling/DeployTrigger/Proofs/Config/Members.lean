import DeployTrigger.Config.Document
import DeployTrigger.Proofs.Json.Answers

/-!
The settings that the members of an object stand for. Where any member can be read, the reader of the
settings reads the same one (`readMembers_answers`), so what becomes of a document that holds an object is
settled by the members of the object (`ofDocument_tells`).
-/
namespace DeployTrigger
open Json Reader

/-- There is no further key in front of a closing brace only. -/
theorem Json.Reader.run_nextKey_none {first : Bool} {c c' : Cursor}
    (h : (nextKey first).run c = .ok (none, c')) :
    c' = c.skipBlanks ∧ c'.rest.head? = some '\x7d' := by
  obtain ⟨token, m, htoken, h⟩ := run_bind_ok h
  cases htoken
  cases hx : c.skipBlanks.rest.head? with
  | none =>
    rw [hx] at h
    cases h
  | some x =>
    rw [hx] at h
    dsimp only at h
    split at h
    · rename_i hbrace
      cases h
      exact ⟨rfl, by rw [hx, hbrace]⟩
    rename_i hbrace
    split at h
    · obtain ⟨y, m, hpeek, h⟩ := run_bind_ok h
      cases hpeek
      rw [hx] at h
      dsimp only at h
      rw [if_neg hbrace] at h
      split at h
      · obtain ⟨s, -, hs⟩ := run_map_ok h
        cases hs
      · cases h
    split at h
    · obtain ⟨_, m, _, h⟩ := run_bind_ok h
      obtain ⟨_, m', _, h⟩ := run_bind_ok h
      obtain ⟨y, m'', hpeek, h⟩ := run_bind_ok h
      split at h
      · cases h
      split at h
      · obtain ⟨s, -, hs⟩ := run_map_ok h
        cases hs
      split at h
      · cases h
      · cases h
    · cases h

namespace Config

/-- A text of no duration is refused, or it breaks the reader down. -/
def faultOf : Duration.ReadError → Fault Unit
  | .refused => .error ()
  | .overrun => .breakdown

def entrypointOf : Value → Except (Fault Unit) String
  | .text s => .ok s
  | _ => .error (.error ())

def timeoutOf : Value → Except (Fault Unit) (Option Duration)
  | .null => .ok none
  | .text s => ((Duration.ofUnits s).map some).mapError faultOf
  | _ => .error (.error ())

section Readers
variable {depth : Nat} {c c' : Cursor} {v : Value}

theorem readEntrypoint_answers (h : (value depth).run c = .ok (v, c')) :
    Answers readEntrypoint c (entrypointOf v) c' := by
  obtain ⟨x, hx, htoken⟩ := token_of_value h
  have hreject := reject_answers (α := String) h "a string" c'
  apply Answers.ok_bind (run_peekToken c)
  rw [hx]
  cases htoken with
  | null _ _ => exact hreject
  | text hs => exact hs
  | array _ _ => exact hreject
  | object _ _ => exact hreject
  | scalar _ _ htext hv =>
    dsimp only
    rw [if_neg htext]
    obtain ⟨b, rfl⟩ | ⟨n, rfl⟩ := hv
    · exact hreject
    · exact hreject

theorem readTimeout_answers (h : (value depth).run c = .ok (v, c')) :
    Answers readTimeout c (timeoutOf v) c' := by
  obtain ⟨x, hx, htoken⟩ := token_of_value h
  have hreject := reject_answers (α := Option Duration) h "a duration" c'
  apply Answers.ok_bind (run_peekToken c)
  rw [hx]
  cases htoken with
  | null hadvance hword => exact Answers.ok_bind hadvance (Answers.ok_bind hword rfl)
  | @text s _ hs =>
    apply Answers.ok_bind hs
    rw [timeoutOf]
    cases Duration.ofUnits s with
    | ok d => exact rfl
    | error e =>
      cases e with
      | refused => exact Answers.mismatch _ _ _
      | overrun => exact rfl
  | array _ _ => exact hreject
  | object _ _ => exact hreject
  | scalar _ hnull htext hv =>
    dsimp only
    rw [if_neg hnull, if_neg htext]
    obtain ⟨b, rfl⟩ | ⟨n, rfl⟩ := hv
    · exact hreject
    · exact hreject

end Readers

section Limits
variable {address schemas : Option UInt64} {ms : List (String × Value)} {flaw : Flaw}

theorem mismatch_of_limitOf {v : Value} (h : limitOf v = .error flaw) :
    ∃ message, flaw = .mismatch message := by
  unfold limitOf at h
  split at h
  · cases h
  · cases h
    exact ⟨_, rfl⟩
  · cases h
    exact ⟨_, rfl⟩

theorem mismatch_of_limitsFrom (h : limitsFrom address schemas ms = .error flaw) :
    ∃ message, flaw = .mismatch message := by
  induction ms generalizing address schemas with
  | nil => cases h
  | cons member ms ih =>
    obtain ⟨key, v⟩ := member
    rw [limitsFrom] at h
    split at h
    · split at h
      · cases h
        exact ⟨_, rfl⟩
      split at h
      · exact ih h
      · rename_i e hlimit
        cases h
        exact mismatch_of_limitOf hlimit
    split at h
    · split at h
      · cases h
        exact ⟨_, rfl⟩
      split at h
      · exact ih h
      · rename_i e hlimit
        cases h
        exact mismatch_of_limitOf hlimit
    · exact ih h

theorem mismatch_of_ofMembers {m : Members} (h : ofMembers m = .error flaw) :
    ∃ message, flaw = .mismatch message := by
  unfold ofMembers at h
  split at h
  · cases h
  · rename_i e hlimits
    cases h
    exact mismatch_of_limitsFrom hlimits

end Limits

namespace Members

/-- The members read so far and one more. -/
def take (m : Members) (member : String × Value) : Except (Fault Unit) Members :=
  if member.1 = "entrypoint" then
    if m.entrypoint.isSome then .error (.error ())
    else (entrypointOf member.2).map fun s => { m with entrypoint := some s }
  else if member.1 = "timeout" then
    if m.timeout.isSome then .error (.error ())
    else (timeoutOf member.2).map fun d => { m with timeout := some d }
  else .ok { m with others := member :: m.others }

/-- What members come to that were read to their end. -/
def settle (m : Members) : Except (Fault Unit) Config := (ofMembers m).mapError fun _ => .error ()

end Members

/-- What members stand for, the wording of complaints apart. -/
def settingsOf (ms : List (String × Value)) : Except (Fault Unit) Config :=
  ms.foldlM Members.take ⟨none, none, []⟩ >>= Members.settle

section Document
variable {ms : List (String × Value)} {c c' : Cursor}

/-- The rest of the reader behind the members. -/
def conclude (read : Except Flaw Members) : Reader Config := do
  let brace := (← peekToken) = some '\x7d'
  if brace then advance
  match read.bind ofMembers with
  | .ok config => pure config
  | .error flaw => fail flaw

theorem conclude_answers (m : Members) (hblank : c.skipBlanks = c)
    (hbrace : c.rest.head? = some '\x7d') (hadvance : advance.run c = .ok ((), c')) :
    Answers (conclude (.ok m)) c m.settle c' := by
  have hpeek := run_peekToken c
  rw [hblank, hbrace] at hpeek
  apply Answers.ok_bind hpeek
  apply Answers.ok_bind hadvance
  change Answers (match ofMembers m with | .ok config => _ | .error flaw => _) _ _ _
  rw [Members.settle]
  cases hm : ofMembers m with
  | ok config => exact rfl
  | error flaw =>
    obtain ⟨message, rfl⟩ := mismatch_of_ofMembers hm
    exact Answers.mismatch _ _ _

/-- A complaint about the members is told wherever it came up. -/
theorem conclude_mismatch (message : String) (c c' : Cursor) :
    Answers (conclude (.error (.mismatch message))) c (.error (.error ())) c' := by
  apply Answers.ok_bind (run_peekToken c)
  dsimp only
  split
  · exact Answers.ok_bind (m := c.skipBlanks.advance) rfl (Answers.mismatch _ _ _)
  · exact Answers.mismatch _ _ _

/-- Behind its key, a member is read by its own reader and added to those before. -/
theorem readMember_answers {α : Type} {r : Reader α} {x : Except (Fault Unit) α} {f : α → Members}
    {y : Members → Except (Fault Unit) Config} {fuel : Nat} {c m m' c' : Cursor}
    (hcolon : colon.run c = .ok ((), m)) (hr : Answers r m x m')
    (hrest : ∀ a, x = .ok a → Answers (readMembers false (f a) fuel >>= conclude) m' (y (f a)) c') :
    Answers ((do colon; readMembers false (f (← r)) fuel) >>= conclude) c (x.map f >>= y) c' := by
  have hsplit : (x.map f >>= y) = x >>= fun a => y (f a) := by cases x <;> rfl
  rw [hsplit]
  simp only [bind_assoc]
  exact Answers.ok_bind hcolon (Answers.bind hr hrest)

/-- By induction on the members, of which both readers take one at a time. -/
theorem readMembers_answers {fuel : Nat} {out ms : List (String × Value)} {c m c' : Cursor}
    (h : (members (value maxDepth) out fuel).run c = .ok (ms, m))
    (hadvance : advance.run m = .ok ((), c')) :
    ∃ new, ms = out.reverse ++ new ∧ ∀ before : Members,
      Answers (readMembers out.isEmpty before fuel >>= conclude) c
        (new.foldlM Members.take before >>= Members.settle) c' := by
  induction fuel generalizing out c with
  | zero => cases h
  | succ fuel ih =>
    rw [members] at h
    obtain ⟨next, mid, hnext, h⟩ := run_bind_ok h
    cases next with
    | none =>
      cases h
      obtain ⟨rfl, hbrace⟩ := run_nextKey_none hnext
      refine ⟨[], by simp, fun before => ?_⟩
      rw [readMembers, bind_assoc]
      apply Answers.ok_bind hnext
      exact conclude_answers before (Cursor.skipBlanks_skipBlanks c) hbrace hadvance
    | some key =>
      obtain ⟨_, mid', hcolon, h⟩ := run_bind_ok h
      obtain ⟨v, mid'', hvalue, h⟩ := run_bind_ok h
      obtain ⟨new, hms, hrest⟩ := ih h
      refine ⟨(key, v) :: new, by simp [hms], fun before => ?_⟩
      have htake : before.take (key, v) = _ := Members.take.eq_def before (key, v)
      rw [readMembers, bind_assoc, List.foldlM_cons, bind_assoc, htake]
      apply Answers.ok_bind hnext
      dsimp only
      split
      · split
        · exact conclude_mismatch _ _ _
        · exact readMember_answers hcolon (readEntrypoint_answers hvalue) fun s _ => hrest _
      split
      · split
        · exact conclude_mismatch _ _ _
        · exact readMember_answers hcolon (readTimeout_answers hvalue) fun d _ => hrest _
      · simp only [bind_assoc]
        exact Answers.ok_bind hcolon (Answers.ok_bind hvalue (hrest _))

theorem reader_answers (h : (value (maxDepth + 1)).run c = .ok (.object ms, c')) :
    Answers reader c (settingsOf ms) c' := by
  obtain ⟨x, hx, htoken⟩ := token_of_value h
  apply Answers.ok_bind (run_peekToken c)
  rw [hx]
  cases htoken with
  | scalar _ _ _ hv =>
    obtain ⟨b, hv⟩ | ⟨n, hv⟩ := hv
    · cases hv
    · cases hv
  | object hdepth hobject =>
    cases hdepth
    obtain ⟨_, m, hadvance, hobject⟩ := run_bind_ok hobject
    obtain ⟨cursor, m', hget, hobject⟩ := run_bind_ok hobject
    cases hget
    obtain ⟨ms', m'', hmembers, hobject⟩ := run_bind_ok hobject
    obtain ⟨_, m', hbehind, hobject⟩ := run_bind_ok hobject
    cases hobject
    obtain ⟨new, rfl, hanswers⟩ := readMembers_answers hmembers hbehind
    apply Answers.ok_bind hadvance
    apply Answers.ok_bind (m := m) rfl
    exact hanswers _

/-- A document that holds an object tells what the members of the object stand for. -/
theorem ofDocument_tells {s : String} (h : Holds s (.object ms)) :
    Tells (ofDocument s) (settingsOf ms) := document_tells h reader_answers

end Document
end Config
end DeployTrigger
