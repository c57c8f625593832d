import DeployTrigger.Json.Value

/-!
Readers for one kind of value against the reader for all of them. `Answers` says how a reader ends at a
place: with a value, with a complaint that the document holds something else, or by breaking down. Where
some value can be read (`Token`), a reader that wants another kind of value complains
(`reject_answers`), and a reader of values ends on a whole document as it does on the value in it
(`document_tells`).
-/
namespace DeployTrigger.Json
variable {α β : Type}

/-- How reading ends, the wording of complaints apart. -/
def Tells (result : Except (Fault Error) α) : Except (Fault Unit) α → Prop
  | .ok a => result = .ok a
  | .error (.error ()) => ∃ message p, result = .error (.error ⟨.mismatch message, p⟩)
  | .error .breakdown => result = .error .breakdown

theorem Tells.of_eq {result result' : Except (Fault Error) α} {x : Except (Fault Unit) α}
    (h : Tells result x) (heq : result' = result) : Tells result' x := heq ▸ h

theorem Tells.eq_ok_iff {result : Except (Fault Error) α} {x : Except (Fault Unit) α} {a : α}
    (h : Tells result x) : result = .ok a ↔ x = .ok a := by
  cases x with
  | ok a' => simp [show result = .ok a' from h]
  | error e =>
    cases e with
    | error u =>
      obtain ⟨message, p, hresult⟩ := h
      simp [hresult]
    | breakdown => simp [show result = .error .breakdown from h]

/-- How a reader ends at `c`. A value leaves the rest of the document at `c'`. -/
def Answers (r : Reader α) (c : Cursor) (x : Except (Fault Unit) α) (c' : Cursor) : Prop :=
  Tells (r.run c) (x.map fun a => (a, c'))

namespace Answers
variable {r : Reader α} {f : α → Reader β} {c m c' : Cursor}

theorem ok_bind {a : α} {y : Except (Fault Unit) β} (h : r.run c = .ok (a, m))
    (hf : Answers (f a) m y c') : Answers (r >>= f) c y c' := by
  apply hf.of_eq
  rw [StateT.run_bind, h]
  rfl

/-- A reader that ends without a value leaves nothing to the readers behind it. -/
theorem error_bind {e : Fault Unit} (h : Answers r c (.error e) m) :
    Answers (r >>= f) c (.error e) c' := by
  cases e with
  | error u =>
    obtain ⟨message, p, hp⟩ := h
    refine ⟨message, p, ?_⟩
    rw [StateT.run_bind, hp]
    rfl
  | breakdown =>
    change (r >>= f).run c = .error .breakdown
    rw [StateT.run_bind, show r.run c = .error .breakdown from h]
    rfl

theorem bind {x : Except (Fault Unit) α} {y : α → Except (Fault Unit) β} (h : Answers r c x m)
    (hf : ∀ a, x = .ok a → Answers (f a) m (y a) c') : Answers (r >>= f) c (x >>= y) c' := by
  cases x with
  | ok a => exact ok_bind h (hf a rfl)
  | error e => exact error_bind h

theorem tells {x : Except (Fault Unit) α} (h : Answers r c x c') :
    Tells (r.run c >>= fun result => pure result.1) x := by
  cases x with
  | ok a =>
    have hrun : r.run c = .ok (a, c') := h
    rw [hrun]
    rfl
  | error e =>
    cases e with
    | error u =>
      obtain ⟨message, p, hp⟩ := h
      exact ⟨message, p, by rw [hp]; rfl⟩
    | breakdown =>
      have hrun : r.run c = .error .breakdown := h
      rw [hrun]
      rfl

theorem mismatch (message : String) (c c' : Cursor) :
    Answers (Reader.fail (.mismatch message) : Reader α) c (.error (.error ())) c' :=
  ⟨message, c.position, rfl⟩

end Answers

namespace Reader
variable {r : Reader α} {c c' : Cursor} {b : β}

theorem run_bind_ok {f : α → Reader β} (h : (r >>= f).run c = .ok (b, c')) :
    ∃ a m, r.run c = .ok (a, m) ∧ (f a).run m = .ok (b, c') := by
  rw [StateT.run_bind] at h
  cases hr : r.run c with
  | error e =>
    rw [hr] at h
    cases h
  | ok x =>
    rw [hr] at h
    exact ⟨x.1, x.2, rfl, h⟩

theorem run_map_ok {f : α → β} (h : (f <$> r).run c = .ok (b, c')) :
    ∃ a, r.run c = .ok (a, c') ∧ f a = b := by
  rw [StateT.run_map] at h
  cases hr : r.run c with
  | error e =>
    rw [hr] at h
    cases h
  | ok x =>
    rw [hr] at h
    cases h
    exact ⟨x.1, rfl, rfl⟩

theorem run_peekToken (c : Cursor) :
    peekToken.run c = .ok (c.skipBlanks.rest.head?, c.skipBlanks) := rfl

end Reader

namespace Cursor

theorem skipBlanksFrom_skipBlanksFrom (p : Position) (cs : List Char) :
    skipBlanksFrom (skipBlanksFrom p cs).position (skipBlanksFrom p cs).rest =
      skipBlanksFrom p cs := by
  induction cs generalizing p with
  | nil => rfl
  | cons c rest ih =>
    by_cases h : isBlank c = true
    · simp only [skipBlanksFrom, if_pos h]
      exact ih _
    · simp [skipBlanksFrom, h]

theorem skipBlanks_skipBlanks (c : Cursor) : c.skipBlanks.skipBlanks = c.skipBlanks :=
  skipBlanksFrom_skipBlanksFrom c.position c.rest

end Cursor

section Values
variable {array object array' object' : Reader Value} {c c' : Cursor} {x : Char} {v : Value}
variable {depth : Nat}

/-- The reader for all kinds of values behind its look at the first character. -/
def Reader.valueFrom (array object : Reader Value) (x : Char) : Reader Value :=
  if x = 'n' then do
    advance
    word ['u', 'l', 'l']
    pure .null
  else if x = 't' then do
    advance
    word ['r', 'u', 'e']
    pure (.bool true)
  else if x = 'f' then do
    advance
    word ['a', 'l', 's', 'e']
    pure (.bool false)
  else if x = '"' then do
    pure (.text (← text))
  else if x = '[' then array
  else if x = '\x7b' then object
  else if x = '-' || Char.isDigit x then do
    pure (.number (← number))
  else failAhead .expectedValue

theorem Reader.run_valueWith (h : c.skipBlanks.rest.head? = some x) :
    (valueWith array object).run c = (valueFrom array object x).run c.skipBlanks := by
  rw [valueWith, StateT.run_bind, run_peekToken, h]
  rfl

theorem Reader.head_of_valueWith (h : (valueWith array object).run c = .ok (v, c')) :
    ∃ x, c.skipBlanks.rest.head? = some x := by
  cases hx : c.skipBlanks.rest.head? with
  | some x => exact ⟨x, rfl⟩
  | none =>
    rw [valueWith, StateT.run_bind, run_peekToken, hx] at h
    cases h

theorem Reader.valueFrom_congr (harray : x ≠ '[') (hobject : x ≠ '\x7b') :
    valueFrom array object x = valueFrom array' object' x := by
  simp only [valueFrom, if_neg harray, if_neg hobject]

/-- A value by its first character. -/
inductive Token (depth : Nat) (c : Cursor) : Char → Value → Cursor → Prop where
  | null {m c' : Cursor} (hadvance : Reader.advance.run c = .ok ((), m))
      (hword : (Reader.word ['u', 'l', 'l']).run m = .ok ((), c')) : Token depth c 'n' .null c'
  | text {s : String} {c' : Cursor} (h : Reader.text.run c = .ok (s, c')) :
      Token depth c '"' (.text s) c'
  | array (items : List Value) (c' : Cursor) : Token depth c '[' (.array items) c'
  | object {below : Nat} {members : List (String × Value)} {c' : Cursor} (hdepth : depth = below + 1)
      (h : (Reader.objectOf (Reader.value below)).run c = .ok (.object members, c')) :
      Token depth c '\x7b' (.object members) c'
  | scalar {x : Char} {v : Value} (c' : Cursor) (hnull : x ≠ 'n') (htext : x ≠ '"')
      (hv : (∃ b, v = .bool b) ∨ ∃ n, v = .number n) : Token depth c x v c'

theorem Reader.token_of_valueFrom
    (harray : ∀ {v}, array.run c = .ok (v, c') → Token depth c '[' v c')
    (hobject : ∀ {v}, object.run c = .ok (v, c') → Token depth c '\x7b' v c')
    (h : (valueFrom array object x).run c = .ok (v, c')) : Token depth c x v c' := by
  unfold valueFrom at h
  split at h
  · rename_i hx
    obtain ⟨_, m, hadvance, h⟩ := run_bind_ok h
    obtain ⟨_, m', hword, h⟩ := run_bind_ok h
    cases h
    subst hx
    exact .null hadvance hword
  rename_i hnull
  split at h
  · rename_i hx
    obtain ⟨_, m, _, h⟩ := run_bind_ok h
    obtain ⟨_, m', _, h⟩ := run_bind_ok h
    cases h
    exact .scalar _ hnull (by simp [hx]) (.inl ⟨true, rfl⟩)
  split at h
  · rename_i hx
    obtain ⟨_, m, _, h⟩ := run_bind_ok h
    obtain ⟨_, m', _, h⟩ := run_bind_ok h
    cases h
    exact .scalar _ hnull (by simp [hx]) (.inl ⟨false, rfl⟩)
  split at h
  · rename_i hx
    obtain ⟨s, m, hs, h⟩ := run_bind_ok h
    cases h
    subst hx
    exact .text hs
  rename_i htext
  split at h
  · rename_i hx
    subst hx
    exact harray h
  split at h
  · rename_i hx
    subst hx
    exact hobject h
  split at h
  · obtain ⟨n, m, _, h⟩ := run_bind_ok h
    cases h
    exact .scalar _ hnull htext (.inr ⟨n, rfl⟩)
  · cases h

theorem Reader.token_of_value (h : (value depth).run c = .ok (v, c')) :
    ∃ x, c.skipBlanks.rest.head? = some x ∧ Token depth c.skipBlanks x v c' := by
  cases depth with
  | zero =>
    rw [value] at h
    obtain ⟨x, hx⟩ := head_of_valueWith h
    rw [run_valueWith hx] at h
    exact ⟨x, hx, token_of_valueFrom (fun h => by cases h) (fun h => by cases h) h⟩
  | succ depth =>
    rw [value] at h
    obtain ⟨x, hx⟩ := head_of_valueWith h
    rw [run_valueWith hx] at h
    refine ⟨x, hx, token_of_valueFrom (fun h => ?_) (fun h => ?_) h⟩
    · obtain ⟨_, _, _, h⟩ := run_bind_ok h
      obtain ⟨_, _, _, h⟩ := run_bind_ok h
      obtain ⟨_, _, _, h⟩ := run_bind_ok h
      obtain ⟨_, _, _, h⟩ := run_bind_ok h
      cases h
      exact .array _ _
    · have hobject := h
      obtain ⟨_, _, _, h⟩ := run_bind_ok h
      obtain ⟨_, _, _, h⟩ := run_bind_ok h
      obtain ⟨_, _, _, h⟩ := run_bind_ok h
      obtain ⟨_, _, _, h⟩ := run_bind_ok h
      cases h
      exact .object rfl hobject

/-- Scalars are read before they are rejected, brackets are rejected at once. -/
theorem reject_answers (h : (Reader.value depth).run c = .ok (v, c')) (expected : String)
    (c'' : Cursor) :
    Answers (Reader.reject expected : Reader α) c.skipBlanks (.error (.error ())) c'' := by
  obtain ⟨array, object, hvalue⟩ : ∃ array object,
      Reader.value depth = Reader.valueWith array object := by
    cases depth <;> exact ⟨_, _, by rw [Reader.value]⟩
  rw [hvalue] at h
  obtain ⟨x, hx⟩ := Reader.head_of_valueWith h
  rw [Reader.run_valueWith hx] at h
  have hrun {array object : Reader Value} :
      (Reader.valueWith array object).run c.skipBlanks =
        (Reader.valueFrom array object x).run c.skipBlanks := by
    have hagain := Cursor.skipBlanks_skipBlanks c
    rw [Reader.run_valueWith (by rwa [hagain]), hagain]
  unfold Reader.reject
  by_cases harray : x = '['
  · subst harray
    exact Answers.error_bind (m := c'') ⟨_, _, hrun⟩
  by_cases hobject : x = '\x7b'
  · subst hobject
    exact Answers.error_bind (m := c'') ⟨_, _, hrun⟩
  rw [Reader.valueFrom_congr harray hobject] at h
  exact Answers.ok_bind (hrun.trans h) (Answers.mismatch _ _ _)

/-- A document that holds a value, in so far as its brackets and numbers are in range. -/
def Holds (s : String) (v : Value) : Prop :=
  Reader.document (Reader.value (maxDepth + 1)) s = .ok v

theorem document_tells {r : Reader α} {s : String} {x : Except (Fault Unit) α} (h : Holds s v)
    (hr : ∀ {c c'}, (Reader.value (maxDepth + 1)).run c = .ok (v, c') → Answers r c x c') :
    Tells (Reader.document r s) x := by
  unfold Holds Reader.document at h
  cases hall : (do let a ← Reader.value (maxDepth + 1); Reader.ended; pure a : Reader Value).run
      (.ofText s) with
  | error e =>
    rw [hall] at h
    cases h
  | ok result =>
    obtain ⟨a, c'⟩ := result
    rw [hall] at h
    cases h
    obtain ⟨_, m, hvalue, hrest⟩ := Reader.run_bind_ok hall
    obtain ⟨_, m', hended, hpure⟩ := Reader.run_bind_ok hrest
    cases hpure
    have hanswers : Answers (do let a ← r; Reader.ended; pure a) (.ofText s) (x >>= pure) c' :=
      Answers.bind (hr hvalue) fun a _ => Answers.ok_bind hended rfl
    rw [bind_pure] at hanswers
    exact hanswers.tells

end Values

end DeployTrigger.Json
