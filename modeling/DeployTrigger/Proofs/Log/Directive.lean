import DeployTrigger.Log.Filter

/-!
Which directives break the program down. Positions are counted without the blanks in front of a
directive but looked up in the whole of it, so it takes both to cut inside of a character: a blank
in front, and a character of more than one byte (`misread_of_breakdown`).
-/
namespace DeployTrigger.Log
namespace Directive

/-- The UTF-8 form of some characters. -/
def code (cs : List Char) : Bytes := utf8 (String.ofList cs)

theorem code_append (a b : List Char) : code (a ++ b) = code a ++ code b := by
  rw [code, String.ofList_append, utf8_append]
  rfl

theorem length_code_cons (c : Char) (cs : List Char) :
    (code (c :: cs)).length = c.utf8Size + (code cs).length := length_utf8_cons c cs

/-- The position is that of a character, or of the end. -/
def Between (cs : List Char) (i : Nat) : Prop := ∃ a b, cs = a ++ b ∧ i = (code a).length

/-- Reading does not break down, and what it gives has a property. -/
def Sound {α : Type} (P : α → Prop) : Reading α → Prop
  | .ok a => P a
  | .error (.error ()) => True
  | .error .breakdown => False

namespace Sound
variable {α β : Type} {P : α → Prop} {Q : β → Prop} {x : Reading α} {f : α → Reading β}

theorem bind (hx : Sound P x) (hf : ∀ a, P a → Sound Q (f a)) : Sound Q (x >>= f) := by
  cases x with
  | ok a => exact hf a hx
  | error fault =>
    cases fault with
    | error u => trivial
    | breakdown => exact hx

theorem ne_breakdown (h : Sound P x) : x ≠ .error .breakdown := by
  rintro rfl
  exact h

end Sound

variable {whole : List Char} {i first last : Nat}

theorem Between.le (h : Between whole i) : i ≤ (code whole).length := by
  obtain ⟨a, b, rfl, rfl⟩ := h
  rw [code_append, List.length_append]
  exact Nat.le_add_right _ _

theorem between_zero (whole : List Char) : Between whole 0 := ⟨[], whole, rfl, rfl⟩

theorem between_length (whole : List Char) : Between whole (code whole).length :=
  ⟨whole, [], (List.append_nil _).symm, rfl⟩

theorem code_eq_nil {cs : List Char} (h : (code cs).length = 0) : cs = [] := by
  cases cs with
  | nil => rfl
  | cons c cs =>
    rw [length_code_cons] at h
    have hpos := c.utf8Size_pos
    omega

/-- Between two positions of characters there are whole characters. -/
theorem cut_of_between (hf : Between whole first) (hl : Between whole last) (h : first ≤ last) :
    Sound (fun _ => True) (cut (code whole) first last) := by
  obtain ⟨a, b, rfl, rfl⟩ := hf
  obtain ⟨a', b', heq, rfl⟩ := hl
  obtain ⟨c, rfl⟩ : ∃ c, a' = a ++ c := by
    obtain ⟨c, rfl, -⟩ | ⟨c, rfl, -⟩ := List.append_eq_append_iff.mp heq
    · exact ⟨c, rfl⟩
    · -- The second part would be the shorter one.
      rw [code_append, List.length_append] at h
      have hempty : (code c).length = 0 := by omega
      obtain rfl := code_eq_nil hempty
      exact ⟨[], by simp⟩
  have hcut : ((code (a ++ b)).take (code (a ++ c)).length).drop (code a).length = code c := by
    rw [heq, code_append (a ++ c), List.take_left, code_append, List.drop_left]
  have hdecode : Utf8.decode? (code c) = some (String.ofList c) := Utf8.decode?_utf8 _
  rw [cut, hcut, hdecode]
  trivial

/-- All positions on the way through some characters are positions in the whole text. -/
def Fits (whole : List Char) (i : Nat) (rest : List Char) : Prop :=
  ∀ a b, rest = a ++ b → Between whole (i + (code a).length)

theorem Fits.head {rest : List Char} (h : Fits whole i rest) : Between whole i := h [] rest rfl

theorem Fits.tail {c : Char} {rest : List Char} (h : Fits whole i (c :: rest)) :
    Fits whole (i + c.utf8Size) rest := by
  intro a b hab
  have hnext := h (c :: a) b (by rw [hab, List.cons_append])
  rwa [length_code_cons, ← Nat.add_assoc] at hnext

/-- What is under way starts at a character. -/
def Ready (whole : List Char) (i : Nat) : Place → Prop
  | .span first | .field first | .level first => Between whole first ∧ first ≤ i
  | _ => True

theorem sound_addField (d : Draft) (s : String) : Sound (fun _ => True) (d.addField s) := by
  rw [Draft.addField]
  split
  · trivial
  · split <;> trivial

theorem step_sound {c : Char} {d : Draft} {place : Place} (hi : Between whole i)
    (hnext : Between whole (i + c.utf8Size)) (h : Ready whole i place) :
    Sound (fun r => Ready whole (i + c.utf8Size) r.1) (step (code whole) i c d place) := by
  -- What starts behind a character of one byte starts at the next character.
  have hbehind : c.utf8Size = 1 → Between whole (i + 1) ∧ i + 1 ≤ i + c.utf8Size := by
    intro hone
    rw [hone] at hnext ⊢
    exact ⟨hnext, Nat.le_refl _⟩
  have hgrow : ∀ {first}, Between whole first ∧ first ≤ i →
      Between whole first ∧ first ≤ i + c.utf8Size :=
    fun hfirst => ⟨hfirst.1, Nat.le_add_right_of_le hfirst.2⟩
  cases place with
  | start =>
    simp only [step]
    split
    · exact hbehind (by subst c; rfl)
    · split <;> trivial
  | word =>
    have hcut := cut_of_between (between_zero whole) hi (Nat.zero_le i)
    simp only [step]
    split
    · exact hcut.bind fun _ _ => hbehind (by subst c; rfl)
    · split
      · exact hcut.bind fun _ _ => hbehind (by subst c; rfl)
      · trivial
  | span first =>
    have hcut := cut_of_between h.1 hi h.2
    simp only [step]
    split
    · trivial
    · split
      · exact hcut.bind fun _ _ => hbehind (by subst c; rfl)
      · exact hgrow h
  | field first =>
    have hcut := cut_of_between h.1 hi h.2
    simp only [step]
    split
    · refine hcut.bind fun text _ => (sound_addField d text).bind fun _ _ => ?_
      trivial
    · exact hgrow h
  | closing =>
    simp only [step]
    split <;> trivial
  | «scoped» =>
    simp only [step]
    split
    · exact hbehind (by subst c; rfl)
    · trivial
  | level first => exact hgrow h

theorem walk_sound {rest : List Char} {d : Draft} {place : Place} (hrest : Fits whole i rest)
    (h : Ready whole i place) : Sound (fun r => ∃ j, Between whole j ∧ Ready whole j r.1)
      (walk (code whole) i place d rest) := by
  induction rest generalizing i place d with
  | nil => exact ⟨i, hrest.head, h⟩
  | cons c rest ih =>
    exact (step_sound hrest.head hrest.tail.head h).bind fun _ hready => ih hrest.tail hready

theorem finish_sound {d : Draft} {place : Place} (hi : Between whole i) (h : Ready whole i place) :
    Sound (fun _ => True) (finish (code whole) place d) := by
  have hend := between_length whole
  cases place with
  | word =>
    refine (cut_of_between (between_zero whole) hend (Nat.zero_le _)).bind fun word _ => ?_
    dsimp only
    split <;> trivial
  | level first =>
    refine (cut_of_between h.1 hend (Nat.le_trans h.2 hi.le)).bind fun word _ => ?_
    split
    · trivial
    · split <;> trivial
  | _ => trivial

/-- A directive with a blank in front and a character of more than one byte. -/
def Misread (piece : List Char) : Prop :=
  (∃ c rest, piece = c :: rest ∧ CharSet.blank.contains c = true) ∧ ∃ c ∈ piece, 1 < c.utf8Size

theorem read_sound {piece : List Char} (h : Fits piece 0 (trimmed piece)) :
    Sound (fun _ => True) (read (String.ofList piece)) := by
  have hread : read (String.ofList piece) =
      walk (code piece) 0 .start {} (trimmed piece) >>= fun r => finish (code piece) r.1 r.2 := by
    rw [read, String.toList_ofList]
    rfl
  rw [hread]
  have hstart : Ready piece 0 .start := trivial
  exact (walk_sound h hstart).bind fun r ⟨j, hj, hready⟩ => finish_sound hj hready

/-- Without blanks in front, positions are those in the whole directive. -/
theorem fits_of_front {piece : List Char}
    (h : ∀ c rest, piece = c :: rest → ¬ CharSet.blank.contains c = true) :
    Fits piece 0 (trimmed piece) := by
  have hfront : piece.dropWhile CharSet.blank.contains = piece := by
    cases piece with
    | nil => rfl
    | cons c rest => exact List.dropWhile_cons_of_neg (h c rest rfl)
  have hback : trimmed piece ++ (piece.reverse.takeWhile CharSet.blank.contains).reverse =
      piece := by
    rw [trimmed, hfront, ← List.reverse_append, List.takeWhile_append_dropWhile,
      List.reverse_reverse]
  intro a b hab
  rw [hab, List.append_assoc] at hback
  exact ⟨a, _, hback.symm, Nat.zero_add _⟩

theorem trimmed_sublist (cs : List Char) : (trimmed cs).Sublist cs := by
  have hback := (List.dropWhile_sublist (l := (cs.dropWhile CharSet.blank.contains).reverse)
    CharSet.blank.contains).reverse
  rw [List.reverse_reverse] at hback
  exact hback.trans (List.dropWhile_sublist _)

/-- Of characters of one byte each, every position is that of a character. -/
theorem fits_of_narrow {piece : List Char} (h : ∀ c ∈ piece, c.utf8Size = 1) :
    Fits piece 0 (trimmed piece) := by
  intro a b hab
  have hsub : a.Sublist piece := (List.sublist_append_left a b).trans (hab ▸ trimmed_sublist piece)
  have ha : (code a).length = a.length := length_utf8_of_narrow fun c hc => h c (hsub.subset hc)
  have htake : (code (piece.take a.length)).length = (piece.take a.length).length :=
    length_utf8_of_narrow fun c hc => h c (List.mem_of_mem_take hc)
  -- The part need not stand at the front of the directive, but one of its length does.
  refine ⟨piece.take a.length, piece.drop a.length, (List.take_append_drop _ _).symm, ?_⟩
  rw [Nat.zero_add, ha, htake, List.length_take, Nat.min_eq_left hsub.length_le]

/-- Only such directives break the program down. -/
theorem misread_of_breakdown {piece : List Char}
    (h : read (String.ofList piece) = .error .breakdown) : Misread piece := by
  refine ⟨Classical.byContradiction fun hn => ?_, Classical.byContradiction fun hn => ?_⟩
  · have hfits := fits_of_front fun c rest hpiece hblank => hn ⟨c, rest, hpiece, hblank⟩
    exact (read_sound hfits).ne_breakdown h
  · have hfits := fits_of_narrow fun c hc => by
      have hpos := c.utf8Size_pos
      have hle : ¬ 1 < c.utf8Size := fun hlt => hn ⟨c, hc, hlt⟩
      omega
    exact (read_sound hfits).ne_breakdown h

end Directive

namespace Filter
open Directive

theorem breakdown_of_bind {α β : Type} {x : Reading α} {f : α → Reading β}
    (h : x >>= f = .error .breakdown) :
    x = .error .breakdown ∨ ∃ a, x = .ok a ∧ f a = .error .breakdown := by
  cases x with
  | error fault =>
    cases h
    exact .inl rfl
  | ok a => exact .inr ⟨a, rfl, h⟩

theorem breakdown_of_mapM {α β : Type} {f : α → Reading β} {l : List α}
    (h : l.mapM f = .error .breakdown) : ∃ a ∈ l, f a = .error .breakdown := by
  induction l with
  | nil => cases h
  | cons a l ih =>
    rw [List.mapM_cons] at h
    obtain ha | ⟨_, -, h⟩ := breakdown_of_bind h
    · exact ⟨a, List.mem_cons_self, ha⟩
    · obtain hl | ⟨_, -, h⟩ := breakdown_of_bind h
      · obtain ⟨b, hb, hbreaks⟩ := ih hl
        exact ⟨b, List.mem_cons_of_mem a hb, hbreaks⟩
      · cases h

/-- A list of directives breaks the program down only if one of them does. -/
theorem misread_of_breakdown {s : String} (h : read s = .error .breakdown) :
    ∃ piece ∈ s.toList.splitOn ',', Misread piece := by
  rw [read] at h
  obtain hpieces | ⟨_, -, h⟩ := breakdown_of_bind h
  · obtain ⟨piece, hmem, hbreaks⟩ := breakdown_of_mapM hpieces
    exact ⟨piece, (List.mem_filter.mp hmem).1, Directive.misread_of_breakdown hbreaks⟩
  · cases h

end Filter
end DeployTrigger.Log
