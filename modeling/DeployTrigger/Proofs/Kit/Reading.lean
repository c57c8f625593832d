import DeployTrigger.Kit.Source.Path

/-!
What readers leave. Whatever a reader is made of, it takes tokens from the front and makes none up, and
tokens that were left over in a group stay known (`Advances`). What a reader took can be told from what
it leaves (`Reads`).
-/
namespace DeployTrigger.Kit.Source

/-- One cursor is further on: tokens are gone from the front, and left-over ones are not forgotten. -/
structure Cursor.Reaches (c d : Cursor) : Prop where
  suffix : d.rest <:+ c.rest
  leftover : c.leftover = true → d.leftover = true

namespace Cursor.Reaches
variable {c d e : Cursor}

theorem refl (c : Cursor) : c.Reaches c := ⟨List.suffix_rfl, id⟩

theorem trans (h : c.Reaches d) (h' : d.Reaches e) : c.Reaches e :=
  ⟨h'.suffix.trans h.suffix, h'.leftover ∘ h.leftover⟩

end Cursor.Reaches

namespace Reader
variable {α β : Type} {x : Reader α} {f : α → Reader β} {c d e : Cursor} {a : α} {b : β}

theorem bind_run_iff :
    (x >>= f) c = .ok (b, e) ↔ ∃ a d, x c = .ok (a, d) ∧ f a d = .ok (b, e) := by
  change Except.bind (x c) _ = _ ↔ _
  cases x c with
  | error => simp [Except.bind]
  | ok p =>
    obtain ⟨a, d⟩ := p
    constructor
    · exact fun h => ⟨a, d, rfl, h⟩
    · rintro ⟨_, _, ⟨⟩, h⟩
      exact h

/-- To read all tokens is to leave none, neither at the end nor in a group. -/
theorem run_eq_ok_iff {ts : List Token} :
    Reader.run x ts = .ok a ↔ x ⟨ts, false⟩ = .ok (a, ⟨[], false⟩) := by
  change Except.bind (x ⟨ts, false⟩) _ = _ ↔ _
  cases x ⟨ts, false⟩ with
  | error => simp [Except.bind]
  | ok p =>
    obtain ⟨b, rest, leftover⟩ := p
    constructor
    · intro h
      cases leftover with
      | true => cases h
      | false =>
        cases rest with
        | cons => cases h
        | nil =>
          cases h
          rfl
    · rintro ⟨⟩
      rfl

/-- Wherever the reader starts, it goes on from there. -/
def Advances (x : Reader α) : Prop := ∀ c a d, x c = .ok (a, d) → c.Reaches d

namespace Advances

/-- What follows has to advance behind the values that there can be. -/
theorem bind (hx : Advances x)
    (hf : ∀ a, (∃ c d, x c = .ok (a, d)) → Advances (f a)) : Advances (x >>= f) := by
  intro c b e h
  obtain ⟨a, d, hd, he⟩ := bind_run_iff.mp h
  exact (hx _ _ _ hd).trans (hf a ⟨c, d, hd⟩ _ _ _ he)

theorem pure (a : α) : Advances (Pure.pure a : Reader α) := by
  rintro c _ _ ⟨⟩
  exact .refl c

theorem ite {p : Prop} [Decidable p] {y : Reader α} (hx : Advances x) (hy : Advances y) :
    Advances (if p then x else y) := by
  split
  · exact hx
  · exact hy

theorem either {p : Prop} [Decidable p] {y : Reader α} (hx : Advances x) (hy : Advances y)
    (hf : ∀ a, Advances (f a)) : Advances (if p then x >>= f else y >>= f) :=
  .ite (.bind hx fun a _ => hf a) (.bind hy fun a _ => hf a)

/-- What may come first, and what follows in any case. -/
theorem optionally {p : Prop} [Decidable p] {x : Reader Unit} {f : Unit → Reader β} (hx : Advances x)
    (hf : Advances (f ())) : Advances (if p then x >>= f else f ()) :=
  .ite (.bind hx fun _ _ => hf) hf

theorem throw (flaw : Flaw) : Advances (MonadExcept.throw flaw : Reader α) := by
  rintro _ _ _ ⟨⟩

theorem discard (hx : Advances x) : Advances (Functor.discard x) := by
  have hmap : Advances (x >>= fun _ => Pure.pure PUnit.unit) := .bind hx fun _ _ => .pure _
  exact hmap

theorem rest : Advances rest := by
  rintro c _ _ ⟨⟩
  exact .refl c

theorem drop (n : Nat) : Advances (drop n) := by
  rintro c _ _ ⟨⟩
  exact ⟨List.drop_suffix n c.rest, id⟩

theorem takeAll : Advances takeAll := by
  rintro c _ _ ⟨⟩
  exact ⟨List.nil_suffix, id⟩

theorem sees (p : List Token → Bool) : Advances (sees p) := .bind .rest fun _ _ => .pure _

theorem fail (alternatives : List String) : Advances (fail alternatives : Reader α) :=
  .bind .rest fun _ _ => .throw _

theorem sign (s : String) : Advances (sign s) :=
  .bind (.sees _) fun _ _ => .ite (.drop _) (.fail _)

theorem sign? (s : String) : Advances (sign? s) :=
  .bind (.sees _) fun _ _ => .ite (.bind (.drop _) fun _ _ => .pure _) (.pure _)

theorem word (w : String) : Advances (word w) :=
  .bind (.sees _) fun _ _ => .ite (.drop _) (.fail _)

theorem word? (w : String) : Advances (word? w) :=
  .bind (.sees _) fun _ _ => .ite (.bind (.drop _) fun _ _ => .pure _) (.pure _)

theorem identifier : Advances identifier := by
  refine .bind .rest fun ts _ => ?_
  split
  · exact .ite (.bind (.drop _) fun _ _ => .pure _) (.fail _)
  · exact .fail _

theorem anyWord : Advances anyWord := .bind (.sees _) fun _ _ => .ite (.drop _) (.fail _)

theorem lifetime : Advances lifetime := .bind (.sees _) fun _ _ => .ite (.drop _) (.fail _)

theorem literal : Advances literal :=
  .bind (.sees _) fun _ _ => .ite (.bind (.sees _) fun _ _ => .drop _) (.fail _)

theorem atEnd : Advances atEnd := .bind .rest fun _ _ => .pure _

theorem interface : Advances interface :=
  .bind (.word? _) fun _ _ => .ite (.bind (.sees _) fun _ _ => .ite (.drop _) (.pure _)) (.pure _)

end Advances

section Group
variable {δ : Delimiter} {inner : Reader α}

theorem group_eq_ok_iff : group δ inner c = .ok (a, e) ↔ ∃ content behind d,
    c.rest = .group δ content :: behind ∧ inner ⟨content, c.leftover⟩ = .ok (a, d) ∧
      e = ⟨behind, d.leftover || !d.rest.isEmpty⟩ := by
  constructor
  · intro h
    obtain ⟨_, _, ⟨⟩, h⟩ := bind_run_iff.mp h
    cases hrest : c.rest with
    | nil => rw [hrest] at h; cases h
    | cons t behind =>
      rw [hrest] at h
      cases t with
      | group e content =>
        dsimp only at h
        split at h
        · subst e
          obtain ⟨_, _, ⟨⟩, h⟩ := bind_run_iff.mp h
          obtain ⟨a, d, hd, h⟩ := bind_run_iff.mp h
          obtain ⟨_, _, ⟨⟩, ⟨⟩⟩ := bind_run_iff.mp h
          exact ⟨content, behind, d, rfl, hd, rfl⟩
        · cases h
      | _ => cases h
  · rintro ⟨content, behind, d, hrest, hd, rfl⟩
    refine bind_run_iff.mpr ⟨_, c, rfl, ?_⟩
    rw [hrest]
    dsimp only
    rw [if_pos rfl]
    refine bind_run_iff.mpr ⟨_, _, rfl, bind_run_iff.mpr ⟨a, d, hd, ?_⟩⟩
    exact bind_run_iff.mpr ⟨_, _, rfl, rfl⟩

/-- What is read in the group does not matter for what follows it. -/
theorem Advances.group (hinner : Advances inner) : Advances (group δ inner) := by
  intro c a e h
  obtain ⟨content, behind, d, hrest, hd, rfl⟩ := group_eq_ok_iff.mp h
  refine ⟨hrest ▸ List.suffix_cons _ _, fun hleft => ?_⟩
  rw [(hinner _ _ _ hd).leftover hleft, Bool.true_or]

end Group

section Loop
variable {body : Reader Bool} {item : Reader Unit}

theorem Advances.loopUpTo (h : Advances body) (n : Nat) : Advances (loopUpTo body n) := by
  induction n with
  | zero => exact .pure _
  | succ n ih => exact .bind h fun _ _ => .ite ih (.pure _)

theorem Advances.loop (h : Advances body) : Advances (loop body) :=
  .bind .rest fun _ _ => h.loopUpTo _

theorem Advances.commaSeparated (h : Advances item) : Advances (commaSeparated item) := by
  refine .loop (.bind .atEnd fun _ _ => .ite (.pure _) (.bind h fun _ _ => ?_))
  exact .bind .atEnd fun _ _ => .ite (.pure _) (.bind (.sign _) fun _ _ => .pure _)

theorem Advances.listUntil (h : Advances item) (last : List Token → Bool)
    (between : String) : Advances (listUntil last between item) := by
  refine .loop (.bind (.sees _) fun _ _ => .ite (.pure _) (.bind h fun _ _ => ?_))
  exact .bind (.sees _) fun _ _ => .ite (.pure _) (.bind (.sign _) fun _ _ => .pure _)

theorem Advances.plainPath : Advances plainPath := by
  refine .bind (.sign? _) fun _ _ => .bind (.sees _) fun _ _ => .optionally (.fail _) (.loop ?_)
  refine .bind (.sees _) fun _ _ => .optionally (.fail _) ?_
  exact .bind .anyWord fun _ _ => .sign? _

theorem Advances.attributes : Advances attributes := by
  refine .loop (.bind (.sees _) fun _ _ => .ite (.bind (.sign _) fun _ _ => ?_) (.pure _))
  exact .bind (.group (.bind .plainPath fun _ _ => .takeAll)) fun _ _ => .pure _

end Loop

/-- Somewhere the reader takes exactly these tokens. -/
def Reads (x : Reader α) (ts : List Token) : Prop :=
  ∃ c a d, x c = .ok (a, d) ∧ c.rest = ts ++ d.rest

/-- What the reader takes behind a cursor is so, along with the value that it gives. -/
def Spells (x : Reader α) (c : Cursor) (P : α → List Token → Prop) : Prop :=
  ∀ a d, x c = .ok (a, d) → ∃ taken, c.rest = taken ++ d.rest ∧ P a taken

namespace Spells
variable {P : α → List Token → Prop} {Q : β → List Token → Prop}

theorem bind (hx : Spells x c P)
    (hf : ∀ a ts d, P a ts → c.rest = ts ++ d.rest → Spells (f a) d fun b more => Q b (ts ++ more)) :
    Spells (x >>= f) c Q := by
  intro b e h
  obtain ⟨a, d, hd, he⟩ := bind_run_iff.mp h
  obtain ⟨ts, hrest, hts⟩ := hx a d hd
  obtain ⟨more, hmore, hQ⟩ := hf a ts d hts hrest b e he
  exact ⟨ts ++ more, by rw [hrest, hmore, List.append_assoc], hQ⟩

theorem pure (h : P a []) : Spells (Pure.pure a) c P := by
  rintro _ _ ⟨⟩
  exact ⟨[], rfl, h⟩

theorem fail (alternatives : List String) : Spells (fail alternatives) c P := by
  rintro _ _ ⟨⟩

theorem throw (flaw : Flaw) : Spells (MonadExcept.throw flaw) c P := by
  rintro _ _ ⟨⟩

theorem mono (h : Spells x c P) {P' : α → List Token → Prop} (hP : ∀ a ts, P a ts → P' a ts) :
    Spells x c P' := by
  intro a d hd
  obtain ⟨taken, hrest, htaken⟩ := h a d hd
  exact ⟨taken, hrest, hP a taken htaken⟩

/-- In front of a look at the next tokens nothing is taken. -/
theorem bind_rest {f : List Token → Reader β} (h : Spells (f c.rest) c Q) :
    Spells (Reader.rest >>= f) c Q := by
  intro b e he
  exact h b e he

theorem bind_sees {p : List Token → Bool} {f : Bool → Reader β} (h : Spells (f (p c.rest)) c Q) :
    Spells (Reader.sees p >>= f) c Q := by
  intro b e he
  exact h b e he

theorem bind_atEnd {f : Bool → Reader β} (h : Spells (f c.rest.isEmpty) c Q) :
    Spells (Reader.atEnd >>= f) c Q := by
  intro b e he
  exact h b e he

theorem drop {n : Nat} (ts : List Token) {behind : List Token} (hrest : c.rest = ts ++ behind)
    (hn : ts.length = n) : Spells (drop n) c fun _ taken => taken = ts := by
  rintro _ _ ⟨⟩
  refine ⟨ts, ?_, rfl⟩
  dsimp only
  rw [hrest, ← hn, List.drop_left]

end Spells

theorem Advances.spells (h : Advances x) (c : Cursor) : Spells x c fun _ ts => Reads x ts := by
  intro a d hd
  obtain ⟨taken, htaken⟩ := (h c a d hd).suffix
  exact ⟨taken, htaken.symm, c, a, d, hd, htaken.symm⟩

theorem Advances.spells_any (h : Advances x) (c : Cursor) : Spells x c fun _ _ => True :=
  (h.spells c).mono fun _ _ _ => trivial

end Reader

/-- Signs in a row without gaps between them. -/
inductive Signs : List Char → List Token → Prop where
  | last (c : Char) (joint : Bool) : Signs [c] [.sign c joint]
  | cons (c : Char) {d : Char} {cs : List Char} {ts : List Token} (h : Signs (d :: cs) ts) :
      Signs (c :: d :: cs) (.sign c true :: ts)

theorem Signs.length {cs : List Char} {ts : List Token} (h : Signs cs ts) :
    ts.length = cs.length := by
  induction h with
  | last => rfl
  | cons c h ih => exact congrArg (· + 1) ih

theorem signs_of_startsWithSigns {c : Char} {cs : List Char} {ts : List Token}
    (h : startsWithSigns (c :: cs) ts = true) :
    ∃ taken behind, ts = taken ++ behind ∧ Signs (c :: cs) taken := by
  induction cs generalizing c ts with
  | nil =>
    obtain ⟨joint, behind, rfl⟩ : ∃ joint behind, ts = .sign c joint :: behind := by
      unfold startsWithSigns at h
      grind
    exact ⟨[.sign c joint], behind, rfl, .last c joint⟩
  | cons d cs ih =>
    obtain ⟨behind, rfl, hbehind⟩ :
        ∃ behind, ts = .sign c true :: behind ∧ startsWithSigns (d :: cs) behind = true := by
      unfold startsWithSigns at h
      grind
    obtain ⟨taken, behind, rfl, htaken⟩ := ih hbehind
    exact ⟨.sign c true :: taken, behind, rfl, .cons c htaken⟩

namespace Reader
variable {c : Cursor}

section Sign
variable {s : String} (hs : s ≠ "")
include hs

theorem Spells.dropSigns (h : Sees.sign s c.rest = true) :
    Spells (Reader.drop s.length) c fun _ ts => Signs s.toList ts := by
  obtain ⟨ch, cs, hcs⟩ := List.exists_cons_of_ne_nil (mt String.toList_eq_nil_iff.mp hs)
  rw [Sees.sign, hcs] at h
  obtain ⟨ts, behind, hrest, hts⟩ := signs_of_startsWithSigns h
  rw [← hcs] at hts
  refine (Spells.drop ts hrest (hts.length.trans String.length_toList)).mono ?_
  rintro _ _ rfl
  exact hts

theorem spells_sign : Spells (sign s) c fun _ ts => Signs s.toList ts := by
  refine .bind_sees ?_
  split
  · exact .dropSigns hs ‹_›
  · exact .fail _

theorem spells_sign? :
    Spells (sign? s) c fun found ts => if found then Signs s.toList ts else ts = [] := by
  refine .bind_sees ?_
  split
  · refine .bind (.dropSigns hs ‹_›) fun _ ts _ hts _ => .pure ?_
    rwa [List.append_nil]
  · exact .pure rfl

end Sign

theorem sees_word_iff {w : String} {ts : List Token} :
    Sees.word w ts = true ↔ ∃ behind, ts = .word w :: behind := by
  unfold Sees.word
  grind

theorem spells_word (w : String) : Spells (word w) c fun _ ts => ts = [.word w] := by
  refine .bind_sees ?_
  split
  · obtain ⟨behind, hrest⟩ := sees_word_iff.mp ‹_›
    exact .drop [.word w] hrest rfl
  · exact .fail _

theorem spells_word? (w : String) :
    Spells (word? w) c fun found ts => ts = if found then [.word w] else [] := by
  refine .bind_sees ?_
  split
  · obtain ⟨behind, hrest⟩ := sees_word_iff.mp ‹_›
    refine .bind (.drop [.word w] hrest rfl) fun _ ts _ hts _ => .pure ?_
    rw [hts, List.append_nil, if_pos rfl]
  · exact .pure rfl

theorem spells_identifier :
    Spells identifier c fun w ts => ts = [.word w] ∧ isIdentifier w = true := by
  refine .bind_rest ?_
  split
  · rename_i w behind hrest
    split
    · refine .bind (.drop [.word w] hrest rfl) fun _ ts _ hts _ => .pure ⟨?_, ‹_›⟩
      rw [hts, List.append_nil]
    · exact .fail _
  · exact .fail _

/-- How the interface of a foreign function is written. -/
inductive Interface : List Token → Prop where
  | none : Interface []
  | plain : Interface [.word "extern"]
  | named (text : String) : Interface [.word "extern", .literal (.text text)]

theorem spells_interface : Spells interface c fun _ ts => Interface ts := by
  refine .bind (spells_word? "extern") fun found ts d hts _ => ?_
  subst hts
  cases found with
  | false => exact .pure .none
  | true =>
    refine .bind_sees ?_
    split
    · obtain ⟨text, behind, hrest⟩ : ∃ text behind, d.rest = .literal (.text text) :: behind := by
        rename_i h
        unfold Sees.textLiteral at h
        grind
      refine (Spells.drop [.literal (.text text)] hrest rfl).mono ?_
      rintro _ _ rfl
      exact .named text
    · exact .pure .plain

end Reader
end DeployTrigger.Kit.Source
