import DeployTrigger.CommandLine.Options
import DeployTrigger.Proofs.Numeral
import DeployTrigger.Proofs.PathExpansion
import Mathlib.Data.List.Forall2

/-!
Paths made of plain text and references to variables. All references are replaced in one pass, by the
values as they are (`expandReferences_written`); a value is never looked at again, whoever the path is
for (`paths_expand_once`).
-/
namespace DeployTrigger
namespace PathExpansion

/-- What a user writes: text that is meant as it is, or a reference with or without braces. -/
inductive Part where
  | plain (text : List Char)
  | reference (name : List Char) (braces : Bool)

namespace Part

def text : Part → List Char
  | plain text => text
  | reference name true => '$' :: '\x7b' :: (name ++ ['\x7d'])
  | reference name false => '$' :: name

end Part

def written (ps : List Part) : List Char := ps.flatMap Part.text

/-- A name of ASCII letters, digits and underscores. -/
structure IsName (name : List Char) : Prop where
  nonempty : name ≠ []
  chars : ∀ c ∈ name, c.isAlphanum = true ∨ c = '_'

/-- Text has no dollars, and a reference without braces ends where its name does. -/
inductive Readable : List Part → Prop where
  | nil : Readable []
  | plain {text : List Char} {ps : List Part} (htext : '$' ∉ text) (h : Readable ps) :
      Readable (.plain text :: ps)
  | braced {name : List Char} {ps : List Part} (hname : IsName name) (h : Readable ps) :
      Readable (.reference name true :: ps)
  | bare {name : List Char} {ps : List Part} (hname : IsName name)
      (hend : ∀ c ∈ (written ps).head?, isNameChar c = false) (h : Readable ps) :
      Readable (.reference name false :: ps)

section Names
variable {name rest : List Char} {c : Char}

theorem toNat_of_isAlphanum (h : c.isAlphanum = true) :
    (48 ≤ c.toNat ∧ c.toNat ≤ 57) ∨ (65 ≤ c.toNat ∧ c.toNat ≤ 90) ∨
      (97 ≤ c.toNat ∧ c.toNat ≤ 122) := by
  change (decide (65 ≤ c.val ∧ c.val ≤ 90) || (decide (97 ≤ c.val) && decide (c.val ≤ 122)) ||
    c.isDigit) = true at h
  simp only [Bool.or_eq_true, Bool.and_eq_true, decide_eq_true_eq, UInt32.le_iff_toNat_le] at h
  change ((65 ≤ c.toNat ∧ c.toNat ≤ 90) ∨ (97 ≤ c.toNat ∧ c.toNat ≤ 122)) ∨ c.isDigit = true at h
  obtain (h | h) | h := h
  · exact .inr (.inl h)
  · exact .inr (.inr h)
  · exact .inl (toNat_of_isDigit h)

theorem isNameChar_of_ascii (h : c.isAlphanum = true ∨ c = '_') :
    isNameChar c = true ∧ c.toNat < 128 := by
  obtain h | rfl := h
  · have hrange := toNat_of_isAlphanum h
    obtain ⟨rest, hsets⟩ : ∃ rest, CharSet.alphanumeric.boundaries =
        0x30 :: 0x3A :: 0x41 :: 0x5B :: 0x61 :: 0x7B :: rest := ⟨_, rfl⟩
    have hmem : CharSet.alphanumeric.contains c = true := by
      rw [CharSet.contains, hsets]
      simp only [CharSet.inside]
      obtain h | h | h := hrange
      · rw [if_neg (by omega), if_pos (by omega)]
        rfl
      · rw [if_neg (by omega), if_neg (by omega), if_neg (by omega), if_pos (by omega)]
        rfl
      · rw [if_neg (by omega), if_neg (by omega), if_neg (by omega), if_neg (by omega),
          if_neg (by omega), if_pos (by omega)]
        rfl
    refine ⟨?_, by omega⟩
    rw [isNameChar, hmem, Bool.or_true]
  · exact ⟨rfl, by decide⟩

theorem IsName.not_mem (h : IsName name) (hc : ¬ (c.isAlphanum = true ∨ c = '_')) : c ∉ name :=
  fun hmem => hc (h.chars c hmem)

theorem splitFallback_of_no_colon (h : ':' ∉ name) (before : List Char) :
    splitFallback before name = none := by
  induction name generalizing before with
  | nil => rw [splitFallback]
  | cons c name ih =>
    obtain ⟨hc, hname⟩ : ':' ≠ c ∧ ':' ∉ name := by simpa using h
    rw [splitFallback]
    · exact ih hname _
    · intro rest heq _
      exact hc heq.symm

theorem pieces_braced (h : IsName name) (rest : List Char) :
    pieces ('$' :: '\x7b' :: (name ++ '\x7d' :: rest)) = .reference name none :: pieces rest := by
  have hbrace : '\x7d' ∉ name := h.not_mem (by decide)
  have hstay : ∀ c ∈ name, (decide (c ≠ '\x7d')) = true := by
    intro c hc
    simp only [decide_eq_true_eq]
    intro heq
    exact hbrace (heq ▸ hc)
  have hstop : ∀ c ∈ ('\x7d' :: rest).head?, decide (c ≠ '\x7d') = false := by simp
  have hbraced : braced name = .reference name none := by
    rw [braced, splitFallback_of_no_colon (h.not_mem (by decide))]
  rw [pieces, if_pos (by simp), takeWhile_append_of_stop hstay hstop,
    dropWhile_append_of_stop hstay hstop, hbraced, List.drop_one, List.tail_cons]

theorem pieces_bare (h : IsName name) (hend : ∀ c ∈ rest.head?, isNameChar c = false) :
    pieces ('$' :: (name ++ rest)) = .reference name none :: pieces rest := by
  obtain ⟨c, more, rfl⟩ := List.exists_cons_of_ne_nil h.nonempty
  obtain ⟨hname, hsmall⟩ := isNameChar_of_ascii (h.chars c List.mem_cons_self)
  have hmore : ∀ d ∈ more, isNameChar d = true := fun d hd =>
    (isNameChar_of_ascii (h.chars d (List.mem_cons_of_mem c hd))).1
  have hnarrow : ¬ 1 < c.utf8Size := by
    have hlow : c.val ≤ 127 := UInt32.le_iff_toNat_le.mpr (Nat.le_of_lt_succ hsmall)
    rw [Char.utf8Size_eq_one_iff.mpr hlow]
    decide
  rw [List.cons_append, pieces]
  · rw [if_pos hname, if_neg hnarrow, takeWhile_append_of_stop hmore hend,
      dropWhile_append_of_stop hmore hend]
  · rintro rfl
    exact absurd hname (by decide)
  · rintro rfl
    exact absurd hname (by decide)

end Names
/-- A part is replaced by its text, or by the text that the environment has for its name. -/
inductive Stands (w : World) : Part → List Char → Prop where
  | plain (text : List Char) : Stands w (.plain text) text
  | reference {name : List Char} {s : String} (braces : Bool)
      (h : w.env? (String.ofList name) = some (utf8 s)) : Stands w (.reference name braces) s.toList

/-- The environment has no text for a name. -/
def Unset (w : World) (name : List Char) : Prop :=
  ∀ s, w.env? (String.ofList name) ≠ some (utf8 s)

section Values
variable {w : World} {name : List Char} {s : String} {ps : List Part} {texts : List (List Char)}

theorem value_of_set (h : w.env? (String.ofList name) = some (utf8 s)) :
    value w (String.ofList name) = .ok s := by
  simp [value, h, Utf8.decode?_utf8]

theorem value_of_unset (h : Unset w name) :
    ∃ e, value w (String.ofList name) = .error e ∧ e.kind = .invalidInput := by
  rw [value]
  cases hname : w.env? (String.ofList name) with
  | none => exact ⟨_, rfl, rfl⟩
  | some b =>
    cases hb : Utf8.decode? b with
    | none =>
      dsimp only
      rw [hb]
      exact ⟨_, rfl, rfl⟩
    | some s =>
      rw [Utf8.decode?_eq_some_iff] at hb
      rw [hb] at hname
      exact absurd hname (h s)

theorem set_or_unset (w : World) (name : List Char) :
    (∃ s, w.env? (String.ofList name) = some (utf8 s)) ∨ Unset w name := by
  by_cases h : ∃ s, w.env? (String.ofList name) = some (utf8 s)
  · exact .inl h
  · exact .inr fun s hs => h ⟨s, hs⟩

theorem exists_texts (h : ∀ name braces, .reference name braces ∈ ps → ¬ Unset w name) :
    ∃ texts, List.Forall₂ (Stands w) ps texts := by
  induction ps with
  | nil => exact ⟨[], .nil⟩
  | cons p ps ih =>
    obtain ⟨texts, htexts⟩ := ih fun name braces hmem => h name braces (List.mem_cons_of_mem p hmem)
    cases p with
    | plain text => exact ⟨_, .cons (.plain text) htexts⟩
    | reference name braces =>
      obtain ⟨s, hs⟩ | hunset := set_or_unset w name
      · exact ⟨_, .cons (.reference braces hs) htexts⟩
      · exact absurd hunset (h name braces List.mem_cons_self)

/-- What a part is replaced by is settled by the environment. -/
theorem stands_unique : Relator.RightUnique (Stands w) := by
  intro p text text' h h'
  cases h with
  | plain text =>
    cases h'
    rfl
  | reference _ h =>
    cases h' with
    | reference _ h' =>
      have hvalue := value_of_set h
      rw [value_of_set h'] at hvalue
      rw [Except.ok.inj hvalue]

theorem expandReferences_cons {piece : Piece} {cs rest : List Char}
    (h : pieces cs = piece :: pieces rest) : expandReferences w cs =
      piece.expand w >>= fun text => (expandReferences w rest).map (text ++ ·) := by
  rw [expandReferences, expandReferences, h, List.mapM_cons]
  cases piece.expand w with
  | error e => rfl
  | ok text => cases (pieces rest).mapM (Piece.expand w) <;> rfl

theorem expandReferences_reference {cs rest : List Char}
    (h : pieces cs = .reference name none :: pieces rest) : expandReferences w cs =
      ((value w (String.ofList name)).mapError .error) >>= fun s =>
        (expandReferences w rest).map (s.toList ++ ·) := by
  rw [expandReferences_cons h]
  cases hv : value w (String.ofList name) with
  | ok s =>
    simp only [Piece.expand, hv]
    rfl
  | error e =>
    simp only [Piece.expand, hv]
    rfl

theorem written_plain (text : List Char) (ps : List Part) :
    written (.plain text :: ps) = text ++ written ps := rfl

theorem pieces_reference {braces : Bool} (h : Readable (.reference name braces :: ps)) :
    pieces (written (.reference name braces :: ps)) = .reference name none :: pieces (written ps) := by
  cases h with
  | braced hname _ =>
    have hwritten : written (.reference name true :: ps) =
        '$' :: '\x7b' :: (name ++ '\x7d' :: written ps) := by
      simp [written, Part.text]
    rw [hwritten, pieces_braced hname]
  | bare hname hend _ => exact pieces_bare hname hend

theorem Readable.tail {p : Part} (h : Readable (p :: ps)) : Readable ps := by
  cases h with
  | plain _ h => exact h
  | braced _ h => exact h
  | bare _ _ h => exact h

/-- By induction on the parts: what they stand for comes one behind the other. -/
theorem expandReferences_of_stands (h : Readable ps) (hs : List.Forall₂ (Stands w) ps texts) :
    expandReferences w (written ps) = .ok texts.flatten := by
  induction hs with
  | nil => exact expandReferences_of_no_dollar List.not_mem_nil
  | cons hp _ ih =>
    have hrest := ih h.tail
    cases hp with
    | plain text =>
      cases h with
      | plain htext _ =>
        rw [written_plain, expandReferences_append_of_no_dollar htext, hrest]
        rfl
    | reference braces hset =>
      rw [expandReferences_reference (pieces_reference h), value_of_set hset, hrest]
      rfl

/-- The first variable that is not set ends the expansion. -/
theorem expandReferences_of_unset (h : Readable ps)
    (hunset : ∃ name braces, .reference name braces ∈ ps ∧ Unset w name) :
    ∃ e, expandReferences w (written ps) = .error (.error e) ∧ e.kind = .invalidInput := by
  induction ps with
  | nil =>
    obtain ⟨_, _, hmem, _⟩ := hunset
    exact absurd hmem List.not_mem_nil
  | cons p ps ih =>
    have hlater (hp : ∀ name braces, p = .reference name braces → ¬ Unset w name) :
        ∃ name braces, .reference name braces ∈ ps ∧ Unset w name := by
      obtain ⟨name, braces, hmem, hname⟩ := hunset
      obtain heq | hmem := List.mem_cons.mp hmem
      · exact absurd hname (hp name braces heq.symm)
      · exact ⟨name, braces, hmem, hname⟩
    cases p with
    | plain text =>
      obtain ⟨e, he, hkind⟩ := ih h.tail (hlater fun _ _ heq => by cases heq)
      cases h with
      | plain htext _ =>
        refine ⟨e, ?_, hkind⟩
        rw [written_plain, expandReferences_append_of_no_dollar htext, he]
        rfl
    | reference name braces =>
      rw [expandReferences_reference (pieces_reference h)]
      obtain ⟨s, hset⟩ | hname := set_or_unset w name
      · have hp (name' : List Char) (braces' : Bool)
            (heq : Part.reference name braces = .reference name' braces') : ¬ Unset w name' := by
          cases heq
          exact fun hname => hname s hset
        obtain ⟨e, he, hkind⟩ := ih h.tail (hlater hp)
        refine ⟨e, ?_, hkind⟩
        rw [value_of_set hset, he]
        rfl
      · obtain ⟨e, he, hkind⟩ := value_of_unset hname
        refine ⟨e, ?_, hkind⟩
        rw [he]
        rfl

end Values
end PathExpansion

open PathExpansion
variable {w : World} {ps : List Part} {texts : List (List Char)}

theorem expandTilde_of_ne {cs : List Char} (h : cs.head? ≠ some '~') : expandTilde w cs = cs := by
  unfold expandTilde
  split
  · exact absurd rfl h
  · rfl

theorem expandPath_of_references {cs out : List Char} (hhead : cs.head? ≠ some '~')
    (h : expandReferences w cs = .ok out) :
    expandPath w (utf8 (String.ofList cs)) = .ok (String.ofList out) := by
  have hout : (if (cs.contains '$' && decide (cs.head? ≠ some '~')) = true then out
      else expandTilde w out) = out := by
    by_cases hdollar : '$' ∈ cs
    · simp [hdollar, hhead]
    · have hsame := expandReferences_of_no_dollar (w := w) hdollar
      obtain rfl := Except.ok.inj (h.symm.trans hsame)
      simp [hdollar, expandTilde_of_ne hhead]
  rw [expandPath, Utf8.decode?_utf8]
  simp only [expandText, String.toList_ofList, h]
  change Except.ok (String.ofList (if _ then out else expandTilde w out)) = _
  rw [hout]

theorem expandPath_of_references_error {cs : List Char} {e : Fault IoError}
    (h : expandReferences w cs = .error e) :
    expandPath w (utf8 (String.ofList cs)) = .error e := by
  rw [expandPath, Utf8.decode?_utf8]
  simp only [expandText, String.toList_ofList, h]
  rfl

/-- Whoever takes a path: what becomes of it is settled by one expansion. -/
structure Expands (w : World) (path : Bytes) (result : Except IoError String) : Prop where
  expanded : expandPath w path = result.mapError .error
  module : ∀ o : CommandLine.Options, o.module = path → o.modulePath w = result.mapError .error
  /-- The file that is read has the expanded path for its name, dollars and tildes included. -/
  file : ∀ place, result = .ok place → ∀ s, w.readText (utf8 place) = .ok s →
    Config.ofFile w path = (Config.ofDocument s).mapError (Fault.map Json.Error.toIoError)
  unread : ∀ place, result = .ok place → ∀ e, w.readText (utf8 place) = .error e →
    Config.ofFile w path = .error (.error e)
  failed : ∀ e, result = .error e → Config.ofFile w path = .error (.error e)

theorem expands_of_expandPath {path : Bytes} {result : Except IoError String}
    (h : expandPath w path = result.mapError .error) : Expands w path result where
  expanded := h
  module o ho := by rw [CommandLine.Options.modulePath, ho, h]
  file place hresult s hs := by
    rw [hresult] at h
    simp only [Config.ofFile, h, hs, bind, Except.bind, Except.mapError]
    cases Config.ofDocument s <;> rfl
  unread place hresult e he := by
    rw [hresult] at h
    simp only [Config.ofFile, h, he, bind, Except.bind, Except.mapError]
    rfl
  failed e hresult := by
    rw [hresult] at h
    simp only [Config.ofFile, h, bind, Except.bind, Except.mapError]

/-- References are replaced by the values as they are, all of them or none. -/
theorem paths_expand_once (w : World) (ps : List Part) (h : Readable ps)
    (hhead : (written ps).head? ≠ some '~') :
    ((∀ name braces, .reference name braces ∈ ps → ¬ Unset w name) →
      ∃ texts, List.Forall₂ (Stands w) ps texts ∧
        Expands w (utf8 (String.ofList (written ps))) (.ok (String.ofList texts.flatten))) ∧
    ((∃ name braces, .reference name braces ∈ ps ∧ Unset w name) →
      ∃ e, e.kind = .invalidInput ∧ Expands w (utf8 (String.ofList (written ps))) (.error e)) ∧
    ∀ s : String, '$' ∉ s.toList → s.toList.head? ≠ some '~' → Expands w (utf8 s) (.ok s) := by
  refine ⟨?_, ?_, ?_⟩
  · intro hset
    obtain ⟨texts, htexts⟩ := exists_texts hset
    exact ⟨texts, htexts, expands_of_expandPath
      (expandPath_of_references hhead (expandReferences_of_stands h htexts))⟩
  · intro hunset
    obtain ⟨e, he, hkind⟩ := expandReferences_of_unset h hunset
    exact ⟨e, hkind, expands_of_expandPath (expandPath_of_references_error he)⟩
  · intro s hdollar htilde
    exact expands_of_expandPath (expandPath_of_no_dollar hdollar htilde)

/-- An environment with values that look like references and like home directories. -/
def layeredShell : World where
  files := World.filesAt []
  env := [("A", utf8 "~/$\x7bB\x7d"), ("B", utf8 "b"), ("HOME", utf8 "/home/me")]
  accountHome := none

def nestedPath : List Part :=
  [.reference ['A'] true, .plain ['/'], .reference ['B'] false, .plain ['.', 'x']]

theorem readable_nestedPath : Readable nestedPath := by
  have hname (c : Char) (h : c.isAlphanum = true) : IsName [c] :=
    ⟨List.cons_ne_nil _ _, fun d hd => .inl (List.mem_singleton.mp hd ▸ h)⟩
  refine .braced (hname 'A' (by decide)) (.plain (by decide) (.bare (hname 'B' (by decide)) ?_
    (.plain (by decide) .nil)))
  intro c hc
  cases hc
  cbv

/-- The value of one variable refers to another, and stays as it is. -/
theorem nestedPath_expands_once :
    expandPath layeredShell (utf8 "$\x7bA\x7d/$B.x") = .ok "~/$\x7bB\x7d/b.x" := by
  have hset : ∀ name braces, Part.reference name braces ∈ nestedPath → ¬ Unset layeredShell name := by
    intro name braces hmem hunset
    simp only [nestedPath, List.mem_cons, Part.reference.injEq, reduceCtorEq, List.not_mem_nil,
      false_or, or_false] at hmem
    obtain ⟨rfl, -⟩ | ⟨rfl, -⟩ := hmem
    · exact hunset "~/$\x7bB\x7d" rfl
    · exact hunset "b" rfl
  obtain ⟨texts, htexts, hexpands⟩ :=
    (paths_expand_once layeredShell nestedPath readable_nestedPath (by decide)).1 hset
  have hA : Stands layeredShell (.reference ['A'] true) "~/$\x7bB\x7d".toList := .reference true rfl
  have hB : Stands layeredShell (.reference ['B'] false) "b".toList := .reference false rfl
  obtain rfl := List.right_unique_forall₂' stands_unique htexts
    (.cons hA (.cons (.plain ['/']) (.cons hB (.cons (.plain ['.', 'x']) .nil))))
  exact hexpands.expanded

end DeployTrigger
