import DeployTrigger.Kit.Source.Token.Lexer
import DeployTrigger.Proofs.Except
import DeployTrigger.Proofs.Numeral

/-!
Words in source text. A word that the lexer finds, or that a text names, is spelled as words are
(`IsWord`), and wherever such a word stands in front of a blank the lexer finds it again.
-/
namespace DeployTrigger.Kit.Source

/-- A text that is a word, maybe with the mark of raw ones in front. -/
inductive IsWord : String → Prop where
  | plain {c : Char} {rest : List Char} (hc : isWordStart c = true)
      (hrest : ∀ d ∈ rest, isWordPart d = true) : IsWord (String.ofList (c :: rest))
  | raw {c : Char} {rest : List Char} (hc : isWordStart c = true)
      (hrest : ∀ d ∈ rest, isWordPart d = true)
      (hraw : neverRaw.contains (String.ofList (c :: rest)) = false) :
      IsWord (rawMark ++ String.ofList (c :: rest))

theorem IsWord.toList_ne_nil {w : String} (h : IsWord w) : w.toList ≠ [] := by
  cases h <;> simp [rawMark]

theorem exists_of_checkWord {text : String} (h : checkWord text = .ok ()) :
    ∃ c rest, text = String.ofList (c :: rest) ∧ isWordStart c = true ∧
      ∀ d ∈ rest, isWordPart d = true := by
  unfold checkWord at h
  cases htext : text.toList with
  | nil =>
    rw [htext] at h
    cases h
  | cons c rest =>
    rw [htext] at h
    dsimp only at h
    split at h
    · cases h
    split at h
    · rename_i hword
      obtain ⟨hc, hrest⟩ := Bool.and_eq_true_iff.mp hword
      exact ⟨c, rest, htext ▸ String.ofList_toList.symm, hc, List.all_eq_true.mp hrest⟩
    · cases h

theorem isWord_of_readWord {text w : String} (h : readWord text = .ok w) : IsWord w := by
  unfold readWord at h
  split at h
  · rename_i bare _
    obtain ⟨_, hcheck, h⟩ := bind_eq_ok_iff.mp h
    obtain ⟨c, rest, hbare, hc, hrest⟩ := exists_of_checkWord hcheck
    rw [hbare] at h
    cases hraw : neverRaw.contains (String.ofList (c :: rest)) with
    | true =>
      rw [hraw] at h
      cases h
    | false =>
      rw [hraw] at h
      cases h
      exact .raw hc hrest hraw
  · obtain ⟨_, hcheck, ⟨⟩⟩ := bind_eq_ok_iff.mp h
    obtain ⟨c, rest, rfl, hc, hrest⟩ := exists_of_checkWord hcheck
    exact .plain hc hrest

namespace Lexeme

theorem isWord_of_anyWord? {cs rest : List Char} {w : String} (h : anyWord? cs = some (w, rest)) :
    IsWord w := by
  have hrest (ds : List Char) : ∀ d ∈ ds.takeWhile isWordPart, isWordPart d = true :=
    List.all_eq_true.mp List.all_takeWhile
  unfold anyWord? at h
  split at h
  · dsimp only at h
    split at h
    · rename_i hword
      obtain ⟨hc, hraw⟩ := Bool.and_eq_true_iff.mp hword
      cases h
      exact .raw hc (hrest _) (by simpa using hraw)
    · cases h
  · split at h
    · cases h
      exact .plain ‹_› (hrest _)
    · cases h
  · cases h

end Lexeme

section Start
variable {c : Char}

/-- The code points of the characters that separate tokens. -/
def blanks : List Nat := [0x9, 0xA, 0xB, 0xC, 0xD, 0x20, 0x85, 0xA0, 0x1680, 0x2000, 0x2001, 0x2002,
  0x2003, 0x2004, 0x2005, 0x2006, 0x2007, 0x2008, 0x2009, 0x200A, 0x200E, 0x200F, 0x2028, 0x2029, 0x202F,
  0x205F, 0x3000]

theorem mem_blanks_of_isBlank (h : Lexeme.isBlank c = true) : c.toNat ∈ blanks := by
  simp only [Lexeme.isBlank, Bool.or_eq_true, decide_eq_true_eq, CharSet.contains, CharSet.blank,
    CharSet.inside, Bool.not_false, Bool.not_true, Bool.if_false_left, Bool.if_true_left,
    Bool.and_eq_true, Bool.not_eq_true', decide_eq_false_iff_not, Bool.or_false] at h
  simp only [blanks, List.mem_cons, List.not_mem_nil, or_false]
  omega

/-- A character is none of those that something does not hold of. -/
theorem not_mem_of_all_not {p : Char → Bool} (hc : p c = true) {cs : List Char}
    (hcs : cs.all (!p ·) = true) : c ∉ cs := by
  intro hmem
  have hnot := List.all_eq_true.mp hcs c hmem
  rw [hc] at hnot
  cases hnot

variable (hc : isWordStart c = true)
include hc

theorem isBlank_of_isWordStart : Lexeme.isBlank c = false := by
  refine Bool.eq_false_iff.mpr fun hblank => ?_
  have hmem := List.mem_map_of_mem (f := Char.ofNat) (mem_blanks_of_isBlank hblank)
  rw [Char.ofNat_toNat] at hmem
  exact not_mem_of_all_not hc (by decide +kernel) hmem

theorem isDigit_of_isWordStart : c.isDigit = false := by
  refine Bool.eq_false_iff.mpr fun hdigit => ?_
  have hrange := toNat_of_isDigit hdigit
  have hmem : c.toNat ∈ List.range' 48 10 := List.mem_range'_1.mpr (by omega)
  have hmem := List.mem_map_of_mem (f := Char.ofNat) hmem
  rw [Char.ofNat_toNat] at hmem
  exact not_mem_of_all_not hc (by decide) hmem

end Start

theorem checkWord_of_start {c : Char} {rest : List Char} (hc : isWordStart c = true)
    (hrest : ∀ d ∈ rest, isWordPart d = true) : checkWord (String.ofList (c :: rest)) = .ok () := by
  have hword : (isWordStart c && rest.all isWordPart) = true :=
    Bool.and_eq_true_iff.mpr ⟨hc, List.all_eq_true.mpr hrest⟩
  rw [checkWord, String.toList_ofList]
  dsimp only
  rw [List.all_cons, isDigit_of_isWordStart hc, Bool.false_and, if_neg Bool.false_ne_true,
    if_pos hword]

/-- A word names itself. -/
theorem readWord_of_isWord {w : String} (hw : IsWord w) : readWord w = .ok w := by
  cases hw with
  | @plain c rest hc hrest =>
    have hcheck := checkWord_of_start hc hrest
    have hmark : ∀ bare, c :: rest ≠ 'r' :: '#' :: bare := by
      rintro bare ⟨⟩
      exact absurd (hrest '#' List.mem_cons_self) (by decide)
    unfold readWord
    rw [String.toList_ofList]
    split
    · exact absurd ‹_› (hmark _)
    · rw [hcheck]
      rfl
  | @raw c rest hc hrest hraw =>
    have hchars : (rawMark ++ String.ofList (c :: rest)).toList = 'r' :: '#' :: c :: rest := by
      rw [String.toList_append, String.toList_ofList]
      rfl
    unfold readWord
    split
    · rename_i bare hbare
      rw [hchars] at hbare
      obtain rfl : bare = c :: rest := by cases hbare; rfl
      dsimp only
      rw [checkWord_of_start hc hrest, hraw]
      rfl
    · rename_i hplain
      exact absurd hchars (hplain _)

/-- What can stand behind the first character of a word that a blank follows. -/
def Onwards (cs : List Char) : Prop :=
  ∃ rest more, (∀ d ∈ rest, isWordPart d = true) ∧ cs = rest ++ ' ' :: more

theorem Onwards.exists_cons {cs : List Char} (h : Onwards cs) :
    ∃ d ds, cs = d :: ds ∧ d ∉ ['"', '#', '\''] ∧ (isWordPart d = true → Onwards ds) := by
  obtain ⟨rest, more, hrest, rfl⟩ := h
  cases rest with
  | nil => exact ⟨' ', more, rfl, by decide, fun h => absurd h (by decide)⟩
  | cons d rest =>
    obtain ⟨hd, hrest⟩ := List.forall_mem_cons.mp hrest
    refine ⟨d, rest ++ ' ' :: more, rfl, not_mem_of_all_not hd (by decide), fun _ => ?_⟩
    exact ⟨rest, more, hrest, rfl⟩

namespace Lexeme
open Quotation
variable {c : Char} {cs : List Char}

theorem raw_of_onwards (k : Kind) (h : Onwards cs) : raw k cs = none := by
  obtain ⟨d, ds, rfl, hd, _⟩ := h.exists_cons
  have hhash : (d :: ds).takeWhile (· = '#') = [] := by
    rw [List.takeWhile_cons_of_neg (by grind)]
  unfold raw
  rw [hhash]
  grind

theorem numeral_of_isWordStart (hc : isWordStart c = true) : Numeral.read (c :: cs) = none := by
  have hdigit := isDigit_of_isWordStart hc
  have hfractional : Numeral.fractional (c :: cs) = none := by
    unfold Numeral.fractional
    grind
  have hdigits : Numeral.digits 10 false (c :: cs) = none := by
    unfold Numeral.digits hexDigit?
    grind
  have hwhole : Numeral.whole (c :: cs) = none := by
    have hnot : c ∉ ['0'] := not_mem_of_all_not hc (by decide)
    unfold Numeral.whole
    grind
  rw [Numeral.read, hfractional, hwhole]
  rfl

theorem delimiter?_of_isWordStart (hc : isWordStart c = true) : delimiter? c = none := by
  have hnot : c ∉ ['(', ')', '[', ']', '\x7b', '\x7d'] := not_mem_of_all_not hc (by decide)
  unfold delimiter?
  grind

theorem comment?_of_isWordStart (hc : isWordStart c = true) : comment? (c :: cs) = none := by
  have hnot : c ∉ ['/'] := not_mem_of_all_not hc (by decide)
  unfold comment?
  grind

theorem sign?_of_isWordStart (hc : isWordStart c = true) : sign? (c :: cs) = none := by
  have hnot : c ∉ signs := not_mem_of_all_not hc (by decide)
  have hquote : c ∉ ['\'', '/'] := not_mem_of_all_not hc (by decide)
  unfold sign? startsWithSign
  grind

theorem literal?_of_onwards (hc : isWordStart c = true) (h : Onwards cs) :
    literal? (c :: cs) = none := by
  have hnot : c ∉ ['"', '\''] := not_mem_of_all_not hc (by decide)
  obtain ⟨d, ds, rfl, hd, hds⟩ := h.exists_cons
  have hr : isWordPart 'r' = true := by decide
  have hraw := fun k => raw_of_onwards k h
  have hraw' : d = 'r' → ∀ k, raw k ds = none := fun heq k => raw_of_onwards k (hds (heq ▸ hr))
  have hnumeral : Numeral.read (c :: d :: ds) = none := numeral_of_isWordStart hc
  unfold literal?
  grind [ofText, ofOther, ofZeroEnded]

/-- A quote or a hash sign comes second or third in whatever only a literal can begin with. -/
theorem literalStarts_eq_false {d : Char} {ds : List Char} (hd : d ∉ ['"', '\''])
    (hds : d = '#' ∨ d = 'r' → ∀ e ∈ ds.head?, e ∉ ['"', '#']) :
    literalStarts.any (·.isPrefixOf (c :: d :: ds)) = false := by
  refine List.any_eq_false.mpr fun start hstart hprefix => ?_
  obtain ⟨behind, hbehind⟩ := List.isPrefixOf_iff_prefix.mp hprefix
  simp only [literalStarts, List.map_cons, List.map_nil, String.reduceToList, List.mem_cons,
    List.not_mem_nil, or_false] at hstart
  obtain rfl | rfl | rfl | rfl | rfl | rfl | rfl | rfl | rfl | rfl := hstart <;> cases hbehind <;>
    simp at hd hds

theorem literalStarts_of_onwards (h : Onwards cs) :
    literalStarts.any (·.isPrefixOf (c :: cs)) = false := by
  obtain ⟨d, ds, rfl, hd, hds⟩ := h.exists_cons
  refine literalStarts_eq_false (by grind) ?_
  rintro (rfl | rfl) e he
  · exact absurd (by decide) hd
  · obtain ⟨f, fs, rfl, hf, -⟩ := (hds (by decide)).exists_cons
    grind

theorem takeWhile_onwards {rest : List Char} (more : List Char)
    (hrest : ∀ d ∈ rest, isWordPart d = true) :
    (rest ++ ' ' :: more).takeWhile isWordPart = rest ∧
      (rest ++ ' ' :: more).dropWhile isWordPart = ' ' :: more := by
  have hblank : isWordPart ' ' = false := by decide
  constructor
  · rw [List.takeWhile_append_of_pos hrest, List.takeWhile_cons_of_neg (by simp [hblank]),
      List.append_nil]
  · rw [List.dropWhile_append_of_pos hrest, List.dropWhile_cons_of_neg (by simp [hblank])]

section Next
variable {rest : List Char} (hc : isWordStart c = true) (hrest : ∀ d ∈ rest, isWordPart d = true)
  (more : List Char)
include hc hrest

theorem next?_of_plain : next? c (rest ++ ' ' :: more) =
    some ([.token (.word (String.ofList (c :: rest)))], ' ' :: more) := by
  have honwards : Onwards (rest ++ ' ' :: more) := ⟨rest, more, hrest, rfl⟩
  obtain ⟨htake, hdrop⟩ := takeWhile_onwards more hrest
  have hany : anyWord? (c :: (rest ++ ' ' :: more)) =
      some (String.ofList (c :: rest), ' ' :: more) := by
    obtain ⟨d, ds, hcons, hd, hds⟩ := honwards.exists_cons
    rw [hcons] at htake hdrop ⊢
    unfold anyWord?
    grind
  have hword : word? (c :: (rest ++ ' ' :: more)) =
      some (.token (.word (String.ofList (c :: rest))), ' ' :: more) := by
    rw [word?, literalStarts_of_onwards honwards, hany]
    rfl
  rw [next?, isBlank_of_isWordStart hc, delimiter?_of_isWordStart hc, comment?_of_isWordStart hc,
    literal?_of_onwards hc honwards, sign?_of_isWordStart hc, hword]
  rfl

theorem next?_of_raw (hraw : neverRaw.contains (String.ofList (c :: rest)) = false) :
    next? 'r' ('#' :: c :: (rest ++ ' ' :: more)) =
      some ([.token (.word (rawMark ++ String.ofList (c :: rest)))], ' ' :: more) := by
  have hnot : c ∉ ['"', '#'] := not_mem_of_all_not hc (by decide)
  have hr : isWordStart 'r' = true := by decide
  obtain ⟨htake, hdrop⟩ := takeWhile_onwards more hrest
  have hany : anyWord? ('r' :: '#' :: c :: (rest ++ ' ' :: more)) =
      some (rawMark ++ String.ofList (c :: rest), ' ' :: more) := by
    unfold anyWord?
    grind
  have hstarts : literalStarts.any
      (·.isPrefixOf ('r' :: '#' :: c :: (rest ++ ' ' :: more))) = false :=
    literalStarts_eq_false (by decide) fun _ _ hd => Option.mem_some.mp hd ▸ hnot
  have hword : word? ('r' :: '#' :: c :: (rest ++ ' ' :: more)) =
      some (.token (.word (rawMark ++ String.ofList (c :: rest))), ' ' :: more) := by
    rw [word?, hstarts, hany]
    rfl
  have hliteral : literal? ('r' :: '#' :: c :: (rest ++ ' ' :: more)) = none := by
    have hhash : ('#' :: c :: (rest ++ ' ' :: more)).takeWhile (· = '#') = ['#'] := by
      rw [List.takeWhile_cons_of_pos (by decide), List.takeWhile_cons_of_neg (by grind)]
    have hraw : raw textKind ('#' :: c :: (rest ++ ' ' :: more)) = none := by
      unfold raw
      rw [hhash]
      grind
    rw [literal?, hraw]
    rfl
  rw [next?, isBlank_of_isWordStart hr, delimiter?_of_isWordStart hr, comment?_of_isWordStart hr,
    hliteral, sign?_of_isWordStart hr, hword]
  rfl

end Next

/-- In front of a blank the lexer finds a word. -/
theorem next?_of_isWord {w : String} (hw : IsWord w) (more : List Char) :
    ∃ c cs, w.toList ++ ' ' :: more = c :: cs ∧
      next? c cs = some ([.token (.word w)], ' ' :: more) := by
  cases hw with
  | @plain c rest hc hrest =>
    refine ⟨c, rest ++ ' ' :: more, ?_, next?_of_plain hc hrest more⟩
    rw [String.toList_ofList]
    rfl
  | @raw c rest hc hrest hraw =>
    refine ⟨'r', '#' :: c :: (rest ++ ' ' :: more), ?_, next?_of_raw hc hrest more hraw⟩
    rw [String.toList_append, String.toList_ofList]
    rfl

/-- Every word among the lexemes is one. -/
def WordsIn (ls : List Lexeme) : Prop := ∀ w, .token (.word w) ∈ ls → IsWord w

theorem wordsIn_nil : WordsIn [] := fun _ h => absurd h List.not_mem_nil

theorem wordsIn_documentation (inner : Bool) (text : List Char) :
    WordsIn (documentation inner text) := by
  intro w hw
  obtain rfl : w = "doc" := by cases inner <;> simpa [documentation] using hw
  have hrest : ['o', 'c'].all isWordPart = true := by decide
  exact .plain (by decide) (List.all_eq_true.mp hrest)

theorem wordsIn_documented {inner : Bool} {read : Option (List Char × List Char)}
    {found : List Lexeme} {rest : List Char} (h : documented inner read = some (found, rest)) :
    WordsIn found := by
  obtain ⟨⟨text, behind⟩, _, h⟩ := Option.bind_eq_some_iff.mp h
  dsimp only at h
  split at h
  · cases h
    exact wordsIn_documentation inner text
  · cases h

theorem wordsIn_comment? {cs rest : List Char} {found : List Lexeme}
    (h : comment? cs = some (found, rest)) : WordsIn found := by
  unfold comment? at h
  have hnil : ∀ {read : Option (List Char × List Char)},
      (read.map fun r => (([] : List Lexeme), r.2)) = some (found, rest) → WordsIn found := by
    intro read h
    obtain ⟨_, _, ⟨⟩⟩ := Option.map_eq_some_iff.mp h
    exact wordsIn_nil
  split at h
  · exact wordsIn_documented h
  · cases h
    exact wordsIn_nil
  · exact wordsIn_documented h
  · cases h
    exact wordsIn_nil
  · exact wordsIn_documented h
  · cases h
    exact wordsIn_nil
  · exact hnil h
  · exact wordsIn_documented h
  · exact hnil h
  · cases h

theorem delimiter?_ne_word (c : Char) (w : String) : delimiter? c ≠ some (.token (.word w)) := by
  unfold delimiter?
  grind

theorem literal?_ne_word (cs : List Char) (w : String) (rest : List Char) :
    literal? cs ≠ some (.token (.word w), rest) := by
  intro h
  unfold literal? at h
  -- Each kind of literal makes a literal.
  split at h <;> obtain ⟨_, _, ⟨⟩⟩ := Option.map_eq_some_iff.mp h

theorem sign?_ne_word (cs : List Char) (w : String) (rest : List Char) :
    sign? cs ≠ some (.token (.word w), rest) := by
  intro h
  unfold sign? at h
  split at h
  · obtain ⟨⟨_, behind⟩, _, h⟩ := Option.bind_eq_some_iff.mp h
    grind
  · grind
  · cases h

theorem isWord_of_word? {cs rest : List Char} {w : String}
    (h : word? cs = some (.token (.word w), rest)) : IsWord w := by
  unfold word? at h
  split at h
  · cases h
  · obtain ⟨_, hany, ⟨⟩⟩ := Option.map_eq_some_iff.mp h
    exact isWord_of_anyWord? hany

theorem wordsIn_next? {c : Char} {cs rest : List Char} {found : List Lexeme}
    (h : next? c cs = some (found, rest)) : WordsIn found := by
  unfold next? at h
  split at h
  · cases h
    exact wordsIn_nil
  split at h
  · rename_i l hl
    cases h
    intro w hw
    obtain rfl := List.mem_singleton.mp hw
    exact absurd hl (delimiter?_ne_word c w)
  obtain h | ⟨_, h⟩ := Option.or_eq_some_iff.mp h
  · exact wordsIn_comment? h
  obtain ⟨⟨l, behind⟩, hl, ⟨⟩⟩ := Option.map_eq_some_iff.mp h
  intro w hw
  obtain rfl := List.mem_singleton.mp hw
  obtain hl | ⟨_, hl⟩ := Option.or_eq_some_iff.mp hl
  · obtain hl | ⟨_, hl⟩ := Option.or_eq_some_iff.mp hl
    · exact absurd hl (literal?_ne_word _ w behind)
    · exact absurd hl (sign?_ne_word _ w behind)
  · exact isWord_of_word? hl

theorem wordsIn_readFrom {out ls : List Lexeme} {n : Nat} {cs : List Char} (hout : WordsIn out)
    (h : readFrom out n cs = some ls) : WordsIn ls := by
  fun_induction readFrom out n cs with
  | case1 out =>
    cases h
    intro w hw
    exact hout w (List.mem_reverse.mp hw)
  | case2 => cases h
  | case3 out n c cs found rest hnext ih =>
    refine ih (fun w hw => ?_) h
    obtain hw | hw := List.mem_append.mp hw
    · exact wordsIn_next? hnext w (List.mem_reverse.mp hw)
    · exact hout w hw
  | case4 => cases h

/-- The texts of words in tokens are words; what stands in groups is not looked at. -/
def AreWords (ts : List Token) : Prop := ∀ w, .word w ∈ ts → IsWord w

theorem areWords_cons {t : Token} {ts : List Token} (ht : ∀ w, t = .word w → IsWord w)
    (hts : AreWords ts) : AreWords (t :: ts) := by
  intro w hw
  obtain hw | hw := List.mem_cons.mp hw
  · exact ht w hw.symm
  · exact hts w hw

/-- The words in front of a group that is under way come back behind it. -/
theorem areWords_nest {stack : Stack} {out ts : List Token} {ls : List Lexeme}
    (hstack : ∀ p ∈ stack, AreWords p.2) (hout : AreWords out) (hls : WordsIn ls)
    (h : nest stack out ls = some ts) : AreWords ts := by
  fun_induction nest stack out ls with
  | case1 stack out =>
    cases h
    intro w hw
    exact hout w (List.mem_reverse.mp hw)
  | case2 => cases h
  | case3 stack out t ls ih =>
    have hrest : WordsIn ls := fun w hw => hls w (List.mem_cons_of_mem _ hw)
    refine ih hstack (areWords_cons (fun w hw => hls w ?_) hout) hrest h
    exact List.mem_cons.mpr (.inl (congrArg _ hw.symm))
  | case4 stack out d ls ih =>
    have hrest : WordsIn ls := fun w hw => hls w (List.mem_cons_of_mem _ hw)
    exact ih (List.forall_mem_cons.mpr ⟨hout, hstack⟩) (fun _ hw => absurd hw List.not_mem_nil) hrest h
  | case5 out ls d outer stack ih =>
    have hrest : WordsIn ls := fun w hw => hls w (List.mem_cons_of_mem _ hw)
    obtain ⟨houter, hstack⟩ := List.forall_mem_cons.mp hstack
    refine ih hstack (areWords_cons (fun w hw => ?_) houter) hrest h
    cases hw
  | case6 => cases h
  | case7 => cases h

end Lexeme

/-- Without a mark in front the whole text is read. -/
theorem tokens?_eq {s : String} {c : Char} (hhead : s.toList.head? = some c)
    (hc : c.toNat ≠ 0xFEFF) :
    tokens? s = (Lexeme.readFrom [] s.toList.length s.toList).bind (Lexeme.nest [] []) := by
  obtain ⟨rest, hs⟩ := List.head?_eq_some_iff.mp hhead
  unfold tokens?
  rw [hs]
  dsimp only
  rw [if_neg hc]
  rfl

theorem isWord_of_tokens? {s w : String} {ts : List Token} (h : tokens? s = some ts)
    (hw : .word w ∈ ts) : IsWord w := by
  obtain ⟨ls, hls, hnest⟩ := Option.bind_eq_some_iff.mp h
  have hwords := Lexeme.wordsIn_readFrom Lexeme.wordsIn_nil hls
  exact Lexeme.areWords_nest (fun _ hp => absurd hp List.not_mem_nil)
    (fun _ hw => absurd hw List.not_mem_nil) hwords hnest w hw

end DeployTrigger.Kit.Source
