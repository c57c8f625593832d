import DeployTrigger.Proofs.Json.Members

/-!
The grammar of documents: what a text says, told without the readers, and that they read it. A form
stands in front of a rest (`Derives`). The reader for a form takes just that form (`taken_of_derives`),
so every document of the grammar holds its value (`holds_of_derives`).
-/
namespace DeployTrigger.Json

/-- A value, or what stands between the brackets of one. The rest of items or of members starts with a
comma, if there are any left. -/
inductive Form where
  | value (v : Value)
  | items (vs : List Value)
  | moreItems (vs : List Value)
  | members (ms : List (String × Value))
  | moreMembers (ms : List (String × Value))

/-- A form in front of a rest, with brackets nested at most so often. Items and members end in front of
the closing bracket. Of a number only the first character is told, for its reader alone knows which
numbers are in range. -/
inductive Derives : Nat → Form → List Char → List Char → Prop where
  | null (depth : Nat) (rest : List Char) :
      Derives depth (.value .null) ('n' :: 'u' :: 'l' :: 'l' :: rest) rest
  | yes (depth : Nat) (rest : List Char) :
      Derives depth (.value (.bool true)) ('t' :: 'r' :: 'u' :: 'e' :: rest) rest
  | no (depth : Nat) (rest : List Char) :
      Derives depth (.value (.bool false)) ('f' :: 'a' :: 'l' :: 's' :: 'e' :: rest) rest
  | number (depth : Nat) {c : Char} {cs rest : List Char} {n : Number}
      (hc : c = '-' ∨ c.isDigit = true) (hlength : rest.length ≤ cs.length)
      (h : Takes Reader.number (c :: cs) n rest) : Derives depth (.value (.number n)) (c :: cs) rest
  | text (depth : Nat) {s : String} {cs rest : List Char} (h : Text.Letters cs s.toList rest) :
      Derives depth (.value (.text s)) ('"' :: cs) rest
  | array {depth : Nat} {vs : List Value} {cs rest : List Char}
      (h : Derives depth (.items vs) cs (']' :: rest)) :
      Derives (depth + 1) (.value (.array vs)) ('[' :: cs) rest
  | object {depth : Nat} {ms : List (String × Value)} {cs rest : List Char}
      (h : Derives depth (.members ms) cs ('\x7d' :: rest)) :
      Derives (depth + 1) (.value (.object ms)) ('\x7b' :: cs) rest
  | noItems (depth : Nat) {cs rest : List Char} (h : Blanks cs (']' :: rest)) :
      Derives depth (.items []) cs (']' :: rest)
  | items {depth : Nat} {v : Value} {vs : List Value} {cs first behind rest : List Char}
      (hb : Blanks cs first) (h : Derives depth (.value v) first behind)
      (hmore : Derives depth (.moreItems vs) behind rest) : Derives depth (.items (v :: vs)) cs rest
  | endItems (depth : Nat) {cs rest : List Char} (h : Blanks cs (']' :: rest)) :
      Derives depth (.moreItems []) cs (']' :: rest)
  | moreItems {depth : Nat} {v : Value} {vs : List Value} {cs mid next behind rest : List Char}
      (hcomma : Blanks cs (',' :: mid)) (hb : Blanks mid next)
      (h : Derives depth (.value v) next behind) (hmore : Derives depth (.moreItems vs) behind rest) :
      Derives depth (.moreItems (v :: vs)) cs rest
  | noMembers (depth : Nat) {cs rest : List Char} (h : Blanks cs ('\x7d' :: rest)) :
      Derives depth (.members []) cs ('\x7d' :: rest)
  | members {depth : Nat} {k : String} {v : Value} {ms : List (String × Value)}
      {cs key colon value next behind rest : List Char} (hb : Blanks cs ('"' :: key))
      (hkey : Text.Letters key k.toList colon) (hcolon : Blanks colon (':' :: value))
      (hvalue : Blanks value next) (h : Derives depth (.value v) next behind)
      (hmore : Derives depth (.moreMembers ms) behind rest) :
      Derives depth (.members ((k, v) :: ms)) cs rest
  | endMembers (depth : Nat) {cs rest : List Char} (h : Blanks cs ('\x7d' :: rest)) :
      Derives depth (.moreMembers []) cs ('\x7d' :: rest)
  | moreMembers {depth : Nat} {k : String} {v : Value} {ms : List (String × Value)}
      {cs mid key colon value next behind rest : List Char} (hcomma : Blanks cs (',' :: mid))
      (hb : Blanks mid ('"' :: key)) (hkey : Text.Letters key k.toList colon)
      (hcolon : Blanks colon (':' :: value)) (hvalue : Blanks value next)
      (h : Derives depth (.value v) next behind)
      (hmore : Derives depth (.moreMembers ms) behind rest) :
      Derives depth (.moreMembers ((k, v) :: ms)) cs rest

section Lengths
variable {depth n : Nat} {form : Form} {c : Char} {cs s rest : List Char}

/-- How often a reader of the form goes round. -/
def Form.length : Form → Nat
  | .value _ => 1
  | .items vs | .moreItems vs => vs.length
  | .members ms | .moreMembers ms => ms.length

theorem Text.FourHex.length_lt (h : FourHex cs n rest) : rest.length < cs.length := by
  cases h
  simp only [List.length_cons]
  omega

theorem Text.Letter.length_lt (h : Letter cs c rest) : rest.length < cs.length := by
  cases h with
  | plain | short => simp only [List.length_cons]; omega
  | code h =>
    have hlt := h.length_lt
    simp only [List.length_cons]
    omega
  | pair h _ h' =>
    have hlt := h.length_lt
    have hlt' := h'.length_lt
    simp only [List.length_cons] at hlt ⊢
    omega

theorem Text.Letters.length_lt (h : Letters cs s rest) : rest.length < cs.length := by
  induction h with
  | nil => simp
  | cons h _ ih => exact Nat.lt_trans ih h.length_lt

/-- No form is longer than its text. -/
theorem Derives.length_le (h : Derives depth form cs rest) :
    form.length + rest.length ≤ cs.length := by
  induction h with
  | null | yes | no => simp only [Form.length, List.length_cons]; omega
  | number _ _ hlength => simp only [Form.length, List.length_cons]; omega
  | text _ h =>
    have hlt := h.length_lt
    simp only [Form.length, List.length_cons]
    omega
  | array _ ih | object _ ih =>
    simp only [Form.length, List.length_cons] at ih ⊢
    omega
  | noItems _ h | endItems _ h | noMembers _ h | endMembers _ h =>
    have hle := h.length_le
    simp only [Form.length, List.length_nil]
    omega
  | items hb _ _ ih ihmore =>
    have hle := hb.length_le
    simp only [Form.length, List.length_cons] at ih ihmore ⊢
    omega
  | moreItems hcomma hb _ _ ih ihmore =>
    have hle := hcomma.length_le
    have hle' := hb.length_le
    simp only [Form.length, List.length_cons] at hle ih ihmore ⊢
    omega
  | members hb hkey hcolon hvalue _ _ ih ihmore =>
    have hle := hb.length_le
    have hlt := hkey.length_lt
    have hle' := hcolon.length_le
    have hle'' := hvalue.length_le
    simp only [Form.length, List.length_cons] at hle hle' ih ihmore ⊢
    omega
  | moreMembers hcomma hb hkey hcolon hvalue _ _ ih ihmore =>
    have hle := hcomma.length_le
    have hle' := hb.length_le
    have hlt := hkey.length_lt
    have hle'' := hcolon.length_le
    have hle''' := hvalue.length_le
    simp only [Form.length, List.length_cons] at hle hle' hle'' ih ihmore ⊢
    omega

end Lengths

section Readers
variable {depth : Nat} {form : Form} {v : Value} {c : Char}
  {cs first mid colon behind rest : List Char}

/-- What the reader for a form does in front of it. Values are also read from the blanks before them. -/
def Form.Taken (depth : Nat) (cs rest : List Char) : Form → Prop
  | .value v => ∀ before, Blanks before cs → Takes (Reader.value depth) before v rest
  | .items vs => ∀ fuel > vs.length, Takes (Reader.items (Reader.value depth) [] fuel) cs vs rest
  | .moreItems vs => ∀ out ≠ [], ∀ fuel > vs.length,
      Takes (Reader.items (Reader.value depth) out fuel) cs (out.reverse ++ vs) rest
  | .members ms => ∀ fuel > ms.length, Takes (Reader.members (Reader.value depth) [] fuel) cs ms rest
  | .moreMembers ms => ∀ out ≠ [], ∀ fuel > ms.length,
      Takes (Reader.members (Reader.value depth) out fuel) cs (out.reverse ++ ms) rest

/-- A value starts at once, and not with a closing bracket. -/
theorem Derives.head (h : Derives depth (.value v) cs rest) :
    ∃ c more, cs = c :: more ∧ isBlank c = false ∧ c ≠ ']' := by
  cases h with
  | null | yes | no | text | array | object => exact ⟨_, _, rfl, by decide, by decide⟩
  | number _ hc =>
    refine ⟨_, _, rfl, ?_⟩
    obtain rfl | hc := hc
    · exact ⟨by decide, by decide⟩
    · exact ⟨isBlank_of_isDigit hc, ne_of_isDigit hc (by decide)⟩

section Items
variable {vs out : List Value} {item : Reader Value} {fuel : Nat}

theorem Takes.items_end (h : Blanks cs (']' :: rest)) :
    Takes (Reader.items item out (fuel + 1)) cs out.reverse (']' :: rest) :=
  (Takes.peekToken h (by decide)).bind (Takes.pure _ _)

theorem Takes.items_first (hb : Blanks cs (c :: first)) (hc : isBlank c = false) (hend : c ≠ ']')
    (h : Takes item (c :: first) v behind) (hmore : Takes (Reader.items item [v] fuel) behind vs rest) :
    Takes (Reader.items item [] (fuel + 1)) cs vs rest := by
  refine (Takes.peekToken hb hc).bind ?_
  dsimp only
  rw [if_neg hend]
  exact h.bind hmore

theorem Takes.items_next (hout : out ≠ []) (hcomma : Blanks cs (',' :: mid))
    (hb : Blanks mid (c :: first)) (hc : isBlank c = false) (hend : c ≠ ']')
    (h : Takes item (c :: first) v behind)
    (hmore : Takes (Reader.items item (v :: out) fuel) behind vs rest) :
    Takes (Reader.items item out (fuel + 1)) cs vs rest := by
  refine (Takes.peekToken hcomma (by decide)).bind ?_
  have hnonempty : ¬ out.isEmpty = true := by simpa using hout
  dsimp only
  rw [if_neg (by decide), if_neg hnonempty, if_pos rfl]
  refine (Takes.advance _ _).bind ((Takes.peekToken hb hc).bind ?_)
  split
  · rename_i heq
    exact absurd (Option.some.inj heq) hend
  · rename_i heq
    cases heq
  · exact h.bind hmore

end Items

section Members
variable {ms out : List (String × Value)} {item : Reader Value} {fuel : Nat}

theorem Takes.members_end (h : Blanks cs ('\x7d' :: rest)) :
    Takes (Reader.members item out (fuel + 1)) cs out.reverse ('\x7d' :: rest) :=
  (Takes.nextKey_brace _ h).bind (Takes.pure _ _)

theorem Takes.members_next {k : String} (hkey : Takes (Reader.nextKey out.isEmpty) cs (some k) colon)
    (hcolon : Blanks colon (':' :: mid)) (h : Takes item mid v behind)
    (hmore : Takes (Reader.members item ((k, v) :: out) fuel) behind ms rest) :
    Takes (Reader.members item out (fuel + 1)) cs ms rest :=
  hkey.bind ((Takes.colon hcolon).bind (h.bind hmore))

end Members

/-- Whatever the grammar derives is taken by its reader. By induction on the derivation: the rest of
items and of members is taken behind whatever was read before. -/
theorem taken_of_derives (h : Derives depth form cs rest) : form.Taken depth cs rest := by
  induction h with
  | null depth rest =>
    intro before hb
    exact Takes.scalar hb (by decide) fun _ _ =>
      (Takes.advance _ _).bind ((Takes.word ['u', 'l', 'l'] rest).bind (Takes.pure _ _))
  | yes depth rest =>
    intro before hb
    exact Takes.scalar hb (by decide) fun _ _ =>
      (Takes.advance _ _).bind ((Takes.word ['r', 'u', 'e'] rest).bind (Takes.pure _ _))
  | no depth rest =>
    intro before hb
    exact Takes.scalar hb (by decide) fun _ _ =>
      (Takes.advance _ _).bind ((Takes.word ['a', 'l', 's', 'e'] rest).bind (Takes.pure _ _))
  | number depth hc hlength h =>
    intro before hb
    obtain ⟨_, _, heq, hblank, _⟩ := (Derives.number depth hc hlength h).head
    obtain ⟨rfl, rfl⟩ := List.cons.inj heq
    exact Takes.scalar hb hblank fun _ _ => Takes.valueFrom_number hc h
  | text depth h =>
    intro before hb
    exact Takes.scalar hb (by decide) fun _ _ => (Takes.letters h).map
  | @array depth vs cs rest h ih =>
    intro before hb
    have hlength := h.length_le
    simp only [Form.length, List.length_cons] at hlength
    rw [Reader.value]
    refine Takes.valueWith hb (by decide) ((Takes.advance _ _).bind (Takes.get fun p => ?_))
    exact (ih (cs.length + 1) (by omega)).bind ((Takes.advance _ _).bind (Takes.pure _ _))
  | @object depth ms cs rest h ih =>
    intro before hb
    have hlength := h.length_le
    simp only [Form.length, List.length_cons] at hlength
    rw [Reader.value]
    refine Takes.valueWith hb (by decide) ((Takes.advance _ _).bind (Takes.get fun p => ?_))
    exact (ih (cs.length + 1) (by omega)).bind ((Takes.advance _ _).bind (Takes.pure _ _))
  | noItems depth h =>
    intro fuel hfuel
    obtain ⟨fuel, rfl⟩ := Nat.exists_eq_add_of_le' hfuel
    exact Takes.items_end h
  | items hb h _ ih ihmore =>
    intro fuel hfuel
    obtain ⟨fuel, rfl⟩ := Nat.exists_eq_add_of_le' (Nat.one_le_of_lt hfuel)
    obtain ⟨c, more, rfl, hc, hend⟩ := h.head
    exact Takes.items_first hb hc hend (ih _ (.nil _))
      (ihmore _ (List.cons_ne_nil _ _) fuel (Nat.lt_of_succ_lt_succ hfuel))
  | endItems depth h =>
    intro out _ fuel hfuel
    obtain ⟨fuel, rfl⟩ := Nat.exists_eq_add_of_le' hfuel
    rw [List.append_nil]
    exact Takes.items_end h
  | @moreItems _ v _ _ _ _ _ _ hcomma hb h _ ih ihmore =>
    intro out hout fuel hfuel
    obtain ⟨fuel, rfl⟩ := Nat.exists_eq_add_of_le' (Nat.one_le_of_lt hfuel)
    obtain ⟨c, more, rfl, hc, hend⟩ := h.head
    have htail := ihmore (v :: out) (List.cons_ne_nil _ _) fuel (Nat.lt_of_succ_lt_succ hfuel)
    rw [List.reverse_cons, List.append_assoc] at htail
    exact Takes.items_next hout hcomma hb hc hend (ih _ (.nil _)) htail
  | noMembers depth h =>
    intro fuel hfuel
    obtain ⟨fuel, rfl⟩ := Nat.exists_eq_add_of_le' hfuel
    exact Takes.members_end h
  | members hb hkey hcolon hvalue _ _ ih ihmore =>
    intro fuel hfuel
    obtain ⟨fuel, rfl⟩ := Nat.exists_eq_add_of_le' (Nat.one_le_of_lt hfuel)
    exact Takes.members_next (Takes.nextKey_first hb hkey) hcolon (ih _ hvalue)
      (ihmore _ (List.cons_ne_nil _ _) fuel (Nat.lt_of_succ_lt_succ hfuel))
  | endMembers depth h =>
    intro out _ fuel hfuel
    obtain ⟨fuel, rfl⟩ := Nat.exists_eq_add_of_le' hfuel
    rw [List.append_nil]
    exact Takes.members_end h
  | @moreMembers _ k v _ _ _ _ _ _ _ _ _ hcomma hb hkey hcolon hvalue _ _ ih ihmore =>
    intro out hout fuel hfuel
    obtain ⟨fuel, rfl⟩ := Nat.exists_eq_add_of_le' (Nat.one_le_of_lt hfuel)
    have htail := ihmore ((k, v) :: out) (List.cons_ne_nil _ _) fuel (Nat.lt_of_succ_lt_succ hfuel)
    rw [List.reverse_cons, List.append_assoc] at htail
    have hnonempty : out.isEmpty = false := by simpa using hout
    refine Takes.members_next ?_ hcolon (ih _ hvalue) htail
    rw [hnonempty]
    exact Takes.nextKey hcomma hb hkey

/-- A document of the grammar holds its value. -/
theorem holds_of_derives {s : String} (hb : Blanks s.toList first)
    (h : Derives (maxDepth + 1) (.value v) first behind) (hend : Blanks behind []) : Holds s v :=
  document_of_takes (taken_of_derives h s.toList hb) hend

end Readers
end DeployTrigger.Json
