import DeployTrigger.Kit.Source.Function
import DeployTrigger.Proofs.Kit.Forms

/-!
Functions as they are written. Tokens that are a function are its parts in a row, and what is known of
the function is what the parts are (`Function.exists_parts`).
-/
namespace DeployTrigger.Kit.Source
open Reader TypeForm

/-- Attributes in a row. -/
inductive Attributes : List Token → Prop where
  | nil : Attributes []
  | cons (joint : Bool) (content : List Token) {rest : List Token} (h : Attributes rest) :
      Attributes (.sign '#' joint :: .group .bracket content :: rest)

theorem Attributes.append {ts more : List Token} (h : Attributes ts) (h' : Attributes more) :
    Attributes (ts ++ more) := by
  induction h with
  | nil => exact h'
  | cons joint content _ ih => exact .cons joint content ih

/-- Items with commas between them; one may follow the last. -/
inductive Separated {κ : Type} (Item : κ → List Token → Prop) : List κ → List Token → Prop where
  | nil : Separated Item [] []
  | last {k : κ} {ts : List Token} (h : Item k ts) : Separated Item [k] ts
  | cons {k : κ} {ts : List Token} (joint : Bool) {ks : List κ} {rest : List Token} (h : Item k ts)
      (hrest : Separated Item ks rest) : Separated Item (k :: ks) (ts ++ .sign ',' joint :: rest)

def IsType (ts : List Token) : Prop := ∃ n plus, Reads ((formsUpTo n).type plus) ts

def IsPattern (ts : List Token) : Prop := Reads Pattern.read ts

/-- How a generic parameter is written: what stands in front tells which one it is. -/
inductive GenericParam.Spelled : GenericParam → List Token → Prop where
  | lifetime {attributes : List Token} (h : Attributes attributes) (joint : Bool) (name : String)
      (bounds : List Token) :
      Spelled .lifetime (attributes ++ .sign '\'' joint :: .word name :: bounds)
  | type {attributes : List Token} (h : Attributes attributes) {name : String}
      (hname : isIdentifier name = true ∨ name = "_") (bounds : List Token) :
      Spelled .type (attributes ++ .word name :: bounds)
  | constant {attributes : List Token} (h : Attributes attributes) (typed : List Token) :
      Spelled .constant (attributes ++ .word "const" :: typed)

/-- Generic parameters between angle brackets, or nothing. -/
inductive Generics : List GenericParam → List Token → Prop where
  | none : Generics [] []
  | some (joint joint' : Bool) {params : List GenericParam} {ts : List Token}
      (h : Separated GenericParam.Spelled params ts) :
      Generics params (.sign '<' joint :: ts ++ [.sign '>' joint'])

/-- The reference of a receiver, if it is one. -/
inductive Reference : List Token → Prop where
  | none : Reference []
  | plain (joint : Bool) : Reference [.sign '&' joint]
  | outlived (joint joint' : Bool) (name : String) :
      Reference [.sign '&' joint, .sign '\'' joint', .word name]

/-- A word that may be there. -/
def optional (w : String) (given : Bool) : List Token := if given then [.word w] else []

/-- How an input is written. -/
inductive InputForm.Spelled : InputForm → List Token → Prop where
  | receiver {attributes reference : List Token} (h : Attributes attributes)
      (hreference : Reference reference) (mutable : Bool) :
      Spelled .receiver (attributes ++ (reference ++ (optional "mut" mutable ++ [.word "self"])))
  | typed {attributes pattern type : List Token} (h : Attributes attributes)
      (hpattern : IsPattern pattern) (joint : Bool) (htype : IsType type) :
      Spelled .typed (attributes ++ (pattern ++ .sign ':' joint :: type))
  | anonymous {attributes type : List Token} (h : Attributes attributes) (htype : IsType type) :
      Spelled .anonymous (attributes ++ type)
  | dotted {attributes pattern dots : List Token} (h : Attributes attributes)
      (hpattern : IsPattern pattern) (joint : Bool) (hdots : Signs ['.', '.', '.'] dots) :
      Spelled .dotted (attributes ++ (pattern ++ .sign ':' joint :: dots))
  | dots {attributes dots : List Token} (h : Attributes attributes)
      (hdots : Signs ['.', '.', '.'] dots) : Spelled .dots (attributes ++ dots)

/-- The type behind an arrow, or nothing. -/
inductive Output : Bool → List Token → Prop where
  | none : Output false []
  | some (joint : Bool) {type : List Token} (h : IsType type) :
      Output true (.sign '-' true :: .sign '>' joint :: type)

namespace Function

/-- Who may see a function. -/
inductive Visibility : List Token → Prop where
  | inherited : Visibility []
  | crate : Visibility [.word "crate"]
  | everywhere : Visibility [.word "pub"]
  | restricted (place : List Token) : Visibility [.word "pub", .group .parenthesis place]

/-- The parts of a function, and what there is of each. -/
structure Parts where
  attributes : List Token
  visibility : List Token
  isConst : Bool
  isAsync : Bool
  isUnsafe : Bool
  interface : List Token
  name : String
  params : List GenericParam
  generics : List Token
  forms : List InputForm
  inputs : List Token
  hasOutput : Bool
  output : List Token
  conditions : List Token
  body : List Token

/-- The parts in a row. -/
def Parts.tokens (p : Parts) : List Token :=
  p.attributes ++ (p.visibility ++ (optional "const" p.isConst ++ (optional "async" p.isAsync ++
    (optional "unsafe" p.isUnsafe ++ (p.interface ++ ([.word "fn"] ++ ([.word p.name] ++
      (p.generics ++ ([.group .parenthesis p.inputs] ++ (p.output ++ (p.conditions ++
        [.group .brace p.body])))))))))))

/-- Each part is written as it has to be. -/
structure Parts.Formed (p : Parts) : Prop where
  attributes : Attributes p.attributes
  visibility : Visibility p.visibility
  interface : Interface p.interface
  name : isIdentifier p.name = true
  generics : Generics p.params p.generics
  inputs : Separated InputForm.Spelled p.forms p.inputs
  output : Output p.hasOutput p.output
  conditions : Reads Function.conditions p.conditions

/-- The function is what its parts are. -/
structure Parts.Describe (p : Parts) (f : Function) : Prop where
  name : f.name = p.name
  isAsync : f.isAsync = p.isAsync
  generics : f.generics = p.params
  isVariadic : f.isVariadic = p.forms.getLast?.any InputForm.isOpen
  inputs : f.isVariadic = false → f.inputs = p.forms.map InputForm.input
  hasOutput : f.hasOutput = p.hasOutput

end Function

section Sees
variable {ts : List Token}

theorem sees_identifier_iff :
    Sees.identifier ts = true ↔ ∃ w behind, ts = .word w :: behind ∧ isIdentifier w = true := by
  unfold Sees.identifier
  grind

theorem sees_lifetime_iff :
    Sees.lifetime ts = true ↔ ∃ joint w behind, ts = .sign '\'' joint :: .word w :: behind := by
  unfold Sees.lifetime
  grind

theorem exists_of_signs_one (ch : Char) (h : Signs [ch] ts) : ∃ joint, ts = [.sign ch joint] := by
  cases h with
  | last _ joint => exact ⟨joint, rfl⟩

theorem exists_of_signs_two (ch ch' : Char) (h : Signs [ch, ch'] ts) :
    ∃ joint, ts = [.sign ch true, .sign ch' joint] := by
  cases h with
  | cons _ h =>
    obtain ⟨joint, rfl⟩ := exists_of_signs_one ch' h
    exact ⟨joint, rfl⟩

end Sees

section Spells
variable {c : Cursor}

theorem spells_attribute : Spells (do
    if ← sees (Sees.sign "#") then
      sign "#"
      group .bracket do
        plainPath
        takeAll
      pure true
    else pure false) c fun found ts => if found then Attributes ts else ts = [] := by
  refine .bind_sees ?_
  split
  · refine .bind (spells_sign (by decide)) fun _ ts d hts _ => ?_
    obtain ⟨joint, rfl⟩ := exists_of_signs_one '#' hts
    intro found e h
    obtain ⟨_, _, hgroup, ⟨⟩⟩ := bind_run_iff.mp h
    obtain ⟨content, behind, _, hrest, _, rfl⟩ := group_eq_ok_iff.mp hgroup
    exact ⟨[.group .bracket content], hrest, .cons joint content .nil⟩
  · exact .pure rfl

theorem spells_attributes : Spells attributes c fun _ ts => Attributes ts := by
  refine .bind_rest ?_
  generalize c.rest.length + 1 = n
  induction n generalizing c with
  | zero => exact .pure .nil
  | succ n ih =>
    refine .bind spells_attribute fun found ts d hts _ => ?_
    cases found with
    | false =>
      obtain rfl : ts = [] := hts
      exact .pure .nil
    | true => exact ih.mono fun _ _ => Attributes.append hts

/-- Behind the readers for types nothing is taken. -/
theorem spells_bind_forms {β : Type} {f : Forms → Reader β} {Q : β → List Token → Prop}
    (h : ∀ n, Spells (f (formsUpTo n)) c Q) : Spells (forms >>= f) c Q := by
  intro b e he
  exact h _ b e he

theorem spells_type (n : Nat) (plus : Bool) :
    Spells ((formsUpTo n).type plus) c fun _ ts => IsType ts :=
  (((advances_formsUpTo n).type plus).spells c).mono fun _ _ h => ⟨n, plus, h⟩

theorem spells_group {δ : Delimiter} {α : Type} {inner : Reader α} :
    Spells (group δ inner) c fun _ ts => ∃ content, ts = [.group δ content] := by
  intro a e h
  obtain ⟨content, behind, _, hrest, _, rfl⟩ := group_eq_ok_iff.mp h
  exact ⟨[.group δ content], hrest, content, rfl⟩

theorem spells_visibility : Spells Function.visibility c fun _ ts => Function.Visibility ts := by
  refine .bind_rest ?_
  split
  · obtain ⟨behind, hpub⟩ := sees_word_iff.mp ‹_›
    refine .bind (.drop [.word "pub"] hpub rfl) fun _ ts d hts hrest => ?_
    subst hts
    obtain rfl : d.rest = behind := by
      rw [hpub] at hrest
      exact (List.cons.inj hrest).2.symm
    rw [hpub]
    split
    · rename_i _ content more hmore
      have hbehind : d.rest = [.group .parenthesis content] ++ more := (List.cons.inj hmore).2
      split
      · refine spells_group.mono fun _ ts h => ?_
        obtain ⟨place, rfl⟩ := h
        exact .restricted place
      · split
        · refine (Spells.drop _ hbehind rfl).mono fun _ ts h => ?_
          subst h
          exact .restricted content
        · exact .pure .everywhere
    · exact .pure .everywhere
  · split
    · rename_i hcrate
      obtain ⟨behind, hrest⟩ := sees_word_iff.mp (Bool.and_eq_true_iff.mp hcrate).1
      refine (Spells.drop [.word "crate"] hrest rfl).mono fun _ ts h => ?_
      subst h
      exact .crate
    · exact .pure .inherited

theorem spells_discard {α : Type} {x : Reader α} {P : List Token → Prop}
    (h : Spells x c fun _ ts => P ts) : Spells (discard x) c fun _ ts => P ts := by
  have hbind : Spells (x >>= fun _ => pure PUnit.unit) c fun _ ts => P ts :=
    h.bind fun _ ts _ hts _ => .pure (by rwa [List.append_nil])
  exact hbind

theorem spells_pattern : Spells Pattern.read c fun _ ts => IsPattern ts :=
  Pattern.advances_read.spells c

theorem exists_reference (ts : List Token) : ∃ reference behind, Reference reference ∧
    ts = reference ++ behind ∧ reference.length =
      if Sees.sign "&" ts then if Sees.lifetime (ts.drop 1) then 3 else 1 else 0 := by
  split
  · have hand : startsWithSigns ['&'] ts = true := ‹_›
    obtain ⟨taken, behind, rfl, htaken⟩ := signs_of_startsWithSigns hand
    obtain ⟨joint, rfl⟩ := exists_of_signs_one '&' htaken
    split
    · obtain ⟨joint', w, behind, hrest⟩ := sees_lifetime_iff.mp ‹_›
      exact ⟨_, behind, .outlived joint joint' w, congrArg _ hrest, rfl⟩
    · exact ⟨_, behind, .plain joint, rfl, rfl⟩
  · exact ⟨[], ts, .none, rfl, rfl⟩

theorem exists_optional (w : String) (ts : List Token) : ∃ given behind,
    ts = optional w given ++ behind ∧ (optional w given).length = if Sees.word w ts then 1 else 0 := by
  split
  · obtain ⟨behind, rfl⟩ := sees_word_iff.mp ‹_›
    exact ⟨true, behind, rfl, rfl⟩
  · exact ⟨false, ts, rfl, rfl⟩

theorem exists_receiver {ts : List Token} {width : Nat}
    (h : Function.receiverWidth? ts = some width) :
    ∃ reference mutable behind, Reference reference ∧
      (reference ++ (optional "mut" mutable ++ [Token.word "self"])).length = width ∧
      ts = (reference ++ (optional "mut" mutable ++ [Token.word "self"])) ++ behind := by
  obtain ⟨reference, behind, hreference, rfl, hlength⟩ := exists_reference ts
  obtain ⟨mutable, behind, rfl, hmutable⟩ := exists_optional "mut" behind
  rw [Function.receiverWidth?, ← hlength] at h
  rw [List.drop_left, ← hmutable, ← List.append_assoc, ← List.length_append, List.drop_left] at h
  split at h
  · rename_i hself
    obtain ⟨behind, rfl⟩ := sees_word_iff.mp (Bool.and_eq_true_iff.mp hself).1
    refine ⟨reference, mutable, behind, hreference, ?_, by simp⟩
    rw [← List.append_assoc, List.length_append]
    exact Option.some.inj h
  · cases h

theorem advances_outlived (last : List Token → Bool) : Advances (Function.outlived last) := by
  refine .bind (.sign? _) fun _ _ => .ite (.loop (.bind (.sees _) fun _ _ => ?_)) (.pure _)
  exact .ite (.pure _) (.bind .lifetime fun _ _ => .sign? _)

theorem advances_parameterBounds (n : Nat) (last : List Token → Bool) :
    Advances (Function.parameterBounds (formsUpTo n).bound last) := by
  refine .bind (.sign? _) fun _ _ => .ite ?_ (.pure _)
  exact advances_boundsUntil (advances_formsUpTo n).bound last

theorem spells_lifetime :
    Spells lifetime c fun _ ts => ∃ joint w, ts = [.sign '\'' joint, .word w] := by
  refine .bind_sees ?_
  split
  · obtain ⟨joint, w, behind, hrest⟩ := sees_lifetime_iff.mp ‹_›
    refine (Spells.drop [.sign '\'' joint, .word w] hrest rfl).mono fun _ _ h => ?_
    exact ⟨joint, w, h⟩
  · exact .fail _

theorem spells_genericParam (n : Nat) :
    Spells (Function.genericParam (formsUpTo n)) c GenericParam.Spelled := by
  have htype := (advances_formsUpTo n).type true
  refine .bind spells_attributes fun _ attributes d hattributes _ => .bind_rest ?_
  split
  · obtain ⟨joint, w, behind, hrest⟩ := sees_lifetime_iff.mp ‹_›
    refine .bind spells_lifetime fun _ ts _ hts _ => ?_
    obtain ⟨joint, w, rfl⟩ := hts
    refine .bind ((advances_outlived _).spells_any _) fun _ bounds _ _ _ => .pure ?_
    exact .lifetime hattributes joint w (bounds ++ [])
  split
  · obtain ⟨w, behind, hrest, hw⟩ := sees_identifier_iff.mp ‹_›
    refine .bind (.drop [.word w] hrest rfl) fun _ ts _ hts _ => ?_
    subst hts
    refine .bind ((advances_parameterBounds n _).spells_any _) fun _ bounds _ _ _ => ?_
    refine .bind ((Advances.sign? "=").spells_any _) fun _ mark _ _ _ => ?_
    dsimp only
    split
    · refine .bind ((Advances.discard htype).spells_any _) fun _ _ _ _ _ => .pure ?_
      exact .type hattributes (.inl hw) _
    · exact .pure (.type hattributes (.inl hw) _)
  split
  · obtain ⟨behind, hrest⟩ := sees_word_iff.mp ‹_›
    refine .bind (.drop [.word "const"] hrest rfl) fun _ ts _ hts _ => ?_
    subst hts
    refine .bind ((Advances.discard .identifier).spells_any _) fun _ _ _ _ _ => ?_
    refine .bind ((Advances.sign ":").spells_any _) fun _ _ _ _ _ => ?_
    refine .bind ((Advances.discard htype).spells_any _) fun _ _ _ _ _ => ?_
    refine .bind ((Advances.sign? "=").spells_any _) fun _ _ _ _ _ => ?_
    dsimp only
    split
    · refine .bind (advances_constantArgument.spells_any _) fun _ _ _ _ _ => .pure ?_
      exact .constant hattributes _
    · exact .pure (.constant hattributes _)
  split
  · obtain ⟨behind, hrest⟩ := sees_word_iff.mp ‹_›
    refine .bind (.drop [.word "_"] hrest rfl) fun _ ts _ hts _ => .pure ?_
    subst hts
    exact .type hattributes (.inr rfl) []
  · exact .fail _

theorem spells_genericsFrom (n m : Nat) (out : List GenericParam) :
    Spells (Function.genericsFrom (formsUpTo n) out m) c fun params ts =>
      ∃ more, params = out ++ more ∧ Separated GenericParam.Spelled more ts := by
  induction m generalizing out c with
  | zero => exact .pure ⟨[], (List.append_nil out).symm, .nil⟩
  | succ m ih =>
    refine .bind_sees ?_
    split
    · exact .pure ⟨[], (List.append_nil out).symm, .nil⟩
    refine .bind (spells_genericParam n) fun param ts d hts _ => .bind_sees ?_
    split
    · refine .pure ⟨[param], rfl, ?_⟩
      rw [List.append_nil]
      exact .last hts
    refine .bind (spells_sign (by decide)) fun _ comma _ hcomma _ => ?_
    obtain ⟨joint, rfl⟩ := exists_of_signs_one ',' hcomma
    refine (ih _).mono fun params more h => ?_
    obtain ⟨rest, rfl, hrest⟩ := h
    exact ⟨param :: rest, List.append_assoc _ _ _, .cons joint hts hrest⟩

theorem spells_genericList : Spells Function.genericList c Generics := by
  refine .bind (spells_sign? (by decide)) fun found ts d hts _ => ?_
  cases found with
  | false =>
    obtain rfl : ts = [] := hts
    exact .pure .none
  | true =>
    obtain ⟨joint, rfl⟩ := exists_of_signs_one '<' hts
    refine spells_bind_forms fun n => .bind_rest ?_
    refine .bind (spells_genericsFrom _ _ _) fun params ts' d' hparams _ => ?_
    refine .bind (spells_sign (by decide)) fun _ closing _ hclosing _ => .pure ?_
    obtain ⟨joint', rfl⟩ := exists_of_signs_one '>' hclosing
    obtain ⟨_, rfl, hparams⟩ := hparams
    rw [List.append_nil]
    exact .some joint joint' hparams

theorem spells_typedInput (n : Nat) {attributes : List Token} (h : Attributes attributes) :
    Spells (Function.typedInput (formsUpTo n)) c fun form ts => form.Spelled (attributes ++ ts) := by
  refine .bind_rest ?_
  split
  · refine .bind (spells_discard (spells_type n true)) fun _ type _ htype _ => .pure ?_
    rw [List.append_nil]
    exact .anonymous h htype
  refine .bind spells_pattern fun _ pattern _ hpattern _ => ?_
  refine .bind (spells_sign (by decide)) fun _ colon _ hcolon _ => ?_
  obtain ⟨joint, rfl⟩ := exists_of_signs_one ':' hcolon
  refine .bind (spells_sign? (by decide)) fun found dots _ hdots _ => ?_
  cases found with
  | true =>
    refine .pure ?_
    rw [List.append_nil]
    exact .dotted h hpattern joint hdots
  | false =>
    obtain rfl : dots = [] := hdots
    refine .bind (spells_discard (spells_type n true)) fun _ type _ htype _ => .pure ?_
    rw [List.append_nil]
    exact .typed h hpattern joint htype

theorem spells_inputBehind (n : Nat) (out : List InputForm) :
    Spells (Function.inputBehind (formsUpTo n) out) c InputForm.Spelled := by
  refine .bind spells_attributes fun _ attributes _ hattributes _ => ?_
  refine .bind (spells_sign? (by decide)) fun found dots _ hdots _ => ?_
  cases found with
  | true =>
    refine .pure ?_
    rw [List.append_nil]
    exact .dots hattributes hdots
  | false =>
    obtain rfl : dots = [] := hdots
    refine .bind spells_attributes fun _ more d hmore _ => .bind_rest ?_
    have hall := hattributes.append hmore
    cases hwidth : Function.receiverWidth? d.rest with
    | none =>
      refine (spells_typedInput n hall).mono fun form ts h => ?_
      rwa [List.append_assoc] at h
    | some width =>
      obtain ⟨reference, mutable, behind, hreference, hlength, hrest⟩ := exists_receiver hwidth
      refine .bind (.drop _ hrest hlength) fun _ ts _ hts _ => ?_
      subst hts
      have hreceiver : InputForm.receiver.Spelled (attributes ++ ([] ++ (more ++
          (reference ++ (optional "mut" mutable ++ [Token.word "self"]) ++ [])))) := by
        rw [List.append_nil, List.nil_append, ← List.append_assoc]
        exact .receiver hall hreference mutable
      -- A receiver behind other inputs is refused.
      dsimp only
      split
      · exact .bind (P := fun _ _ => False) (.throw _) fun _ _ _ h => h.elim
      split
      · exact .bind (P := fun _ _ => False) (.throw _) fun _ _ _ h => h.elim
      · exact .pure hreceiver

theorem spells_inputsFrom (n m : Nat) (out : Function.Inputs) :
    Spells (Function.inputsFrom (formsUpTo n) out m) c fun read ts =>
      ∃ more, read.forms = out.forms ++ more ∧ Separated InputForm.Spelled more ts := by
  induction m generalizing out c with
  | zero => exact .pure ⟨[], (List.append_nil _).symm, .nil⟩
  | succ m ih =>
    refine .bind_atEnd ?_
    split
    · exact .pure ⟨[], (List.append_nil _).symm, .nil⟩
    refine .bind (spells_inputBehind n out.forms) fun form ts _ hts _ => .bind_atEnd ?_
    split
    · refine .pure ⟨[form], rfl, ?_⟩
      rw [List.append_nil]
      exact .last hts
    refine .bind (spells_sign (by decide)) fun _ comma _ hcomma _ => ?_
    obtain ⟨joint, rfl⟩ := exists_of_signs_one ',' hcomma
    refine (ih _).mono fun read more h => ?_
    obtain ⟨rest, hread, hrest⟩ := h
    exact ⟨form :: rest, hread.trans (List.append_assoc _ _ _), .cons joint hts hrest⟩

theorem spells_output (n : Nat) : Spells (output (formsUpTo n) true) c Output := by
  refine .bind (spells_sign? (by decide)) fun found arrow _ harrow _ => ?_
  cases found with
  | false =>
    obtain rfl : arrow = [] := harrow
    exact .pure .none
  | true =>
    obtain ⟨joint, rfl⟩ := exists_of_signs_two '-' '>' harrow
    refine .bind (spells_type n true) fun _ type _ htype _ => .pure ?_
    rw [List.append_nil]
    exact .some joint htype

end Spells

theorem advances_condition (n : Nat) : Advances (Function.condition (formsUpTo n)) := by
  have hforms := advances_formsUpTo n
  refine .bind .rest fun _ _ => .ite (.bind .lifetime fun _ _ => advances_outlived _) ?_
  refine .bind advances_boundLifetimes fun _ _ => .bind (.discard (hforms.type _)) fun _ _ => ?_
  exact .bind (.sign _) fun _ _ => advances_boundsUntil hforms.bound _

theorem advances_conditions : Advances Function.conditions := by
  refine .bind (.bind .rest fun _ _ => .pure _) fun forms h => ?_
  obtain ⟨c, _, ⟨⟩⟩ := h
  refine .bind (.word? _) fun _ _ => .ite (.loop (.bind (.sees _) fun _ _ => ?_)) (.pure _)
  exact .ite (.pure _) (.bind (advances_condition _) fun _ _ => .sign? _)

namespace Function

/-- Three dots at the very end are the only ones that are no input. -/
theorem Inputs.proper_of_not_open {read : Inputs}
    (h : read.forms.getLast?.any InputForm.isOpen = false) : read.proper = read.forms := by
  refine if_neg fun hdots => ?_
  have hlast := (Bool.and_eq_true_iff.mp hdots).1
  rw [of_decide_eq_true hlast] at h
  cases h

/-- Between the parentheses there are the inputs and nothing else. -/
theorem exists_of_inputList {c e : Cursor} {inputs : List Input} {variadic : Bool}
    (h : inputList c = .ok ((inputs, variadic), e)) (hleft : e.leftover = false) :
    ∃ content, ∃ read : Inputs, c.rest = [.group .parenthesis content] ++ e.rest ∧
      Separated InputForm.Spelled read.forms content ∧
      inputs = read.proper.map InputForm.input ∧
      variadic = read.forms.getLast?.any InputForm.isOpen := by
  obtain ⟨_, _, ⟨⟩, h⟩ := bind_run_iff.mp h
  obtain ⟨read, _, hgroup, ⟨⟩⟩ := bind_run_iff.mp h
  obtain ⟨content, behind, d, hrest, hd, rfl⟩ := group_eq_ok_iff.mp hgroup
  obtain ⟨_, _, ⟨⟩, hd⟩ := bind_run_iff.mp hd
  obtain ⟨taken, htaken, more, hmore, hseparated⟩ := spells_inputsFrom _ _ _ _ _ hd
  obtain ⟨-, hnil⟩ := Bool.or_eq_false_iff.mp hleft
  have hend : d.rest = [] := by simpa using hnil
  refine ⟨content, read, hrest, ?_, rfl, rfl⟩
  dsimp only at htaken
  rw [hmore, htaken, hend, List.append_nil]
  exact hseparated

/-- A function in source text is its parts. -/
theorem exists_parts {ts : List Token} {f : Function} (h : ofTokens ts = .ok f) :
    ∃ p : Parts, p.tokens = ts ∧ p.Formed ∧ p.Describe f := by
  have h := run_eq_ok_iff.mp h
  obtain ⟨_, c₁, h₁, h⟩ := bind_run_iff.mp h
  obtain ⟨attributes, hrest₁, hattributes⟩ := spells_attributes _ _ h₁
  obtain ⟨_, c₂, h₂, h⟩ := bind_run_iff.mp h
  obtain ⟨visibility, hrest₂, hvisibility⟩ := spells_visibility _ _ h₂
  obtain ⟨isConst, c₃, h₃, h⟩ := bind_run_iff.mp h
  obtain ⟨_, hrest₃, rfl⟩ := spells_word? _ _ _ h₃
  obtain ⟨isAsync, c₄, h₄, h⟩ := bind_run_iff.mp h
  obtain ⟨_, hrest₄, rfl⟩ := spells_word? _ _ _ h₄
  obtain ⟨isUnsafe, c₅, h₅, h⟩ := bind_run_iff.mp h
  obtain ⟨_, hrest₅, rfl⟩ := spells_word? _ _ _ h₅
  obtain ⟨_, c₆, h₆, h⟩ := bind_run_iff.mp h
  obtain ⟨interface, hrest₆, hinterface⟩ := spells_interface _ _ h₆
  obtain ⟨_, c₇, h₇, h⟩ := bind_run_iff.mp h
  obtain ⟨_, hrest₇, rfl⟩ := spells_word _ _ _ h₇
  obtain ⟨name, c₈, h₈, h⟩ := bind_run_iff.mp h
  obtain ⟨_, hrest₈, rfl, hname⟩ := spells_identifier _ _ h₈
  obtain ⟨params, c₉, h₉, h⟩ := bind_run_iff.mp h
  obtain ⟨generics, hrest₉, hgenerics⟩ := spells_genericList _ _ h₉
  obtain ⟨⟨inputs, isVariadic⟩, d, hinputs, h⟩ := bind_run_iff.mp h
  obtain ⟨_, _, ⟨⟩, h⟩ := bind_run_iff.mp h
  obtain ⟨hasOutput, d₁, houtput, h⟩ := bind_run_iff.mp h
  obtain ⟨output, hrest, houtput'⟩ := spells_output _ _ _ houtput
  obtain ⟨_, d₂, hconditions, h⟩ := bind_run_iff.mp h
  obtain ⟨conditions, hrest', hconditions'⟩ := advances_conditions.spells _ _ _ hconditions
  obtain ⟨_, _, hbody, ⟨⟩⟩ := bind_run_iff.mp h
  obtain ⟨body, _, d₃, hrest'', _, hend⟩ := group_eq_ok_iff.mp hbody
  obtain ⟨rfl, -⟩ := Cursor.mk.inj hend
  -- Nothing is left over in the end, so nothing was behind the inputs.
  have hreaches := ((advances_output (advances_formsUpTo _) true _ _ _ houtput).trans
    (advances_conditions _ _ _ hconditions)).trans (Advances.group .takeAll _ _ _ hbody)
  have hleft : d.leftover = false := Bool.eq_false_iff.mpr fun h =>
    absurd (hreaches.leftover h) Bool.false_ne_true
  obtain ⟨content, read, hrest₁₀, hforms, rfl, rfl⟩ := exists_of_inputList hinputs hleft
  refine ⟨⟨attributes, visibility, isConst, isAsync, isUnsafe, interface, name, params, generics,
    read.forms, content, hasOutput, output, conditions, body⟩, ?_, ?_, ?_⟩
  · dsimp only at hrest₁
    rw [hrest₁, hrest₂, hrest₃, hrest₄, hrest₅, hrest₆, hrest₇, hrest₈, hrest₉, hrest₁₀, hrest, hrest',
      hrest'']
    rfl
  · exact ⟨hattributes, hvisibility, hinterface, hname, hgenerics, hforms, houtput', hconditions'⟩
  · exact ⟨rfl, rfl, rfl, rfl, fun h => congrArg _ (Inputs.proper_of_not_open h), rfl⟩

end Function
end DeployTrigger.Kit.Source
