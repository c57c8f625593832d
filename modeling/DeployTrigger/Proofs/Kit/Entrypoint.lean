import DeployTrigger.Proofs.Kit.Parts
import DeployTrigger.Proofs.Kit.Wrapper

/-!
The attribute over all items. The parts of a function decide about it as an entrypoint, and the exported
function has nothing of it but its name. That name is the one thing that nobody compares with the name of
the exported function.
-/
namespace DeployTrigger.Kit
open Source

section Naming

/-- The text in the attribute names the exported function, which has the usual name if there is none. -/
inductive ExportNamed : String → String → Prop where
  | usual {args : String} (h : tokens? args = some []) : ExportNamed args defaultExport
  | given {args text name : String} (h : tokens? args = some [.literal (.text text)])
      (hname : readWord text = .ok name) : ExportNamed args name

theorem exportNamed_iff {args name : String} : ExportNamed args name ↔
    ∃ ts, tokens? args = some ts ∧ Entrypoint.exportName ts = .ok name := by
  constructor
  · rintro (⟨h⟩ | ⟨h, hname⟩)
    · exact ⟨_, h, rfl⟩
    · refine ⟨_, h, ?_⟩
      rw [Entrypoint.exportName, hname]
      rfl
  · rintro ⟨ts, h, hname⟩
    unfold Entrypoint.exportName at hname
    split at hname
    · cases hname
      exact .usual h
    · split at hname
      · obtain rfl := List.isEmpty_iff.mp ‹_›
        exact .given h (mapError_eq_ok_iff.mp hname)
      · cases hname
    · cases hname
    · cases hname

theorem ExportNamed.isWord {args name : String} (h : ExportNamed args name) : IsWord name := by
  cases h with
  | usual => exact isWord_of_readWord (rfl : readWord defaultExport = _)
  | given _ hname => exact isWord_of_readWord hname

/-- Characters that mean something else than themselves between quotes. -/
def escaped : List Char := ['"', '\\', '\r']

theorem readFrom_of_not_escaped {cs : List Char} (h : ∀ c ∈ cs, c ∉ escaped) (out rest : List Char) :
    Quotation.readFrom Quotation.textKind .plain out (cs ++ '"' :: rest) =
      some (String.ofList (out.reverse ++ cs), rest) := by
  induction cs generalizing out with
  | nil =>
    rw [List.append_nil]
    rfl
  | cons c cs ih =>
    obtain ⟨hc, hcs⟩ := List.forall_mem_cons.mp h
    have hplain : Quotation.plain Quotation.textKind c = some (.plain, some c) := by
      unfold Quotation.plain Quotation.accept
      grind [escaped, Quotation.textKind]
    have hquote : ¬(c = '"' && Quotation.mayClose .plain) = true := by grind [escaped]
    rw [List.cons_append, Quotation.readFrom, if_neg hquote, Quotation.step, hplain]
    dsimp only
    rw [Option.toList_some, List.singleton_append, ih hcs, List.reverse_cons, List.append_assoc]
    rfl

theorem not_escaped_of_isWord {w : String} (hw : IsWord w) : ∀ c ∈ w.toList, c ∉ escaped := by
  have hbare {c : Char} {rest : List Char} (hc : isWordStart c = true)
      (hrest : ∀ d ∈ rest, isWordPart d = true) : ∀ d ∈ c :: rest, d ∉ escaped :=
    List.forall_mem_cons.mpr
      ⟨not_mem_of_all_not hc (by decide), fun d hd => not_mem_of_all_not (hrest d hd) (by decide)⟩
  cases hw with
  | plain hc hrest =>
    rw [String.toList_ofList]
    exact hbare hc hrest
  | raw hc hrest =>
    have hmark : ∀ c ∈ rawMark.toList, c ∉ escaped := by simp [rawMark, escaped]
    rw [String.toList_append, String.toList_ofList]
    exact List.forall_mem_append.mpr ⟨hmark, hbare hc hrest⟩

def inQuotes (w : String) : String := "\"" ++ w ++ "\""

theorem tokens?_inQuotes {w : String} (hw : IsWord w) :
    tokens? (inQuotes w) = some [.literal (.text w)] := by
  have hchars : (inQuotes w).toList = '"' :: (w.toList ++ ['"']) := by
    rw [inQuotes, String.toList_append, String.toList_append]
    rfl
  have hliteral : Lexeme.literal? ('"' :: (w.toList ++ ['"'])) =
      some (.token (.literal (.text w)), []) := by
    rw [Lexeme.literal?, readFrom_of_not_escaped (not_escaped_of_isWord hw), List.reverse_nil,
      List.nil_append, String.ofList_toList]
    rfl
  have hnext : Lexeme.next? '"' (w.toList ++ ['"']) = some ([.token (.literal (.text w))], []) := by
    have hcomment : Lexeme.comment? ('"' :: (w.toList ++ ['"'])) = none := rfl
    rw [Lexeme.next?, hcomment, hliteral]
    rfl
  have hhead : (inQuotes w).toList.head? = some '"' := by
    rw [hchars]
    rfl
  rw [tokens?_eq hhead (by decide), hchars, List.length_cons, Lexeme.readFrom, hnext]
  dsimp only
  rw [Lexeme.readFrom]
  rfl

/-- Any word can be named. -/
theorem exportNamed_inQuotes {w : String} (hw : IsWord w) : ExportNamed (inQuotes w) w :=
  .given (tokens?_inQuotes hw) (readWord_of_isWord hw)

end Naming

/-- What an entrypoint has to be: a function of one pattern with a type that gives something. -/
def Source.Function.Parts.Fits (p : Function.Parts) : Prop :=
  p.forms.map InputForm.input = [.typed] ∧ p.hasOutput = true

/-- What an entrypoint cannot be. -/
def Source.Function.Parts.AsksMore (p : Function.Parts) : Prop :=
  p.isAsync = true ∨ p.params ≠ []

theorem Source.Function.Parts.word_name_mem (p : Function.Parts) : .word p.name ∈ p.tokens := by
  simp [Function.Parts.tokens]

namespace Entrypoint

section Objection
variable {f : Function}

theorem signatureMessage_ne_genericMessage : signatureMessage ≠ genericMessage := by decide

theorem objection?_eq_signature_iff :
    objection? f = some signatureMessage ↔ ¬(f.inputs = [.typed] ∧ f.hasOutput = true) := by
  have hne := signatureMessage_ne_genericMessage
  unfold objection?
  grind

theorem objection?_eq_generic_iff : objection? f = some genericMessage ↔
    (f.inputs = [.typed] ∧ f.hasOutput = true) ∧ (f.isAsync = true ∨ f.generics ≠ []) := by
  have hne := signatureMessage_ne_genericMessage
  unfold objection?
  grind

theorem objection?_eq_none_iff : objection? f = none ↔
    (f.inputs = [.typed] ∧ f.hasOutput = true) ∧ ¬(f.isAsync = true ∨ f.generics ≠ []) := by
  unfold objection?
  grind

end Objection

/-- Why an item is no entrypoint. -/
def objected (message : String) : Except Rejection Entrypoint :=
  .error (.flawed (.notAllowed message))

section Reading
variable {args item exported : String} {f : Function} {e : Entrypoint}

theorem ofFunction_eq_objected_iff (h : isIdentifier exported = true) {message : String} :
    ofFunction f exported = objected message ↔ objection? f = some message := by
  unfold ofFunction objected
  grind

theorem ofFunction_eq_ok_iff : ofFunction f exported = .ok e ↔
    objection? f = none ∧ isIdentifier exported = true ∧ e = ⟨f.name, exported⟩ := by
  unfold ofFunction
  grind

theorem ofText_eq {ts : List Token} (hargs : ExportNamed args exported) (hts : tokens? item = some ts)
    (hf : Function.ofTokens ts = .ok f) : ofText args item = ofFunction f exported := by
  obtain ⟨as, has, hname⟩ := exportNamed_iff.mp hargs
  unfold ofText
  rw [has, hts]
  dsimp only
  rw [ofTokens, hname, hf]
  rfl

theorem exists_of_ofText (h : ofText args item = .ok e) : ∃ ts f, ExportNamed args e.exported ∧
    tokens? item = some ts ∧ Function.ofTokens ts = .ok f ∧ ofFunction f e.exported = .ok e := by
  unfold ofText at h
  split at h
  · rename_i as ts has hts
    obtain ⟨exported, hname, h⟩ := bind_eq_ok_iff.mp h
    obtain ⟨f, hf, h⟩ := bind_eq_ok_iff.mp h
    obtain ⟨-, -, rfl⟩ := ofFunction_eq_ok_iff.mp h
    exact ⟨ts, f, exportNamed_iff.mpr ⟨as, has, hname⟩, hts, mapError_eq_ok_iff.mp hf, h⟩
  · cases h

end Reading

/-- The annotated function and a new one behind it, which is nothing but these tokens: a function of the
right form that calls the annotated one with the timestamp. -/
structure Wraps (e : Entrypoint) (annotated exported : String) : Prop where
  functions : e.functions = [annotated, exported]
  tokens : tokens? e.exportText = some (exportTokens annotated exported)
  form : Function.ofTokens (exportTokens annotated exported) = .ok (exportFunction exported)
  calls : calls (exportTokens annotated exported) = [annotated]

theorem wraps_of_isWord {annotated exported : String} (hannotated : IsWord annotated)
    (hexported : IsWord exported) (h : isIdentifier exported = true) :
    Wraps ⟨annotated, exported⟩ annotated exported where
  functions := rfl
  tokens := tokens?_exportText hannotated hexported
  form := ofTokens_exportTokens annotated h
  calls := calls_exportTokens annotated exported

section Short

/-- A short function of the right form. -/
def shortTokens (name : String) : List Token := [.word "fn", .word name,
  .group .parenthesis [.word "ts", .sign ':' false, .word "u64"], .sign '-' true, .sign '>' false,
  .word "Result", .sign '<' false, .word "String", .sign ',' false, .word "ModuleError",
  .sign '>' false, .group .brace [.word "body", .group .parenthesis []]]

theorem ofTokens_shortTokens {name : String} (h : isIdentifier name = true) :
    Function.ofTokens (shortTokens name) = .ok (exportFunction name) :=
  Function.ofTokens_eq_ok ((shortTokens name).drop 2) rfl h rfl

theorem tokens?_deploy : tokens? "fn deploy(ts: u64) -> Result<String, ModuleError> \x7b body() \x7d" =
    some (shortTokens "deploy") := by rfl

theorem tokens?_deploy_contract :
    tokens? "fn deploy_contract(ts: u64) -> Result<String, ModuleError> \x7b body() \x7d" =
      some (shortTokens "deploy_contract") := by rfl

theorem ofText_shortTokens {item name : String} (hts : tokens? item = some (shortTokens name))
    (h : isIdentifier name = true) : ofText "" item = .ok ⟨name, "deploy_contract"⟩ := by
  rw [ofText_eq (.usual rfl) hts (ofTokens_shortTokens h)]
  rfl

end Short

/-- The parts of a function decide what the attribute says about it, the signature before everything
else, and a function that nothing is said about goes into the exported one by its name alone. -/
theorem wrapped_exactly {args item exported : String} {ts : List Token} {f : Function}
    (hargs : ExportNamed args exported) (hexported : isIdentifier exported = true)
    (hts : tokens? item = some ts) (hf : Function.ofTokens ts = .ok f)
    (hclosed : f.isVariadic = false) :
    ∃ p : Function.Parts, p.tokens = ts ∧ p.Formed ∧ p.Describe f ∧
      (ofText args item = objected signatureMessage ↔ ¬p.Fits) ∧
      (ofText args item = objected genericMessage ↔ p.Fits ∧ p.AsksMore) ∧
      (p.Fits → ¬p.AsksMore → ∃ e, ofText args item = .ok e ∧ e.Wraps p.name exported) := by
  obtain ⟨p, rfl, hformed, hf'⟩ := Function.exists_parts hf
  have hname := isWord_of_tokens? hts p.word_name_mem
  have hshape : f.inputs = [.typed] ∧ f.hasOutput = true ↔ p.Fits := by
    rw [hf'.inputs hclosed, hf'.hasOutput, Function.Parts.Fits]
  have hmore : f.isAsync = true ∨ f.generics ≠ [] ↔ p.AsksMore := by
    rw [hf'.isAsync, hf'.generics, Function.Parts.AsksMore]
  refine ⟨p, rfl, hformed, hf', ?_, ?_, fun hfits hless => ?_⟩
  · rw [ofText_eq hargs hts hf, ofFunction_eq_objected_iff hexported, objection?_eq_signature_iff,
      hshape]
  · rw [ofText_eq hargs hts hf, ofFunction_eq_objected_iff hexported, objection?_eq_generic_iff,
      hshape, hmore]
  · refine ⟨⟨p.name, exported⟩, ?_, wraps_of_isWord hname hargs.isWord hexported⟩
    rw [ofText_eq hargs hts hf, ofFunction_eq_ok_iff, hf'.name]
    exact ⟨objection?_eq_none_iff.mpr ⟨hshape.mpr hfits, mt hmore.mp hless⟩, hexported, rfl⟩

theorem deploy_is_wrapped : ∃ e,
    ofText "" "fn deploy(ts: u64) -> Result<String, ModuleError> \x7b body() \x7d" = .ok e ∧
      e.Wraps "deploy" "deploy_contract" := by
  obtain ⟨p, -, -, hf, -, -, hwraps⟩ := wrapped_exactly (.usual (rfl : tokens? "" = _)) rfl
    tokens?_deploy (ofTokens_shortTokens rfl) rfl
  have hname : p.name = "deploy" := hf.name.symm
  have hfits : p.Fits := ⟨(hf.inputs rfl).symm, hf.hasOutput.symm⟩
  rw [hname] at hwraps
  refine hwraps hfits ?_
  rintro (hasync | hgeneric)
  · exact absurd (hf.isAsync.trans hasync) Bool.false_ne_true
  · exact hgeneric hf.generics.symm

/-- The name without the mark of raw ones. -/
def bareName (w : String) : String :=
  match w.toList with
  | 'r' :: '#' :: bare => String.ofList bare
  | _ => w

/-- The two functions have different names, and the exported one is not what it calls. -/
structure Apart (e : Entrypoint) : Prop where
  names : (e.functions.map bareName).Nodup
  calls : ∀ ts, tokens? e.exportText = some ts →
    ∀ called ∈ calls ts, bareName called ≠ bareName e.exported

theorem Wraps.apart_iff {e : Entrypoint} {annotated exported : String} (h : e.Wraps annotated exported) :
    e.Apart ↔ bareName annotated ≠ bareName exported := by
  obtain ⟨rfl, rfl⟩ : e.annotated = annotated ∧ e.exported = exported := by
    have hfunctions : [e.annotated, e.exported] = [annotated, exported] := h.functions
    simpa using hfunctions
  constructor
  · intro hapart
    exact hapart.calls _ h.tokens _ (h.calls ▸ List.mem_singleton_self _)
  · intro hne
    refine ⟨?_, fun ts hts called hcalled => ?_⟩
    · rw [h.functions]
      simpa using hne
    · rw [h.tokens] at hts
      cases hts
      rw [h.calls] at hcalled
      rwa [List.mem_singleton.mp hcalled]

/-- Whether the two functions of an accepted item get along is a matter of the two names, and nobody
asks: each accepted item is accepted under its own name, too. -/
theorem apart_exactly {args item : String} {e : Entrypoint} (h : ofText args item = .ok e) :
    ∃ p : Function.Parts, tokens? item = some p.tokens ∧ p.Formed ∧ ExportNamed args e.exported ∧
      e.Wraps p.name e.exported ∧ (e.Apart ↔ bareName p.name ≠ bareName e.exported) ∧
      ∃ e', ofText (inQuotes p.name) item = .ok e' ∧ e'.Wraps p.name p.name ∧ ¬e'.Apart := by
  obtain ⟨ts, f, hargs, hts, hf, hok⟩ := exists_of_ofText h
  obtain ⟨p, rfl, hformed, hf'⟩ := Function.exists_parts hf
  obtain ⟨hnone, hexported, he⟩ := ofFunction_eq_ok_iff.mp hok
  have hname := isWord_of_tokens? hts p.word_name_mem
  have hwraps : e.Wraps p.name e.exported := by
    rw [he, hf'.name]
    exact wraps_of_isWord hname hargs.isWord hexported
  have hwraps' := wraps_of_isWord hname hname hformed.name
  refine ⟨p, hts, hformed, hargs, hwraps, hwraps.apart_iff, ⟨p.name, p.name⟩, ?_, hwraps', ?_⟩
  · rw [ofText_eq (exportNamed_inQuotes hname) hts hf, ofFunction_eq_ok_iff, hf'.name]
    exact ⟨hnone, hformed.name, rfl⟩
  · rw [hwraps'.apart_iff]
    exact fun hne => hne rfl

theorem deploy_is_apart : ∃ e,
    ofText "" "fn deploy(ts: u64) -> Result<String, ModuleError> \x7b body() \x7d" = .ok e ∧
      e.Apart := by
  have h := ofText_shortTokens tokens?_deploy rfl
  obtain ⟨p, -, -, -, hwraps, hapart, -⟩ := apart_exactly h
  obtain hname : "deploy" = p.name := (List.cons.inj hwraps.functions).1
  refine ⟨_, h, hapart.mpr ?_⟩
  rw [← hname]
  decide

theorem usual_name_is_taken : ∃ e,
    ofText "" "fn deploy_contract(ts: u64) -> Result<String, ModuleError> \x7b body() \x7d" = .ok e ∧
      ¬e.Apart := by
  have hname : IsWord "deploy_contract" := isWord_of_readWord (rfl : readWord defaultExport = _)
  refine ⟨_, ofText_shortTokens tokens?_deploy_contract rfl, ?_⟩
  rw [(wraps_of_isWord hname hname rfl).apart_iff]
  exact fun hne => hne rfl

end Entrypoint
end DeployTrigger.Kit
