import DeployTrigger.Kit.Attribute
import DeployTrigger.Proofs.Kit.Reading
import DeployTrigger.Proofs.Kit.Words

/-!
The exported function as tokens. Its text reads back as one function of the right form, whatever the two
names in it are, and of the calls with the timestamp in it there is one only (`tokens?_exportText`,
`ofTokens_exportTokens`, `calls_exportTokens`).
-/
namespace DeployTrigger.Kit
open Source Lexeme

namespace Source.Function
open Reader TypeForm

/-- Reads what stands in front of the name of a function and tells whether the function is asynchronous. -/
def headReader : Reader Bool := do
  attributes
  visibility
  let _ ← word? "const"
  let isAsync ← word? "async"
  let _ ← word? "unsafe"
  interface
  word "fn"
  pure isAsync

def tailReader (isAsync : Bool) (name : String) : Reader Function := do
  let generics ← genericList
  let (inputs, isVariadic) ← inputList
  let hasOutput ← output (← forms) true
  conditions
  group .brace takeAll
  pure ⟨name, isAsync, generics, inputs, isVariadic, hasOutput⟩

theorem reader_eq : reader = headReader >>= fun isAsync => identifier >>= tailReader isAsync := by
  simp only [headReader, bind_assoc, pure_bind]
  rfl

/-- Whatever the name is, a function is read in front of it and behind it. -/
theorem ofTokens_eq_ok {ts : List Token} (behind : List Token) {name : String} {isAsync : Bool}
    {f : Function} (hhead : headReader ⟨ts, false⟩ = .ok (isAsync, ⟨.word name :: behind, false⟩))
    (hname : isIdentifier name = true)
    (htail : tailReader isAsync name ⟨behind, false⟩ = .ok (f, ⟨[], false⟩)) :
    ofTokens ts = .ok f := by
  have hidentifier : identifier ⟨.word name :: behind, false⟩ = .ok (name, ⟨behind, false⟩) := by
    refine bind_run_iff.mpr ⟨_, _, rfl, ?_⟩
    dsimp only
    rw [if_pos hname]
    rfl
  rw [ofTokens, reader_eq, run_eq_ok_iff]
  exact bind_run_iff.mpr ⟨_, _, hhead, bind_run_iff.mpr ⟨_, _, hidentifier, htail⟩⟩

end Source.Function

/-- The word that the token is. -/
def Source.Token.word? : Token → Option String
  | .word w => some w
  | _ => none

/-- The use of a function of the kit. -/
def kitCall (function : String) (argument : List Token) : List Token :=
  [.word "rensa_deployer_sdk", .sign ':' true, .sign ':' false, .word function,
    .group .parenthesis argument]

/-- What becomes of one of the two results: a function of the kit takes what is in it. -/
def arm (result value function : String) : List Token :=
  [.word result, .group .parenthesis [.word value], .sign '=' true, .sign '>' false] ++
    kitCall function [.word value] ++ [.sign ',' false]

/-- The call of the annotated function. -/
def innerCall (annotated : String) : List Token :=
  [.word annotated, .group .parenthesis [.word "timestamp"]]

def exportBody (annotated : String) : List Token :=
  kitCall "set_panic_hook" [] ++ [.sign ';' false, .word "match"] ++ innerCall annotated ++
    [.group .brace (arm "Ok" "address" "pack" ++ arm "Err" "error" "abort")]

/-- The exported function: an address is packed, and an error aborts. -/
def exportTokens (annotated exported : String) : List Token :=
  [.sign '#' false, .group .bracket [.word "no_mangle"], .word "pub", .word "extern",
    .literal (.text "C"), .word "fn", .word exported,
    .group .parenthesis [.word "timestamp", .sign ':' false, .word "u64"],
    .sign '-' true, .sign '>' false, .word "u64", .group .brace (exportBody annotated)]

/-- The one value that the exported function takes. -/
def isTimestamp : List Token → Bool
  | [.word w] => w = "timestamp"
  | _ => false

mutual

/-- The names that stand in front of the timestamp in parentheses, at any depth; `before` is the word in
front of the token, if there is one. -/
def Source.Token.callsBehind (before : Option String) : Token → List String
  | .group d content =>
    (if d = .parenthesis && isTimestamp content then before.toList else []) ++
      callsFrom none content
  | _ => []

def callsFrom (before : Option String) : List Token → List String
  | [] => []
  | t :: rest => t.callsBehind before ++ callsFrom t.word? rest

end

/-- The functions that are called with the timestamp. -/
def calls (ts : List Token) : List String := callsFrom none ts

theorem calls_exportTokens (annotated exported : String) :
    calls (exportTokens annotated exported) = [annotated] := rfl

/-- The form that an entrypoint needs. -/
def exportFunction (exported : String) : Function := ⟨exported, false, [], [.typed], false, true⟩

theorem ofTokens_exportTokens (annotated : String) {exported : String}
    (h : isIdentifier exported = true) :
    Function.ofTokens (exportTokens annotated exported) = .ok (exportFunction exported) :=
  Function.ofTokens_eq_ok ((exportTokens annotated exported).drop 7) rfl h rfl

section Lexing

theorem readFrom_mono {out ls : List Lexeme} {n : Nat} {cs : List Char}
    (h : readFrom out n cs = some ls) (k : Nat) : readFrom out (n + k) cs = some ls := by
  fun_induction readFrom out n cs with
  | case1 out => rwa [readFrom]
  | case2 => cases h
  | case3 out n c cs found rest hnext ih =>
    rw [Nat.succ_add, readFrom, hnext]
    exact ih h
  | case4 => cases h

/-- The lexer finds these lexemes in the text, whatever follows it. -/
def Lexes (s : String) (ls : List Lexeme) : Prop :=
  ∃ k ≤ s.toList.length, ∀ out n more,
    readFrom out (n + k) (s.toList ++ more) = readFrom (ls.reverse ++ out) n more

namespace Lexes
variable {s t w : String} {ls ms : List Lexeme}

theorem append (h : Lexes s ls) (h' : Lexes t ms) : Lexes (s ++ t) (ls ++ ms) := by
  obtain ⟨k, hk, hs⟩ := h
  obtain ⟨j, hj, ht⟩ := h'
  refine ⟨j + k, ?_, fun out n more => ?_⟩
  · rw [String.toList_append, List.length_append]
    omega
  · rw [String.toList_append, List.append_assoc, ← Nat.add_assoc, hs, ht, List.reverse_append,
      List.append_assoc]

theorem word (hw : IsWord w) (h : Lexes t ls) (hblank : t.toList.head? = some ' ') :
    Lexes (w ++ t) (.token (.word w) :: ls) := by
  obtain ⟨k, hk, ht⟩ := h
  obtain ⟨cs, hcs⟩ := List.head?_eq_some_iff.mp hblank
  refine ⟨k + 1, ?_, fun out n more => ?_⟩
  · have hpos := List.length_pos_iff.mpr hw.toList_ne_nil
    rw [String.toList_append, List.length_append]
    omega
  · rw [hcs] at ht
    obtain ⟨c, behind, hcons, hnext⟩ := next?_of_isWord hw (cs ++ more)
    rw [String.toList_append, List.append_assoc, hcs, List.cons_append, hcons, ← Nat.add_assoc,
      readFrom, hnext]
    change readFrom (.token (.word w) :: out) (n + k) (' ' :: cs ++ more) = _
    rw [ht, List.reverse_cons, List.append_assoc]
    rfl

theorem around (h : Lexes s ls) (hw : IsWord w) (h' : Lexes t ms)
    (hblank : t.toList.head? = some ' ') : Lexes (s ++ w ++ t) (ls ++ .token (.word w) :: ms) := by
  rw [String.append_assoc]
  exact h.append (.word hw h' hblank)

end Lexes

/-- What the lexer finds all the way to the end are the tokens. -/
theorem tokens?_of_lexes {s : String} {ls : List Lexeme} (h : Lexes s ls) {c : Char}
    (hhead : s.toList.head? = some c) (hc : c.toNat ≠ 0xFEFF) : tokens? s = nest [] [] ls := by
  obtain ⟨k, hk, hread⟩ := h
  have hread := hread [] 0 []
  rw [List.append_nil, List.append_nil] at hread
  have hlexemes : readFrom [] s.toList.length s.toList = some ls := by
    obtain ⟨j, hj⟩ := Nat.exists_eq_add_of_le hk
    rw [hj]
    refine readFrom_mono ?_ j
    rw [← Nat.zero_add k, hread, readFrom, List.reverse_reverse]
  rw [tokens?_eq hhead hc, hlexemes]
  rfl

def headLexemes : List Lexeme :=
  [.token (.sign '#' false), .opening .bracket, .token (.word "no_mangle"), .closing .bracket,
    .token (.word "pub"), .token (.word "extern"), .token (.literal (.text "C")), .token (.word "fn")]

theorem lexes_head : Lexes "# [no_mangle] pub extern \"C\" fn " headLexemes :=
  ⟨14, by decide, fun _ _ _ => rfl⟩

def signatureLexemes : List Lexeme :=
  [.opening .parenthesis, .token (.word "timestamp"), .token (.sign ':' false), .token (.word "u64"),
    .closing .parenthesis, .token (.sign '-' true), .token (.sign '>' false), .token (.word "u64"),
    .opening .brace]

theorem lexes_signature : Lexes " (timestamp : u64) -> u64 \x7b " signatureLexemes :=
  ⟨16, by decide, fun _ _ _ => rfl⟩

def kitLexemes (function : String) : List Lexeme :=
  [.token (.word "rensa_deployer_sdk"), .token (.sign ':' true), .token (.sign ':' false),
    .token (.word function), .opening .parenthesis]

def hookLexemes : List Lexeme :=
  kitLexemes "set_panic_hook" ++
    [.closing .parenthesis, .token (.sign ';' false), .token (.word "match")]

theorem lexes_hook :
    Lexes "rensa_deployer_sdk :: set_panic_hook () ; match " hookLexemes :=
  ⟨14, by decide, fun _ _ _ => rfl⟩

def argumentLexemes : List Lexeme :=
  [.opening .parenthesis, .token (.word "timestamp"), .closing .parenthesis, .opening .brace]

theorem lexes_argument : Lexes " (timestamp) \x7b " argumentLexemes :=
  ⟨7, by decide, fun _ _ _ => rfl⟩

def armLexemes (result value function : String) : List Lexeme :=
  [.token (.word result), .opening .parenthesis, .token (.word value), .closing .parenthesis,
    .token (.sign '=' true), .token (.sign '>' false)] ++ kitLexemes function ++
    [.token (.word value), .closing .parenthesis, .token (.sign ',' false)]

theorem lexes_ok : Lexes "Ok (address) => rensa_deployer_sdk :: pack (address) , "
    (armLexemes "Ok" "address" "pack") :=
  ⟨22, by decide, fun _ _ _ => rfl⟩

theorem lexes_err : Lexes "Err (error) => rensa_deployer_sdk :: abort (error) , \x7d \x7d"
    (armLexemes "Err" "error" "abort" ++ [.closing .brace, .closing .brace]) :=
  ⟨25, by decide, fun _ _ _ => rfl⟩

def exportLexemes (annotated exported : String) : List Lexeme :=
  headLexemes ++ .token (.word exported) :: signatureLexemes ++ hookLexemes ++
    .token (.word annotated) :: argumentLexemes ++ armLexemes "Ok" "address" "pack" ++
      (armLexemes "Err" "error" "abort" ++ [.closing .brace, .closing .brace])

theorem nest_exportLexemes (annotated exported : String) :
    nest [] [] (exportLexemes annotated exported) = some (exportTokens annotated exported) := rfl

theorem lexes_exportText {e : Entrypoint} (hannotated : IsWord e.annotated)
    (hexported : IsWord e.exported) :
    Lexes e.exportText (exportLexemes e.annotated e.exported) := by
  have hsignature := (lexes_head.around hexported lexes_signature rfl).append lexes_hook
  have hcall := (hsignature.around hannotated lexes_argument rfl).append lexes_ok
  exact hcall.append lexes_err

theorem head?_toList_append {s : String} {c : Char} (h : s.toList.head? = some c) (t : String) :
    (s ++ t).toList.head? = some c := by
  rw [String.toList_append, List.head?_append, h, Option.some_or]

theorem head?_exportText (e : Entrypoint) : e.exportText.toList.head? = some '#' := by
  unfold Entrypoint.exportText
  iterate 7 refine head?_toList_append ?_ _
  rfl

/-- The text of the exported function consists of the tokens. -/
theorem tokens?_exportText {e : Entrypoint} (hannotated : IsWord e.annotated)
    (hexported : IsWord e.exported) :
    tokens? e.exportText = some (exportTokens e.annotated e.exported) := by
  have hlexes := lexes_exportText hannotated hexported
  rw [tokens?_of_lexes hlexes (head?_exportText e) (by decide), nest_exportLexemes]

end Lexing
end DeployTrigger.Kit
