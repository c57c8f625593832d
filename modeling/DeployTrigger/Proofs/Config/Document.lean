import DeployTrigger.Config.Document
import DeployTrigger.Proofs.Duration.Units
import DeployTrigger.Proofs.Json.Members

/-!
Settings are read back from the document that they are written as. The members are read one by one
(`takes_entrypoint`, `takes_timeout`, `takes_other`), and the document is one member behind the
other.
-/
namespace DeployTrigger.Config
open Json

section Members
variable {first : Bool} {m : Members} {fuel : Nat} {cs vs rest tail : List Char}
  {result : Except Flaw Members}

theorem takes_entrypoint {s : String} (hm : m.entrypoint = none)
    (hkey : Takes (Reader.nextKey first) cs (some "entrypoint") (':' :: vs))
    (hvalue : Takes readEntrypoint vs s rest)
    (h : Takes (readMembers false { m with entrypoint := some s } fuel) rest result tail) :
    Takes (readMembers first m (fuel + 1)) cs result tail := by
  refine hkey.bind ?_
  change Takes (if m.entrypoint.isSome then _ else _) _ _ _
  rw [if_neg (by simp [hm])]
  exact (Takes.colon (.nil _)).bind (hvalue.bind h)

theorem takes_timeout {d : Option Duration} (hm : m.timeout = none)
    (hkey : Takes (Reader.nextKey first) cs (some "timeout") (':' :: vs))
    (hvalue : Takes readTimeout vs d rest)
    (h : Takes (readMembers false { m with timeout := some d } fuel) rest result tail) :
    Takes (readMembers first m (fuel + 1)) cs result tail := by
  refine hkey.bind ?_
  change Takes (if m.timeout.isSome then _ else _) _ _ _
  rw [if_neg (by simp [hm])]
  exact (Takes.colon (.nil _)).bind (hvalue.bind h)

theorem takes_other {key : String} {v : Value} (hentrypoint : key ≠ "entrypoint")
    (htimeout : key ≠ "timeout")
    (hkey : Takes (Reader.nextKey first) cs (some key) (':' :: vs))
    (hvalue : Takes (Reader.value maxDepth) vs v rest)
    (h : Takes (readMembers false { m with others := (key, v) :: m.others } fuel) rest result tail) :
    Takes (readMembers first m (fuel + 1)) cs result tail := by
  refine hkey.bind ?_
  dsimp only
  rw [if_neg hentrypoint, if_neg htimeout]
  exact (Takes.colon (.nil _)).bind (hvalue.bind h)

theorem takes_brace (first : Bool) (m : Members) (fuel : Nat) (cs : List Char) :
    Takes (readMembers first m (fuel + 1)) ('\x7d' :: cs) (.ok m) ('\x7d' :: cs) :=
  (Takes.nextKey_brace first (.nil _)).bind (Takes.pure _ _)

end Members

section Values
variable (rest : List Char)

theorem takes_readEntrypoint (s : String) :
    Takes readEntrypoint ((Text.write s).toList ++ rest) s rest := by
  have htext := Takes.text s rest
  rw [Text.toList_write_append] at htext ⊢
  exact (Takes.peekToken (.nil _) (by decide)).bind htext

/-- An absent timeout is written as null. -/
def timeoutText (timeout : Option Duration) : String :=
  match timeout with
  | none => "null"
  | some d => Text.write d.inUnits

theorem takes_readTimeout (timeout : Option Duration) :
    Takes readTimeout ((timeoutText timeout).toList ++ rest) timeout rest := by
  cases timeout with
  | none =>
    have hword := Takes.word ['u', 'l', 'l'] rest
    exact (Takes.peekToken (.nil _) (by decide)).bind ((Takes.advance _ _).bind (hword.bind (Takes.pure _ _)))
  | some d =>
    have htext := Takes.text d.inUnits rest
    change Takes readTimeout ((Text.write d.inUnits).toList ++ rest) _ _
    rw [Text.toList_write_append] at htext ⊢
    refine (Takes.peekToken (.nil _) (by decide)).bind (htext.bind ?_)
    rw [Duration.ofUnits_inUnits]
    exact Takes.pure _ _

end Values

/-- The members of the settings up to the closing brace. -/
def membersText (c : Config) : List Char :=
  (Text.write "entrypoint").toList ++ ':' :: ((Text.write c.entrypoint).toList ++
    ',' :: ((Text.write "timeout").toList ++ ':' :: ((timeoutText c.timeout).toList ++
      ',' :: ((Text.write "maxAddressLen").toList ++
        ':' :: (Nat.toDigits 10 c.limits.maxAddressLen.toNat ++
          ',' :: ((Text.write "maxSchemasLen").toList ++
            ':' :: (Nat.toDigits 10 c.limits.maxSchemasLen.toNat ++ ['\x7d'])))))))

theorem toList_toDocument (c : Config) : c.toDocument.toList = '\x7b' :: c.membersText := by
  have hentrypoint : "\x7b\"entrypoint\":".toList =
      '\x7b' :: ((Text.write "entrypoint").toList ++ [':']) := by decide
  have htimeout : ",\"timeout\":".toList = ',' :: ((Text.write "timeout").toList ++ [':']) := by
    decide
  have haddress : ",\"maxAddressLen\":".toList =
      ',' :: ((Text.write "maxAddressLen").toList ++ [':']) := by decide
  have hschemas : ",\"maxSchemasLen\":".toList =
      ',' :: ((Text.write "maxSchemasLen").toList ++ [':']) := by decide
  have hbrace : "\x7d".toList = ['\x7d'] := rfl
  have hdecimal (n : Nat) : (decimal n).toList = Nat.toDigits 10 n := String.toList_ofList
  change ("\x7b\"entrypoint\":" ++ Text.write c.entrypoint ++ ",\"timeout\":" ++
    timeoutText c.timeout ++ ",\"maxAddressLen\":" ++ decimal c.limits.maxAddressLen.toNat ++
    ",\"maxSchemasLen\":" ++ decimal c.limits.maxSchemasLen.toNat ++ "\x7d").toList = _
  simp only [membersText, String.toList_append, hentrypoint, htimeout, haddress, hschemas, hbrace, hdecimal,
    List.append_assoc, List.cons_append, List.nil_append]

/-- The members as a reader holds them at the closing brace. -/
def written (c : Config) : Members :=
  ⟨some c.entrypoint, some c.timeout,
    [("maxSchemasLen", .number (.natural c.limits.maxSchemasLen)),
      ("maxAddressLen", .number (.natural c.limits.maxAddressLen))]⟩

theorem ofMembers_written (c : Config) : ofMembers c.written = .ok c := by
  simp [written, ofMembers, limitsFrom, limitOf]

theorem takes_members (c : Config) (fuel : Nat) :
    Takes (readMembers true ⟨none, none, []⟩ (fuel + 5)) c.membersText (.ok c.written)
      ['\x7d'] := by
  refine takes_entrypoint rfl (Takes.nextKey_first_write _ _) (takes_readEntrypoint _ _) ?_
  refine takes_timeout rfl (Takes.nextKey_write _ _) (takes_readTimeout _ _) ?_
  refine takes_other (by decide) (by decide) (Takes.nextKey_write _ _)
    (Takes.value_number _ _ (.inl rfl)) ?_
  refine takes_other (by decide) (by decide) (Takes.nextKey_write _ _)
    (Takes.value_number _ _ (.inr rfl)) ?_
  exact takes_brace _ _ _ _

theorem takes_toDocument (c : Config) : Takes reader c.toDocument.toList c [] := by
  have hlength : 4 ≤ c.membersText.length := by
    have hkey : (Text.write "entrypoint").toList.length = 12 := by decide
    rw [membersText, List.length_append, hkey]
    omega
  obtain ⟨fuel, hfuel⟩ := Nat.exists_eq_add_of_le' hlength
  rw [toList_toDocument]
  refine (Takes.peekToken (.nil _) (by decide)).bind ((Takes.advance _ _).bind (Takes.get fun p => ?_))
  dsimp only
  rw [hfuel]
  refine (takes_members c fuel).bind ((Takes.peekToken (.nil _) (by decide)).bind ?_)
  rw [if_pos rfl]
  refine (Takes.advance _ _).bind ?_
  dsimp only [Except.bind]
  rw [ofMembers_written]
  exact Takes.pure _ _

/-- Every configuration is read back from its own document. -/
theorem ofDocument_toDocument (c : Config) : ofDocument c.toDocument = .ok c :=
  document_of_takes (takes_toDocument c) (.nil _)

end DeployTrigger.Config
