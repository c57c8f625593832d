import DeployTrigger.PathExpansion

/-!
What becomes of paths. Up to the first dollar they are taken as they are, but for a tilde in front; a
dollar in front of a name that starts outside of ASCII breaks the expansion down.
-/
namespace DeployTrigger
namespace PathExpansion

variable {w : World} {plain cs : List Char} {c : Char}

theorem pieces_cons_of_ne (h : c ≠ '$') : pieces (c :: cs) = .literal [c] :: pieces cs := by
  -- All patterns in front of the last one start with a dollar.
  rw [pieces]
  · rintro rest rfl
    exact absurd rfl h
  · rintro rest rfl
    exact absurd rfl h
  · rintro d rest rfl
    exact absurd rfl h

theorem pieces_of_wide_name (hname : isNameChar c = true) (hwide : 1 < c.utf8Size) :
    pieces ('$' :: c :: cs) = [.broken] := by
  rw [pieces]
  · rw [if_pos hname, if_pos hwide]
  · rintro rfl
    exact absurd hwide (by decide)
  · rintro rfl
    exact absurd hwide (by decide)

theorem expandReferences_cons_of_ne (h : c ≠ '$') :
    expandReferences w (c :: cs) = (expandReferences w cs).map (c :: ·) := by
  rw [expandReferences, expandReferences, pieces_cons_of_ne h, List.mapM_cons]
  cases (pieces cs).mapM (Piece.expand w) <;> rfl

theorem expandReferences_append_of_no_dollar (h : '$' ∉ plain) :
    expandReferences w (plain ++ cs) = (expandReferences w cs).map (plain ++ ·) := by
  induction plain with
  | nil => cases he : expandReferences w cs <;> simp [he, Except.map]
  | cons c plain ih =>
    rw [List.mem_cons, not_or] at h
    rw [List.cons_append, expandReferences_cons_of_ne (Ne.symm h.1), ih h.2]
    cases expandReferences w cs <;> rfl

theorem expandReferences_of_no_dollar (h : '$' ∉ plain) : expandReferences w plain = .ok plain := by
  have hplain : expandReferences w (plain ++ []) = (expandReferences w []).map (plain ++ ·) :=
    expandReferences_append_of_no_dollar h
  rw [List.append_nil] at hplain
  rw [hplain, expandReferences, pieces]
  change Except.ok (plain ++ []) = _
  rw [List.append_nil]

theorem expandReferences_of_wide_name (h : '$' ∉ plain) (hname : isNameChar c = true)
    (hwide : 1 < c.utf8Size) :
    expandReferences w (plain ++ '$' :: c :: cs) = .error .breakdown := by
  rw [expandReferences_append_of_no_dollar h, expandReferences, pieces_of_wide_name hname hwide]
  rfl

end PathExpansion

open PathExpansion
variable {w : World} {s : String}

/-- In a path without dollars there is only a tilde to replace. -/
theorem expandPath_eq_expandTilde (h : '$' ∉ s.toList) :
    expandPath w (utf8 s) = .ok (String.ofList (expandTilde w s.toList)) := by
  have hexpanded := expandReferences_of_no_dollar (w := w) h
  have hno : s.toList.contains '$' = false := by simpa using h
  rw [expandPath, Utf8.decode?_utf8]
  simp only [expandText, hexpanded, hno]
  rfl

/-- A path without dollars is itself, if no tilde stands in front of it. -/
theorem expandPath_of_no_dollar (h : '$' ∉ s.toList) (ht : s.toList.head? ≠ some '~') :
    expandPath w (utf8 s) = .ok s := by
  have htilde : expandTilde w s.toList = s.toList := by
    unfold expandTilde
    split
    · rename_i heq
      exact absurd (by rw [heq]; rfl) ht
    · rfl
  rw [expandPath_eq_expandTilde h, htilde, String.ofList_toList]

/-- The expansion breaks down on a name that starts outside of ASCII. -/
theorem expandPath_of_wide_name {plain cs : List Char} {c : Char} (h : '$' ∉ plain)
    (hname : isNameChar c = true) (hwide : 1 < c.utf8Size) :
    expandPath w (utf8 (String.ofList (plain ++ '$' :: c :: cs))) = .error .breakdown := by
  rw [expandPath, Utf8.decode?_utf8]
  simp only [expandText, String.toList_ofList, expandReferences_of_wide_name h hname hwide]
  rfl

end DeployTrigger
