import DeployTrigger.Kit.Source.Pattern
import DeployTrigger.Proofs.Kit.Reading

/-!
Types and patterns as readers that advance. Each form does if the forms inside of it do, so that all of
them do however deep they are nested (`advances_formsUpTo`, `advances_patternUpTo`).
-/
namespace DeployTrigger.Kit.Source

open Reader (Advances)

namespace TypeForm

/-- The forms inside of others advance. -/
structure Forms.Advance (sub : Forms) : Prop where
  type (plus : Bool) : Advances (sub.type plus)
  bound : Advances sub.bound

section Bound
variable {sub : Forms} (hsub : sub.Advance) {bound : Reader Bound} (hbound : Advances bound)

theorem advances_boundLifetimes : Advances boundLifetimes := by
  refine .bind (.word? _) fun _ _ => .ite (.bind (.sign _) fun _ _ => ?_) (.pure _)
  refine .bind (.listUntil (.bind .attributes fun _ _ => .lifetime) _ _) fun _ _ => ?_
  exact .bind (.sign _) fun _ _ => .pure _

theorem advances_constantArgument : Advances constantArgument := by
  refine .bind (.sees _) fun _ _ => .ite .literal (.bind (.sees _) fun _ _ => ?_)
  exact .ite (.drop _) (.group .takeAll)

include hbound in
theorem advances_boundsUntil (last : List Token → Bool) : Advances (boundsUntil bound last) :=
  .loop <| .bind (.sees _) fun _ _ => .ite (.pure _) (.bind hbound fun _ _ => .sign? _)

include hbound in
theorem advances_boundsFrom (plus traits : Bool) (n : Nat) :
    Advances (boundsFrom bound plus traits n) := by
  induction n generalizing traits with
  | zero => exact .pure _
  | succ n ih =>
    refine .bind hbound fun _ _ => .bind (.sign? _) fun _ _ => .ite ?_ (.pure _)
    exact .bind (.sees _) fun _ _ => .ite (ih _) (.pure _)

include hbound in
theorem advances_bounds (plus : Bool) : Advances (bounds bound plus) :=
  .bind .rest fun _ _ => advances_boundsFrom hbound _ _ _

include hsub

theorem advances_output (plus : Bool) : Advances (output sub plus) :=
  .bind (.sign? _) fun _ _ => .ite (.bind (hsub.type _) fun _ _ => .pure _) (.pure _)

theorem advances_parenthesized : Advances (parenthesized sub) := by
  have htypes := Advances.commaSeparated (.discard (hsub.type true))
  refine .bind (.sign? _) fun _ _ => .bind (.group htypes) fun _ _ => ?_
  exact .bind (advances_output hsub _) fun _ _ => .pure _

theorem advances_argument : Advances (argument sub) := by
  have hbounds := advances_boundsUntil hsub.bound
  refine .bind .rest fun _ _ => .ite .lifetime ?_
  refine .ite (.bind (.drop _) fun _ _ => .bind (.sees _) fun _ _ => ?binding) ?_
  case binding => exact .ite .literal (.bind (.sees _) fun _ _ => .ite (.drop _) (.discard (hsub.type _)))
  refine .ite (.bind (.drop _) fun _ _ => hbounds _) (.ite advances_constantArgument ?_)
  refine .bind (hsub.type _) fun _ _ => .ite (.bind (.sign? _) fun _ _ => ?_) (.pure _)
  exact .ite (.discard (hsub.type _)) (.bind (.sign? _) fun _ _ => .ite (hbounds _) (.pure _))

theorem advances_arguments : Advances (arguments sub) := by
  refine .bind (.sign? _) fun _ _ => .bind (.sign _) fun _ _ => ?_
  exact .bind (.listUntil (advances_argument hsub) _ _) fun _ _ => .sign _

theorem advances_segment (inExpression : Bool) : Advances (TypeForm.segment sub inExpression) := by
  refine .bind (.sees _) fun _ _ => .ite (.bind (.drop _) fun _ _ => .pure _) ?_
  refine .bind (.sees _) fun _ _ => .either (.drop _) (.discard .identifier) fun _ => ?_
  exact .bind .rest fun _ _ => .ite (.bind (advances_arguments hsub) fun _ _ => .pure _) (.pure _)

theorem advances_segmentsFrom (inExpression : Bool) (info : PathInfo) (n : Nat) :
    Advances (segmentsFrom sub inExpression info n) := by
  induction n generalizing info with
  | zero => exact .pure _
  | succ n ih =>
    refine .bind .rest fun _ _ => .ite (.bind (.drop _) fun _ _ => ?_) (.pure _)
    exact .bind (advances_segment hsub _) fun _ _ => ih _

theorem advances_path (inExpression : Bool) : Advances (path sub inExpression) := by
  refine .bind (.sign? _) fun _ _ => .bind (advances_segment hsub _) fun _ _ => ?_
  exact .bind .rest fun _ _ => advances_segmentsFrom hsub _ _ _

theorem advances_qualifiedFrom (inExpression : Bool) (n : Nat) :
    Advances (qualifiedFrom sub inExpression n) := by
  induction n with
  | zero => exact .pure _
  | succ n ih =>
    exact .bind (advances_segment hsub _) fun _ _ => .bind (.sign? _) fun _ _ => .ite ih (.pure _)

theorem advances_qualifiedPath (inExpression : Bool) : Advances (qualifiedPath sub inExpression) := by
  have hpath := advances_path hsub
  refine .bind (.sign? _) fun _ _ => .ite ?_ (.bind (hpath _) fun _ _ => .pure _)
  refine .bind (.discard (hsub.type _)) fun _ _ => .bind (.word? _) fun _ _ => ?_
  refine .optionally (.discard (hpath _)) (.bind (.sign _) fun _ _ => .bind (.sign _) fun _ _ => ?_)
  exact .bind .rest fun _ _ => .bind (advances_qualifiedFrom hsub _ _) fun _ _ => .pure _

theorem advances_traitBound : Advances (traitBound sub) := by
  refine .bind .rest fun _ _ => .optionally (.drop _) (.bind (.sign? _) fun _ _ => ?_)
  refine .bind advances_boundLifetimes fun _ _ => .bind (advances_path hsub _) fun _ _ => ?_
  exact .bind (.sees _) fun _ _ => .ite (advances_parenthesized hsub) (.pure _)

theorem advances_boundWith : Advances (boundWith sub) := by
  have htrait := advances_traitBound hsub
  refine .bind (.sees _) fun _ _ => .ite (.bind .lifetime fun _ _ => .pure _) ?_
  refine .bind (.sees _) fun _ _ => .ite (.bind (.group htrait) fun _ _ => .pure _) ?_
  exact .bind htrait fun _ _ => .pure _

theorem advances_moreBounds : Advances (moreBounds sub) := by
  refine .loop (.bind (.sign? _) fun _ _ => .ite (.bind (.sees _) fun _ _ => ?_) (.pure _))
  exact .ite (.bind (.discard hsub.bound) fun _ _ => .pure _) (.pure _)

theorem advances_pathType (plus lifetimes : Bool) : Advances (pathType sub plus lifetimes) := by
  refine .bind (advances_qualifiedPath hsub false) fun (qualified, info) _ => ?_
  refine .bind (.sees _) fun _ _ => ?_
  extract_lets bounded behind
  have hbounded (u : Unit) : Advances (bounded u) := by
    refine .bind (.sees _) fun _ _ => .ite (.bind (.sees _) fun _ _ => ?_) (.pure _)
    exact .optionally (advances_moreBounds hsub) (.pure _)
  have hbehind (called : Bool) : Advances (behind called) := by
    refine .ite (.pure _) (.bind (.sees _) fun _ _ => .ite ?_ (hbounded ()))
    refine .bind (.drop _) fun _ _ => .bind .rest fun ts _ => ?_
    split
    · exact .bind (.drop _) fun _ _ => .pure _
    · exact .bind (.fail _) fun _ _ => hbounded ()
  refine .ite (.bind (advances_parenthesized hsub) fun _ _ => ?_) (.bind (.pure _) fun _ _ => hbehind _)
  exact .bind (.pure _) fun _ _ => hbehind _

theorem advances_functionType : Advances (functionType sub) := by
  refine .bind (.word? _) fun _ _ => .bind .interface fun _ _ => .bind (.word _) fun _ _ => ?_
  refine .bind (.group (.commaSeparated (.bind .attributes fun _ _ => ?_))) fun _ _ => ?_
  · refine .bind (.sign? _) fun _ _ => .ite (.bind .rest fun _ _ => ?_) (.pure _)
    exact .optionally (.drop _) (.discard (hsub.type _))
  · exact .bind (advances_output hsub _) fun _ _ => .pure _

theorem advances_objectType (plus : Bool) : Advances (objectType sub plus) := by
  refine .bind (advances_bounds hsub.bound _) fun _ _ => ?_
  exact .optionally (.throw _) (.pure _)

theorem advances_parenthesizedType (plus : Bool) : Advances (parenthesizedType sub plus) := by
  have hmore := advances_moreBounds hsub
  refine .bind .rest fun ts _ => .bind (.group (.bind .atEnd fun _ _ => .ite (.pure _) ?_)) fun _ _ => ?_
  · refine .bind (.sees _) fun _ _ => .ite (advances_objectType hsub _) (.bind (.sees _) fun _ _ => ?_)
    refine .ite (.bind (advances_traitBound hsub) fun _ _ => .pure _) (.bind (hsub.type _) fun _ _ => ?_)
    refine .bind (.sign? _) fun _ _ => .ite (.bind (.commaSeparated ?_) fun _ _ => .pure _) (.pure _)
    exact .discard (hsub.type _)
  · refine .ite (.bind hmore fun _ _ => .pure _) (.bind (.sees _) fun _ _ => ?_)
    exact .optionally hmore (.pure _)

theorem advances_typeWith (plus : Bool) : Advances (typeWith sub plus) := by
  refine .bind advances_boundLifetimes fun lifetimes _ => .bind .rest fun ts _ => ?_
  refine .optionally (.fail _) ?_
  -- One case for each thing that a type begins with.
  refine .ite (advances_parenthesizedType hsub plus) ?_
  refine .ite (.bind (advances_functionType hsub) fun _ _ => .pure _) ?_
  refine .ite (advances_pathType hsub plus lifetimes) ?_
  refine .ite (.bind (.drop 1) fun _ _ => advances_objectType hsub plus) ?_
  refine .ite (.bind (.group ?bracket) fun _ _ => .pure _) (.ite ?pointer (.ite ?reference ?_))
  case bracket =>
    refine .bind (.discard (hsub.type _)) fun _ _ => .bind (.sign? _) fun _ _ => .ite ?_ (.pure _)
    exact .bind .atEnd fun _ _ => .optionally (.fail _) .takeAll
  case pointer =>
    refine .bind (.drop _) fun _ _ => .bind (.word? _) fun _ _ => .bind (.word? _) fun _ _ => ?_
    exact .optionally (.fail _) (.bind (.discard (hsub.type _)) fun _ _ => .pure _)
  case reference =>
    refine .bind (.drop _) fun _ _ => .bind (.sees _) fun _ _ => .optionally .lifetime ?_
    exact .bind (.word? _) fun _ _ => .bind (.discard (hsub.type _)) fun _ _ => .pure _
  refine .ite (.bind (.drop 1) fun _ _ => .pure _) (.ite ?bounded ?_)
  case bounded =>
    refine .bind (.drop _) fun _ _ => .bind (advances_bounds hsub.bound _) fun _ _ => ?_
    exact .optionally (.throw _) (.pure _)
  refine .ite (.bind (.drop 1) fun _ _ => .pure _) (.ite (advances_objectType hsub true) ?_)
  exact .fail _

end Bound

theorem advances_formsUpTo (n : Nat) : (formsUpTo n).Advance := by
  induction n with
  | zero => exact ⟨fun _ => .fail _, .fail _⟩
  | succ n ih => exact ⟨advances_typeWith ih, advances_boundWith ih⟩

end TypeForm

namespace Pattern
open TypeForm
variable {forms : Forms} (hforms : forms.Advance) {pattern : Reader Unit}
  (hpattern : Advances pattern)

section Inner
include hpattern

theorem advances_alternatives : Advances (alternatives pattern) := by
  refine .bind (.sign? _) fun _ _ => .bind hpattern fun _ _ => .loop (.bind (.sees _) fun _ _ => ?_)
  exact .ite (.bind (.sign _) fun _ _ => .bind hpattern fun _ _ => .pure _) (.pure _)

theorem advances_field : Advances (field pattern) := by
  have halternatives := advances_alternatives hpattern
  refine .bind (.word? _) fun _ _ => .bind (.word? _) fun _ _ => .bind (.word? _) fun _ _ => ?_
  refine .bind .rest fun ts _ => ?_
  split
  · exact .bind (.drop _) fun _ _ => .bind (.sign _) fun _ _ => halternatives
  · refine .bind (.discard .identifier) fun _ _ => .ite (.bind (.sign? _) fun _ _ => ?_) (.pure _)
    exact .ite halternatives (.pure _)

theorem advances_fields : Advances (fields pattern) := by
  refine .loop (.bind .atEnd fun _ _ => .ite (.pure _) (.bind .attributes fun _ _ => ?_))
  refine .bind (.sign? _) fun _ _ => .ite (.pure _) (.bind (advances_field hpattern) fun _ _ => ?_)
  exact .bind .atEnd fun _ _ => .ite (.pure _) (.bind (.sign _) fun _ _ => .pure _)

theorem advances_named : Advances (named pattern) := by
  refine .bind (.word? _) fun _ _ => .bind (.word? _) fun _ _ => .bind .anyWord fun _ _ => ?_
  exact .bind (.sign? _) fun _ _ => .ite hpattern (.pure _)

omit hpattern in
/-- Dots of a range, and a literal that may end it. -/
theorem advances_range : Advances (do
    if !(← Reader.sign? "..=") && !(← Reader.sign? "...") then Reader.sign ".."
    if ← Reader.sees Sees.literal then Reader.literal) := by
  refine .bind (.sign? _) fun _ _ => .bind (.sign? _) fun _ _ => .optionally (.sign _) ?_
  exact .bind (.sees _) fun _ _ => .ite .literal (.pure _)

include hforms

theorem advances_ofPath : Advances (ofPath forms pattern) := by
  have hitems := Advances.commaSeparated (advances_alternatives hpattern)
  refine .bind (advances_qualifiedPath hforms _) fun (_, _) _ => .bind .rest fun ts _ => ?_
  refine .ite (.bind (.drop _) fun _ _ => .bind .rest fun ts _ => ?call) ?_
  case call =>
    split
    · exact .drop _
    · exact .fail _
  refine .ite (.group (advances_fields hpattern)) (.ite (.group hitems) ?_)
  exact .ite advances_range (.pure _)

theorem advances_patternWith : Advances (patternWith forms pattern) := by
  refine .bind .rest fun ts _ => ?_
  -- One case for each thing that a pattern begins with.
  refine .ite (advances_ofPath hforms hpattern) (.ite (.drop 1) ?_)
  refine .ite (.bind (.drop 1) fun _ _ => hpattern) (.ite ?literal ?_)
  case literal =>
    exact .bind .literal fun _ _ => .bind (.sees _) fun _ _ => .ite advances_range (.pure _)
  refine .ite (advances_named hpattern) (.ite ?reference ?_)
  case reference => exact .bind (.drop _) fun _ _ => .bind (.word? _) fun _ _ => hpattern
  have hitems := Advances.commaSeparated (advances_alternatives hpattern)
  refine .ite (.group hitems) (.ite (.group hitems) (.ite ?range ?_))
  case range => exact .bind (.sign? _) fun _ _ => .ite .literal (.sign _)
  exact .ite (.bind (.drop 1) fun _ _ => .group .takeAll) (.fail _)

end Inner

include hforms in
theorem advances_patternUpTo (n : Nat) : Advances (patternUpTo forms n) := by
  induction n with
  | zero => exact .fail _
  | succ n ih => exact advances_patternWith hforms ih

theorem advances_read : Advances Pattern.read := by
  refine .bind (.bind .rest fun _ _ => .pure _) fun forms h => ?_
  obtain ⟨_, _, ⟨⟩⟩ := h
  exact .bind .rest fun _ _ => advances_patternUpTo (advances_formsUpTo _) _

end Pattern
end DeployTrigger.Kit.Source
