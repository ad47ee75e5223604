import ModuleUpdate.Proofs.Manifest.Canonical
import ModuleUpdate.Proofs.Manifest.Requirements

namespace ModuleUpdate.Manifest

/-!
# Revised manifests

A manifest that was read is revised by any number of edits, among them sorting and tidying.  An
edit that is refused, or that finds nothing to change, leaves the manifest as it is.  Every revision
is consistent, and as long as no line feed comes in it is sound.
-/

/-- A way to revise a manifest. -/
inductive Revision where
  | require (path version : Text)
  | drop (path : Text)
  | markIndirect (path : Text) (indirect : Bool)
  | sort
  | tidy
  deriving Repr, DecidableEq

namespace Revision

/-- The revision brings in no line feed. -/
def IsOneLine : Revision → Prop
  | .require path version => '\n' ∉ path ∧ '\n' ∉ version
  | _ => True

instance : DecidablePred IsOneLine
  | .require path version => inferInstanceAs (Decidable ('\n' ∉ path ∧ '\n' ∉ version))
  | .drop _ | .markIndirect _ _ | .sort | .tidy => isTrue trivial

/-- The revised manifest. -/
def apply (manifest : Manifest) : Revision → Manifest
  | .require path version =>
      match manifest.require path version with
      | .ok changed => changed
      | .error _ => manifest
  | .drop path => manifest.drop path
  | .markIndirect path indirect => (manifest.markIndirect? path indirect).getD manifest
  | .sort => manifest.sorted
  | .tidy => manifest.tidied

/-- One revision keeps a manifest consistent. -/
theorem isConsistent_apply
    {manifest : Manifest}
    (consistent : manifest.IsConsistent)
    (revision : Revision) :
    (apply manifest revision).IsConsistent := by
  cases revision with
  | require path version =>
      simp only [apply, Manifest.require]
      by_cases valid : Version.isValid version = true
      · rw [if_pos valid]
        cases found : manifest.changeRequirement? path (Line.withVersion version) with
        | some changed => exact isConsistent_withVersion consistent valid found
        | none =>
            exact isConsistent_addRequirement consistent valid
              fun directive => not_requires_of_changeRequirement? found
      · rw [if_neg valid]
        exact consistent
  | drop path => exact isConsistent_drop consistent path
  | markIndirect path indirect =>
      simp only [apply]
      cases found : manifest.markIndirect? path indirect with
      | none => exact consistent
      | some changed => exact isConsistent_withIndirect consistent found
  | sort => exact isConsistent_sorted consistent
  | tidy => exact isConsistent_tidied consistent

/-- One revision keeps a manifest sound. -/
theorem isSound_apply
    {manifest : Manifest}
    (sound : manifest.IsSound)
    {revision : Revision}
    (oneLine : revision.IsOneLine) :
    (apply manifest revision).IsSound := by
  cases revision with
  | require path version =>
      simp only [apply]
      by_cases valid : Version.isValid version = true
      · obtain ⟨changed, required, changedSound, _⟩ :=
          require_eq_ok sound valid oneLine.1 oneLine.2
        rw [required]
        exact changedSound
      · rw [Manifest.require, if_neg valid]
        exact sound
  | drop path => exact isSound_drop sound path
  | markIndirect path indirect =>
      simp only [apply]
      cases found : manifest.markIndirect? path indirect with
      | none => exact sound
      | some changed => exact isSound_withIndirect sound found
  | sort => exact isSound_sorted sound
  | tidy => exact isSound_tidied sound

end Revision

/-- The manifest after revisions in order. -/
def revised (manifest : Manifest) (revisions : List Revision) : Manifest :=
  revisions.foldl Revision.apply manifest

/-- The canonical form is a revision: sorting and then tidying. -/
example (manifest : Manifest) : manifest.revised [.sort, .tidy] = manifest.canonical :=
  rfl

/-- Revisions keep a manifest consistent. -/
theorem isConsistent_revised
    {manifest : Manifest}
    (consistent : manifest.IsConsistent)
    (revisions : List Revision) :
    (manifest.revised revisions).IsConsistent := by
  induction revisions generalizing manifest with
  | nil => exact consistent
  | cons revision following inductionHypothesis =>
      exact inductionHypothesis (Revision.isConsistent_apply consistent revision)

/-- Revisions keep a manifest sound. -/
theorem isSound_revised
    {manifest : Manifest}
    (sound : manifest.IsSound)
    {revisions : List Revision}
    (oneLine : ∀ revision ∈ revisions, revision.IsOneLine) :
    (manifest.revised revisions).IsSound := by
  induction revisions generalizing manifest with
  | nil => exact sound
  | cons revision following inductionHypothesis =>
      exact inductionHypothesis (Revision.isSound_apply sound (oneLine revision (by simp)))
        fun other member => oneLine other (by simp [member])

end ModuleUpdate.Manifest
