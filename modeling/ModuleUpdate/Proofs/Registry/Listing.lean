import ModuleUpdate.Proofs.Selection
import ModuleUpdate.Proofs.Sorting
import ModuleUpdate.Proofs.Text
import ModuleUpdate.Proofs.Version.Spelling
import ModuleUpdate.Registry.Proxy

namespace ModuleUpdate.Proxy

/-!
# What a proxy lists

The versions in the text of a list are those on its lines, in strictly ascending order.  There is
only one such list of them.  So it does not matter in which order, how often and between which
white space a proxy lists them, and the version that is selected is the greatest accepted one.
-/

/-- The text of a list has a line with the version, which white space may stand around. -/
def Lists (body version : Text) : Prop :=
  version ≠ [] ∧ ∃ line ∈ Text.lines body, Text.trim line = version

/-- The versions of a list are those on its lines. -/
theorem mem_versions_iff
    {body version : Text} :
    version ∈ versions body ↔ Lists body version := by
  simp only [versions, Lists]
  rw [mem_eraseReps, (stableSort_perm _ _).mem_iff, List.mem_filter, List.mem_map,
    decide_eq_true_iff, and_comm]

/-- Listed versions have no white space around them, so the order tells them apart. -/
theorem Lists.eq_of_order
    {body first second : Text}
    (firstListed : Lists body first)
    (secondListed : Lists body second)
    (same : Version.order first second = .eq) :
    first = second := by
  obtain ⟨_, firstLine, _, rfl⟩ := firstListed
  obtain ⟨_, secondLine, _, rfl⟩ := secondListed
  simpa only [Text.trim_trim] using Version.trim_eq_of_order same

/-- The versions of a list ascend strictly. -/
theorem ascending_versions (body : Text) :
    (versions body).Pairwise fun earlier later => Version.order earlier later = .lt := by
  have separates :
      ∀ first ∈ versions body, ∀ second ∈ versions body,
        Version.order first second = .eq → first = second :=
    fun _ isFirst _ isSecond =>
      Lists.eq_of_order (mem_versions_iff.mp isFirst) (mem_versions_iff.mp isSecond)
  exact ascending_eraseReps (notDescending_stableSort _)
    fun first isFirst second isSecond =>
      separates first (mem_eraseReps.mpr isFirst) second (mem_eraseReps.mpr isSecond)

/-- Texts that list the same versions make the same list. -/
theorem versions_congr
    {first second : Text}
    (same : ∀ version, Lists first version ↔ Lists second version) :
    versions first = versions second := by
  refine eq_of_ascending (ascending_versions first) (ascending_versions second) fun version => ?_
  rw [mem_versions_iff, mem_versions_iff]
  exact same version

/--
The versions in the text of a list depend on the versions that stand on its lines alone, and
selection from them takes the greatest of these that is accepted, or stays at the current version.
-/
theorem versions_of_list (body : Text) :
    (versions body).Pairwise (fun earlier later => Version.order earlier later = .lt) ∧
      (∀ version, version ∈ versions body ↔ Lists body version) ∧
      (∀ other,
        (∀ version, Lists other version ↔ Lists body version) → versions other = versions body) ∧
      ∀ dependency exclusions,
        Pseudo.isPseudo dependency.version = false →
          Selection.IsGreatest
              (fun version =>
                Lists body version ∧ Selection.accepts dependency exclusions version = true)
              (Selection.select dependency (versions body) exclusions) ∨
            (∀ version, Lists body version →
                Selection.accepts dependency exclusions version = false) ∧
              Selection.select dependency (versions body) exclusions = dependency.version := by
  refine ⟨ascending_versions body, fun version => mem_versions_iff,
    fun other same => versions_congr same, fun dependency exclusions notPseudo => ?_⟩
  have selected := Selection.isGreatest_select exclusions (ascending_versions body) notPseudo
  simpa only [mem_versions_iff] using selected

/-- Three versions and a name, with white space, a blank line and a repetition. -/
private def paddedList : Text :=
  "v1.10.0\r\n\t v1.9.0 \n\nlatest\nv1.10.0\nv2.0.0-rc.1".toList

/-- The same entries in another order, each on a line of its own. -/
private def plainList : Text :=
  "v2.0.0-rc.1\nv1.9.0\nv1.10.0\nlatest\n".toList

private def currentRelease : Dependency where
  name := "m.io/a".toList
  version := "v1.2.0".toList

/-- Both lists are the same to a selection, which leaves out the prerelease. -/
theorem versions_of_list_padded :
    versions paddedList = versions plainList ∧
      Selection.select currentRelease (versions paddedList) [] = "v1.10.0".toList ∧
      Selection.IsGreatest
        (fun version =>
          Lists paddedList version ∧ Selection.accepts currentRelease [] version = true)
        "v1.10.0".toList := by
  have sameVersions : ∀ version, Lists paddedList version ↔ Lists plainList version := by
    intro version
    have paddedEntries :
        (Text.lines paddedList).map Text.trim =
          ["v1.10.0".toList, "v1.9.0".toList, [], "latest".toList, "v1.10.0".toList,
            "v2.0.0-rc.1".toList] := by
      decide +kernel
    have plainEntries :
        (Text.lines plainList).map Text.trim =
          ["v2.0.0-rc.1".toList, "v1.9.0".toList, "v1.10.0".toList, "latest".toList] := by
      decide +kernel
    simp only [Lists, ← List.mem_map]
    rw [paddedEntries, plainEntries]
    grind
  have selected :
      Selection.select currentRelease (versions paddedList) [] = "v1.10.0".toList := by
    decide +kernel
  refine ⟨(versions_of_list plainList).2.2.1 paddedList sameVersions, selected, ?_⟩
  rw [← selected]
  refine ((versions_of_list paddedList).2.2.2 currentRelease [] (by decide +kernel)).resolve_right ?_
  rintro ⟨_, unchanged⟩
  rw [selected] at unchanged
  exact absurd unchanged (by decide)

end ModuleUpdate.Proxy
