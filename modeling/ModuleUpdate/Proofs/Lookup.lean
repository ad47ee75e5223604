namespace ModuleUpdate

/-!
# Lists of entries as finite maps

A list of keys with values is a finite map once no key occurs twice.  Manifests and file trees
both keep such lists.
-/

section

variable {Key Value : Type} [BEq Key] [LawfulBEq Key]

/-- Where no key occurs twice, an entry is found under its key. -/
theorem lookup_eq_some_iff_mem
    {entries : List (Key × Value)}
    (distinct : (entries.map Prod.fst).Nodup)
    {key : Key}
    {value : Value} :
    entries.lookup key = some value ↔ (key, value) ∈ entries := by
  induction entries with
  | nil => simp
  | cons entry following inductionHypothesis =>
      obtain ⟨absent, others⟩ := List.nodup_cons.mp distinct
      obtain ⟨name, held⟩ := entry
      by_cases same : key = name
      · subst same
        have notLater : (key, value) ∉ following :=
          fun member => absent (List.mem_map.mpr ⟨_, member, rfl⟩)
        simp [notLater, eq_comm]
      · have differs : (key == name) = false := beq_eq_false_iff_ne.mpr same
        simp [List.lookup_cons, differs, same, inductionHypothesis others]

theorem lookup_eq_none_of_not_mem
    {entries : List (Key × Value)}
    {key : Key}
    (absent : key ∉ entries.map Prod.fst) :
    entries.lookup key = none := by
  rw [List.lookup_eq_none_iff]
  intro entry member
  rw [bne_iff_ne]
  intro isKey
  exact absent (isKey ▸ List.mem_map_of_mem member)

end

end ModuleUpdate
