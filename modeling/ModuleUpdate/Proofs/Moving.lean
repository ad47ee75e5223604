import ModuleUpdate.Proofs.ImportMove
import ModuleUpdate.Proofs.Loading
import ModuleUpdate.Proofs.Sorting
import ModuleUpdate.Proofs.Source.Changes
import ModuleUpdate.Update

namespace ModuleUpdate.ImportMove

/-!
# What moving imports tells

The files that a move of imports tells of are exactly those whose bytes it changed, by their names
below the directory and in order.  Where a directory of the module cannot be listed or one of its
sources cannot be read, no file is written.  Where only the full path of a source is too long, the
sources that are visited earlier are written all the same.
-/

variable {tree : FileTree} {directory old new : Text} {root : Location} {moved : ImportMove}

/-- The bytes of an affected file are changed. -/
private theorem changed_iff_affected
    {graph : PackageGraph}
    (loaded : PackageGraph.load tree directory = .ok graph)
    (isMoved : below tree directory directory old new = .ok moved)
    {names : Location} :
    moved.tree.file? (graph.root ++ names) ≠ tree.file? (graph.root ++ names) ↔
      ∃ written ∈ affected graph.visited old new, written.1.names = names := by
  obtain ⟨other, sameLoaded, _, written, _⟩ := below_eq_ok isMoved
  rw [loaded, Except.ok.injEq] at sameLoaded
  subst sameLoaded
  rw [written]
  constructor
  · intro isChanged
    by_contra notAffected
    simp only [not_exists, not_and] at notAffected
    refine isChanged (file?_writeAll_of_not_mem fun written member same => ?_)
    exact notAffected written member (List.append_cancel_left same)
  · rintro ⟨⟨file, text⟩, member, rfl⟩
    obtain ⟨isFile, rewritten⟩ := (mem_affected_iff loaded).mp member
    obtain ⟨bytes, held, _, read⟩ := (PackageGraph.mem_files_iff loaded).mp isFile
    obtain ⟨_, spelled, scanned⟩ := SourceFile.ofBytes_eq_ok read
    rw [file?_writeAll_of_mem (nodup_affected loaded old new) member, held]
    intro same
    rw [← Option.some_inj.mp same, Text.ofBytes?_toBytes, Option.some_inj] at spelled
    exact Source.ne_of_moveImports? scanned rewritten spelled

/-- Changed files are told by the names on the way down to them, in order. -/
private theorem changed_of_below
    {graph : PackageGraph}
    (loaded : PackageGraph.load tree directory = .ok graph)
    (isMoved : below tree directory directory old new = .ok moved)
    (areNames : ∀ written ∈ affected graph.visited old new,
      ∀ name ∈ written.1.names, FilePath.IsName name) :
    moved.changed =
      stableSort (fun left right => (compare left right).isLT)
        ((affected graph.visited old new).map fun written => Text.join ['/'] written.1.names) := by
  obtain ⟨other, sameLoaded, _, _, told⟩ := below_eq_ok isMoved
  rw [loaded, Except.ok.injEq] at sameLoaded
  subst sameLoaded
  rw [told]
  refine congrArg (stableSort _) (List.map_congr_left fun written member => ?_)
  exact FilePath.relativeTo_descendant directory (areNames written member)

/-- No two affected files are told by the same names. -/
private theorem nodup_join_affected
    {graph : PackageGraph}
    (loaded : PackageGraph.load tree directory = .ok graph)
    (areNames : ∀ written ∈ affected graph.visited old new,
      ∀ name ∈ written.1.names, FilePath.IsName name) :
    ((affected graph.visited old new).map fun written => Text.join ['/'] written.1.names).Nodup := by
  have apart := nodup_affected loaded old new
  rw [List.Nodup, List.pairwise_map] at apart ⊢
  refine apart.imp_of_mem ?_
  intro first second isFirst isSecond differ same
  have notEmpty : ∀ written ∈ affected graph.visited old new, written.1.names ≠ [] := by
    rintro ⟨file, text⟩ member noNames
    obtain ⟨isFile, _⟩ := (mem_affected_iff loaded).mp member
    obtain ⟨_, _, eligible, _⟩ := (PackageGraph.mem_files_iff loaded).mp isFile
    rw [SourceFile.isEligible, noNames] at eligible
    cases eligible
  have readBack := congrArg (List.splitOn '/') same
  rw [FilePath.splitOn_join (notEmpty first isFirst) (areNames first isFirst),
    FilePath.splitOn_join (notEmpty second isSecond) (areNames second isSecond)] at readBack
  exact differ readBack

/-- A move succeeds exactly if the module can be loaded and each of its sources is reached. -/
theorem exists_below_iff
    (isRoot : tree.directory? directory = some root)
    (relativeTo old new : Text) :
    (∃ moved, below tree directory relativeTo old new = .ok moved) ↔
      PackageGraph.IsLoadable tree directory root ∧
        ∀ names,
          (tree.file? (root ++ names)).isSome = true →
            SourceFile.IsSource tree directory root names →
              tree.isResolvable (FilePath.descendant directory names) = true := by
  constructor
  · rintro ⟨moved, isMoved⟩
    obtain ⟨graph, loaded, allReached, _⟩ := below_eq_ok isMoved
    obtain ⟨isGraphRoot, _⟩ := PackageGraph.load_eq_ok loaded
    obtain rfl : root = graph.root := Option.some_inj.mp (isRoot.symm.trans isGraphRoot)
    refine ⟨(PackageGraph.exists_load_iff isRoot).mp ⟨graph, loaded⟩, ?_⟩
    intro names present isSource
    obtain ⟨bytes, held⟩ := Option.isSome_iff_exists.mp present
    obtain ⟨file, isFile, read⟩ :=
      PackageGraph.exists_mem_files loaded held (SourceFile.isEligible_iff.mpr isSource)
    obtain ⟨rfl, _⟩ := SourceFile.ofBytes_eq_ok read
    exact allReached file (((PackageGraph.visited_of_load loaded).2 file).mpr isFile)
  · rintro ⟨loadable, resolvable⟩
    obtain ⟨graph, loaded⟩ := (PackageGraph.exists_load_iff isRoot).mpr loadable
    obtain ⟨isGraphRoot, _⟩ := PackageGraph.load_eq_ok loaded
    obtain rfl : root = graph.root := Option.some_inj.mp (isRoot.symm.trans isGraphRoot)
    refine exists_below_of_load loaded (fun file isVisited => ?_) relativeTo old new
    rw [(PackageGraph.visited_of_load loaded).2] at isVisited
    obtain ⟨bytes, held, eligible, _⟩ := (PackageGraph.mem_files_iff loaded).mp isVisited
    exact resolvable file.names (by rw [held]; rfl) (SourceFile.isEligible_iff.mp eligible)

/--
Some sources below a root hold their texts with the imports moved, where any is, and every other
file is as it was.
-/
structure RewritesExactly
    (before after : FileTree)
    (root : Location)
    (old new : Text)
    (isRewritten : Location → Prop) :
    Prop where
  rewritten :
    ∀ names bytes text header,
      isRewritten names →
        before.file? (root ++ names) = some bytes →
          Text.ofBytes? bytes = some text →
            Source.Header.ofText text = .ok header →
              after.file? (root ++ names) =
                some ((Source.moveImports? text header old new).elim bytes Text.toBytes)
  others :
    ∀ location,
      (∀ names, isRewritten names → location ≠ root ++ names) →
        after.file? location = before.file? location

/-- A move that succeeds rewrites the sources of the module. -/
private theorem rewritesExactly_below
    (isRoot : tree.directory? directory = some root)
    (isMoved : below tree directory directory old new = .ok moved) :
    RewritesExactly tree moved.tree root old new
      (SourceFile.IsSource tree directory root) := by
  refine ⟨?_, ?_⟩
  · intro names bytes text header isSource held spelled scanned
    obtain ⟨_, _, sameText, sameHeader, holds⟩ :=
      file?_below_of_eligible isMoved isRoot (SourceFile.isEligible_iff.mpr isSource) held
    cases spelled.symm.trans sameText
    cases scanned.symm.trans sameHeader
    exact holds
  · intro location other
    refine file?_below_of_not_eligible isMoved fun otherRoot names isOther eligible => ?_
    obtain rfl := Option.some_inj.mp (isRoot.symm.trans isOther)
    exact other names (SourceFile.isEligible_iff.mp eligible)

/-- A move that succeeds tells of the files that it changed, in strictly ascending order. -/
private theorem told_of_below
    (isRoot : tree.directory? directory = some root)
    (areNames : ∀ location,
      (tree.file? location).isSome = true → ∀ name ∈ location, FilePath.IsName name)
    (isMoved : below tree directory directory old new = .ok moved) :
    moved.changed.Pairwise (fun earlier later => compare earlier later = .lt) ∧
      ∀ path,
        path ∈ moved.changed ↔
          ∃ names,
            path = Text.join ['/'] names ∧
              moved.tree.file? (root ++ names) ≠ tree.file? (root ++ names) := by
  obtain ⟨graph, loaded, _⟩ := below_eq_ok isMoved
  obtain ⟨isGraphRoot, _⟩ := PackageGraph.load_eq_ok loaded
  obtain rfl : root = graph.root := Option.some_inj.mp (isRoot.symm.trans isGraphRoot)
  have affectedNames : ∀ written ∈ affected graph.visited old new,
      ∀ name ∈ written.1.names, FilePath.IsName name := by
    rintro ⟨file, text⟩ member name within
    obtain ⟨isFile, _⟩ := (mem_affected_iff loaded).mp member
    obtain ⟨bytes, held, _⟩ := (PackageGraph.mem_files_iff loaded).mp isFile
    exact areNames _ (by rw [held]; rfl) name (List.mem_append_right _ within)
  rw [changed_of_below loaded isMoved affectedNames]
  refine ⟨ascending_stableSort (nodup_join_affected loaded affectedNames), fun path => ?_⟩
  rw [(stableSort_perm _ _).mem_iff]
  simp only [List.mem_map, changed_iff_affected loaded isMoved]
  constructor
  · rintro ⟨written, member, rfl⟩
    exact ⟨written.1.names, rfl, written, member, rfl⟩
  · rintro ⟨_, rfl, written, member, rfl⟩
    exact ⟨written, member, rfl⟩

/-- The sources in front of one that is visited are rewritten where a move halts there. -/
private theorem rewritesExactly_of_visited
    {graph : PackageGraph}
    (loaded : PackageGraph.load tree directory = .ok graph)
    {earlier later : List SourceFile}
    (split : graph.visited = earlier ++ later)
    (old new : Text) :
    RewritesExactly tree (writeAll tree graph.root (affected earlier old new)) graph.root old new
      (· ∈ earlier.map SourceFile.names) := by
  obtain ⟨distinct, visited⟩ := PackageGraph.visited_of_load loaded
  rw [split, List.map_append] at distinct
  refine ⟨?_, fun location others => ?_⟩
  · intro names bytes text header member held spelled scanned
    obtain ⟨file, isEarlier, rfl⟩ := List.mem_map.mp member
    have isFile : file ∈ graph.files :=
      (visited file).mp (split ▸ List.mem_append_left later isEarlier)
    obtain ⟨fileBytes, fileHeld, _, read⟩ := (PackageGraph.mem_files_iff loaded).mp isFile
    obtain ⟨_, fileSpelled, fileScanned⟩ := SourceFile.ofBytes_eq_ok read
    obtain rfl := Option.some_inj.mp (held.symm.trans fileHeld)
    obtain rfl := Option.some_inj.mp (spelled.symm.trans fileSpelled)
    obtain rfl := Except.ok.inj (scanned.symm.trans fileScanned)
    exact file?_writeAll_affected (List.Nodup.of_append_left distinct) isEarlier held
  · exact file?_writeAll_affected_of_other fun file isEarlier =>
      others file.names (List.mem_map_of_mem isEarlier)

/--
A move halts before it writes anything, where the packages cannot be loaded, or in front of a
source that it cannot reach, and then it has rewritten the sources that are visited earlier.
-/
theorem rewritesExactly_of_halted
    {relativeTo : Text}
    {halted : HaltedMove}
    (isHalted : below tree directory relativeTo old new = .error halted) :
    (∃ error,
        PackageGraph.load tree directory = .error error ∧
          halted.failure = .imports error ∧ halted.tree = tree) ∨
      ∃ graph earlier names later,
        PackageGraph.load tree directory = .ok graph ∧
          graph.visited.map SourceFile.names = earlier ++ names :: later ∧
          (∀ other ∈ earlier,
            tree.isResolvable (FilePath.descendant directory other) = true) ∧
          tree.isResolvable (FilePath.descendant directory names) = false ∧
          halted.failure = .unreadable (FilePath.descendant directory names) .tooLong ∧
          RewritesExactly tree halted.tree graph.root old new (· ∈ earlier) := by
  refine (below_eq_error isHalted).imp_right ?_
  rintro ⟨graph, earlier, file, later, loaded, split, reached, notReached, isUnreadable, written⟩
  refine
    ⟨graph, earlier.map SourceFile.names, file.names, later.map SourceFile.names, loaded,
      by rw [split, List.map_append, List.map_cons], ?_, notReached, isUnreadable, ?_⟩
  · intro names member
    obtain ⟨other, isEarlier, rfl⟩ := List.mem_map.mp member
    exact reached other isEarlier
  · rw [written]
    exact rewritesExactly_of_visited loaded split old new

/-- Which of the two ways a move halts in is told by whether the module can be loaded. -/
private theorem halted_cases
    {halted : HaltedMove}
    (isRoot : tree.directory? directory = some root)
    (isHalted : below tree directory directory old new = .error halted) :
    (¬PackageGraph.IsLoadable tree directory root ∧
        (∃ error, halted.failure = .imports error) ∧ halted.tree = tree) ∨
      PackageGraph.IsLoadable tree directory root ∧
        ∃ graph earlier names later,
          PackageGraph.load tree directory = .ok graph ∧
            graph.visited.map SourceFile.names = earlier ++ names :: later ∧
            (∀ other ∈ earlier,
              tree.isResolvable (FilePath.descendant directory other) = true) ∧
            tree.isResolvable (FilePath.descendant directory names) = false ∧
            halted.failure = .unreadable (FilePath.descendant directory names) .tooLong ∧
            RewritesExactly tree halted.tree root old new (· ∈ earlier) := by
  have loadable := PackageGraph.exists_load_iff isRoot
  rcases rewritesExactly_of_halted isHalted with
    ⟨error, failed, isImports, sameTree⟩ | ⟨graph, earlier, names, later, loaded, visited⟩
  · refine .inl ⟨fun isLoadable => ?_, ⟨error, isImports⟩, sameTree⟩
    obtain ⟨graph, loaded⟩ := loadable.mpr isLoadable
    rw [failed] at loaded
    cases loaded
  · obtain ⟨isGraphRoot, _⟩ := PackageGraph.load_eq_ok loaded
    obtain rfl : root = graph.root := Option.some_inj.mp (isRoot.symm.trans isGraphRoot)
    exact .inr
      ⟨loadable.mp ⟨graph, loaded⟩, graph, earlier, names, later, loaded, visited⟩

/-- A move of imports that halts hands on its failure and its tree. -/
private theorem move_of_below_eq_error
    {batch : Batch}
    {halted : HaltedMove}
    (isHalted : below batch.tree batch.directory batch.directory old new = .error halted) :
    (batch.move old new).1.tree = halted.tree ∧
      (batch.move old new).2 = some halted.failure := by
  simp only [Batch.move, isHalted, and_self]

/--
Moving imports below a directory succeeds exactly if the path of every directory of the module can
be followed, every source of it can be read, and the full path of every source can be found out.
Then each source holds its text with the imports moved, where any is, every other file is as it
was, and the files that are told of, in strictly ascending order, are those whose bytes changed.
Where a directory cannot be listed or a source cannot be read, no file is written.  Otherwise the
move halts in front of the first source, in the order of the packages, whose full path cannot be
found out, and the sources in front of it are rewritten.
-/
theorem files_of_move
    (isRoot : tree.directory? directory = some root)
    (areNames : ∀ location,
      (tree.file? location).isSome = true → ∀ name ∈ location, FilePath.IsName name)
    (old new : Text) :
    ((∃ moved, below tree directory directory old new = .ok moved) ↔
        PackageGraph.IsLoadable tree directory root ∧
          ∀ names,
            (tree.file? (root ++ names)).isSome = true →
              SourceFile.IsSource tree directory root names →
                tree.isResolvable (FilePath.descendant directory names) = true) ∧
      (∀ moved,
        below tree directory directory old new = .ok moved →
          RewritesExactly tree moved.tree root old new
              (SourceFile.IsSource tree directory root) ∧
            moved.changed.Pairwise (fun earlier later => compare earlier later = .lt) ∧
            ∀ path,
              path ∈ moved.changed ↔
                ∃ names,
                  path = Text.join ['/'] names ∧
                    moved.tree.file? (root ++ names) ≠ tree.file? (root ++ names)) ∧
      ∀ halted,
        below tree directory directory old new = .error halted →
          ((¬PackageGraph.IsLoadable tree directory root ∧
              (∃ error, halted.failure = .imports error) ∧ halted.tree = tree) ∨
            PackageGraph.IsLoadable tree directory root ∧
              ∃ graph earlier names later,
                PackageGraph.load tree directory = .ok graph ∧
                  graph.visited.map SourceFile.names = earlier ++ names :: later ∧
                  (∀ other ∈ earlier,
                    tree.isResolvable (FilePath.descendant directory other) = true) ∧
                  tree.isResolvable (FilePath.descendant directory names) = false ∧
                  halted.failure = .unreadable (FilePath.descendant directory names) .tooLong ∧
                  RewritesExactly tree halted.tree root old new (· ∈ earlier)) ∧
            ∀ batch : Batch,
              batch.tree = tree →
                batch.directory = directory →
                  (batch.move old new).1.tree = halted.tree ∧
                    (batch.move old new).2 = some halted.failure := by
  refine ⟨exists_below_iff isRoot directory old new, fun moved isMoved => ?_,
    fun halted isHalted => ⟨halted_cases isRoot isHalted, ?_⟩⟩
  · exact ⟨rewritesExactly_below isRoot isMoved, told_of_below isRoot areNames isMoved⟩
  · rintro batch rfl rfl
    exact move_of_below_eq_error isHalted

/-- A source that imports the module that moves. -/
private def importing : Text :=
  "package m\n\nimport \"m.io/a/b\"\n".toList

/-- Two sources of the module, and one each in a vendored, a hidden and a nested module. -/
private def modulesTree : FileTree where
  files :=
    [(["m.go".toList], Text.toBytes importing),
      (["sub".toList, "m_test.go".toList], Text.toBytes importing),
      (["vendor".toList, "v.go".toList], Text.toBytes importing),
      ([".git".toList, "g.go".toList], Text.toBytes importing),
      (["nested".toList, "go.mod".toList], Text.toBytes "module n\n".toList),
      (["nested".toList, "n.go".toList], Text.toBytes importing)]
  distinct := by decide

theorem files_of_move_modules :
    ∃ moved,
      below modulesTree ".".toList ".".toList "m.io/a".toList "m.io/a/v2".toList = .ok moved ∧
        moved.changed = ["m.go".toList, "sub/m_test.go".toList] ∧
        moved.changed.Pairwise (fun earlier later => compare earlier later = .lt) ∧
        ∀ path,
          path ∈ moved.changed ↔
            ∃ names,
              path = Text.join ['/'] names ∧
                moved.tree.file? ([] ++ names) ≠ modulesTree.file? ([] ++ names) := by
  have isRoot : modulesTree.directory? ".".toList = some [] := by decide +kernel
  have areNames : ∀ location,
      (modulesTree.file? location).isSome = true → ∀ name ∈ location, FilePath.IsName name := by
    have listed : ∀ location ∈ modulesTree.files.map Prod.fst,
        ∀ name ∈ location, FilePath.IsName name := by
      decide
    exact fun location isFile => listed location (FileTree.file?_isSome_iff.mp isFile)
  have told :
      (below modulesTree ".".toList ".".toList "m.io/a".toList "m.io/a/v2".toList).toOption.map
          ImportMove.changed =
        some ["m.go".toList, "sub/m_test.go".toList] := by
    decide +kernel
  obtain ⟨_, succeeds, _⟩ := files_of_move isRoot areNames "m.io/a".toList "m.io/a/v2".toList
  cases isMoved : below modulesTree ".".toList ".".toList "m.io/a".toList "m.io/a/v2".toList with
  | error error =>
      rw [isMoved] at told
      cases told
  | ok moved =>
      rw [isMoved] at told
      obtain ⟨_, ascending, exactly⟩ := succeeds moved isMoved
      exact ⟨moved, rfl, Option.some_inj.mp told, ascending, exactly⟩

/-- The current directory by a path that is almost too long. -/
private def farDirectory : Text :=
  (List.replicate 2045 "./".toList).flatten

/-- One source, and beside it a directory without sources. -/
private def lettersTree : FileTree where
  files :=
    [(["m.go".toList], Text.toBytes importing),
      (["letters".toList, "x.txt".toList], Text.toBytes [])]
  distinct := by decide

/--
Every source can be read, but the directory beside it has a path that is too long to list it, so
nothing is moved.
-/
theorem files_of_move_unlistable :
    lettersTree.directory? farDirectory = some [] ∧
      (∀ names bytes,
        lettersTree.file? ([] ++ names) = some bytes →
          SourceFile.IsSource lettersTree farDirectory [] names →
            ∃ text header,
              Text.ofBytes? bytes = some text ∧ Source.Header.ofText text = .ok header) ∧
      ¬∃ moved,
        below lettersTree farDirectory farDirectory "m.io/a".toList "m.io/a/v2".toList =
          .ok moved := by
  refine ⟨by decide +kernel, ?_, ?_⟩
  · intro names bytes held isSource
    have member := FileTree.file?_eq_some_iff.mp held
    simp only [lettersTree, List.mem_cons, List.not_mem_nil, or_false] at member
    rcases member with isFile | isFile
    · cases isFile
      cases scanned : Source.Header.ofText importing with
      | error error =>
          have isRead : (Source.Header.ofText importing).isOk = true := by decide +kernel
          rw [scanned] at isRead
          cases isRead
      | ok header => exact ⟨importing, header, Text.ofBytes?_toBytes importing, scanned⟩
    · cases isFile
      obtain ⟨name, isLast, isNamed, _⟩ := isSource.name
      cases isLast
      have named : ".go".toList <:+ "x.txt".toList := isNamed
      exact absurd named (by decide)
  · rintro ⟨moved, isMoved⟩
    have failed :
        (below lettersTree farDirectory farDirectory "m.io/a".toList
          "m.io/a/v2".toList).toOption.isNone = true := by
      decide +kernel
    rw [isMoved] at failed
    cases failed

end ModuleUpdate.ImportMove
