import Mathlib.Data.List.Chain
import ModuleUpdate.Manifest.Canonical
import ModuleUpdate.Manifest.Editing
import ModuleUpdate.Proofs.Manifest.Clauses

namespace ModuleUpdate

/-!
# Readable manifests

A manifest is readable when every token and every comment of it is spelled so that its line is
read back, and blank lines inside a block stand alone.  Reading a text gives a readable manifest,
and no edit, neither sorting nor tidying, leads out of the readable ones.
-/

/-- Remarks on lines of their own inside a block: comments and single blank lines. -/
structure IsMargin (remarks : List Text) : Prop where
  entries : ∀ remark ∈ remarks, remark = [] ∨ Token.IsComment remark
  blanksApart : remarks.IsChain fun earlier later => earlier = [] → later ≠ []

/-- A line whose arguments and trailing comment are read back. -/
structure Line.IsReadable (line : Line) : Prop where
  arguments : ∀ argument ∈ line.arguments, Token.IsSpelled argument
  noParenthesis : line.arguments.any Draft.isParenthesis = false
  trailing : ∀ comment ∈ line.comments.trailing, Token.IsComment comment

/-- A line that is read back inside a block. -/
structure Line.IsReadableInside (line : Line) : Prop extends line.IsReadable where
  notEmpty : line.arguments ≠ []
  before : IsMargin line.comments.before

/-- A block that is read back. -/
structure Block.IsReadable (block : Block) : Prop where
  verb : block.verb.standsAlone = false
  before : ∀ comment ∈ block.comments.before, Token.IsComment comment
  trailing : ∀ comment ∈ block.comments.trailing, Token.IsComment comment
  lines : ∀ line ∈ block.lines, line.IsReadableInside
  closing : IsMargin block.closing

/-- A statement that is read back. -/
def Content.IsReadable : Content → Prop
  | .directive _ line =>
      line.IsReadable ∧ ∀ comment ∈ line.comments.before, Token.IsComment comment
  | .block group => group.IsReadable
  | .remark comments => comments ≠ [] ∧ ∀ comment ∈ comments, Token.IsComment comment

/-- Statements that are read back. -/
def Statement.AreReadable (statements : List Statement) : Prop :=
  ∀ statement ∈ statements, statement.content.IsReadable

theorem isMargin_nil : IsMargin [] :=
  ⟨by simp, .nil⟩

/-- An open block that is read back once it is closed. -/
structure OpenBlock.IsReadable (opened : OpenBlock) : Prop where
  block : opened.block.IsReadable
  pending : IsMargin opened.pending

/-- A draft that leads to readable statements. -/
structure Draft.IsReadable (draft : Draft) : Prop where
  statements : Statement.AreReadable draft.statements
  pending : ∀ comment ∈ draft.pending, Token.IsComment comment
  openBlock : ∀ opened ∈ draft.openBlock, opened.IsReadable

namespace OpenBlock

/-- A comment of its own keeps an open block readable. -/
theorem isReadable_addRemark
    {opened : OpenBlock}
    (readable : opened.IsReadable)
    {comment : Option Text}
    (isComment : ∀ text ∈ comment, Token.IsComment text) :
    (opened.addRemark comment).IsReadable := by
  obtain ⟨block, pending⟩ := readable
  simp only [addRemark]
  split
  · next text =>
      have spelled := isComment text rfl
      refine ⟨block, ?_, ?_⟩
      · intro remark member
        rcases List.mem_append.mp member with earlier | isNew
        · exact pending.entries remark earlier
        · rw [List.mem_singleton] at isNew
          exact .inr (isNew ▸ spelled)
      · rw [List.isChain_append]
        refine ⟨pending.blanksApart, .singleton _, ?_⟩
        rintro _ _ _ ⟨⟩ _ rfl
        exact spelled.ne_nil rfl
  · split
    · exact ⟨block, pending⟩
    · next lastNotBlank =>
        refine ⟨block, ?_, ?_⟩
        · intro remark member
          rcases List.mem_append.mp member with earlier | isNew
          · exact pending.entries remark earlier
          · exact .inl (List.mem_singleton.mp isNew)
        · rw [List.isChain_append]
          refine ⟨pending.blanksApart, .singleton _, ?_⟩
          rintro last isLast _ ⟨⟩ rfl
          exact absurd isLast lastNotBlank

/-- A spelled row keeps an open block readable. -/
theorem isReadable_addLine
    {opened : OpenBlock}
    (readable : opened.IsReadable)
    (number : Nat)
    {row : Token.Row}
    (spelled : row.IsSpelled)
    (notEmpty : row.tokens ≠ [])
    (noParenthesis : row.tokens.any Draft.isParenthesis = false) :
    (opened.addLine number row).IsReadable := by
  obtain ⟨block, pending⟩ := readable
  refine ⟨{ block with lines := ?_ }, isMargin_nil⟩
  intro line member
  rcases List.mem_append.mp member with earlier | isNew
  · exact block.lines line earlier
  · rw [List.mem_singleton] at isNew
    subst isNew
    exact
      { arguments := spelled.tokens
        noParenthesis
        trailing := spelled.comment
        notEmpty
        before := pending }

/-- A readable block is readable once it is closed. -/
theorem isReadable_close
    {opened : OpenBlock}
    (readable : opened.IsReadable) :
    opened.close.content.IsReadable :=
  { readable.block with closing := readable.pending }

end OpenBlock

namespace Draft

/-- The statements of a readable draft are readable. -/
theorem areReadable_flushed
    {draft : Draft}
    (readable : draft.IsReadable) :
    Statement.AreReadable draft.flushed := by
  simp only [flushed]
  split
  · exact readable.statements
  · next somePending =>
      intro statement member
      rcases List.mem_append.mp member with earlier | isNew
      · exact readable.statements statement earlier
      · rw [List.mem_singleton] at isNew
        subst isNew
        exact ⟨somePending, readable.pending⟩

/-- Reading one more row inside a block keeps a draft readable. -/
theorem isReadable_addInside
    {draft extended : Draft}
    {opened : OpenBlock}
    {number : Nat}
    {row : Token.Row}
    (readable : draft.IsReadable)
    (isOpen : draft.openBlock = some opened)
    (spelled : row.IsSpelled)
    (added : draft.addInside opened number row = .ok extended) :
    extended.IsReadable := by
  have openedReadable := readable.openBlock opened isOpen
  simp only [addInside] at added
  split at added
  · cases added
    refine { readable with openBlock := ?_ }
    rintro _ ⟨⟩
    exact OpenBlock.isReadable_addRemark openedReadable spelled.comment
  · split at added
    · cases added
      refine ⟨?_, readable.pending, by simp⟩
      intro statement member
      rcases List.mem_append.mp member with earlier | isNew
      · exact readable.statements statement earlier
      · rw [List.mem_singleton] at isNew
        exact isNew ▸ OpenBlock.isReadable_close openedReadable
    · split at added
      · cases added
      · next notEmpty _ noParenthesis =>
          cases added
          refine { readable with openBlock := ?_ }
          rintro _ ⟨⟩
          exact OpenBlock.isReadable_addLine openedReadable number spelled notEmpty
            (by simpa using noParenthesis)

/-- Reading one more row between statements keeps a draft readable. -/
theorem isReadable_addOutside
    {draft extended : Draft}
    {number : Nat}
    {row : Token.Row}
    (readable : draft.IsReadable)
    (isClosed : draft.openBlock = none)
    (spelled : row.IsSpelled)
    (added : draft.addOutside number row = .ok extended) :
    extended.IsReadable := by
  simp only [addOutside] at added
  split at added
  · cases added
    simp only [addRemark]
    split
    · next text isComment =>
        refine { readable with pending := ?_ }
        intro comment member
        rcases List.mem_append.mp member with earlier | isNew
        · exact readable.pending comment earlier
        · rw [List.mem_singleton] at isNew
          exact isNew ▸ spelled.comment text isComment
    · exact ⟨areReadable_flushed readable, by simp, readable.openBlock⟩
  · next word arguments tokens =>
      have argumentsSpelled : ∀ argument ∈ arguments, Token.IsSpelled argument :=
        fun argument member => spelled.tokens argument (by simp [tokens, member])
      split at added
      · cases added
      · split at added
        · cases added
        · next verb _ =>
            simp only [addDirective] at added
            split at added
            · split at added
              · cases added
              · next mayOpen =>
                  cases added
                  refine ⟨readable.statements, by simp, ?_⟩
                  rintro _ ⟨⟩
                  refine ⟨?_, isMargin_nil⟩
                  exact
                    { verb := by simpa using mayOpen
                      before := readable.pending
                      trailing := spelled.comment
                      lines := by simp
                      closing := isMargin_nil }
            · split at added
              · cases added
              · next noParenthesis =>
                  cases added
                  refine ⟨?_, by simp, by simp [isClosed]⟩
                  intro statement member
                  rcases List.mem_append.mp member with earlier | isNew
                  · exact readable.statements statement earlier
                  · rw [List.mem_singleton] at isNew
                    subst isNew
                    refine ⟨⟨argumentsSpelled, ?_, spelled.comment⟩, readable.pending⟩
                    simpa using noParenthesis

/-- Reading lines keeps a draft readable. -/
theorem isReadable_addLines
    {draft extended : Draft}
    {number : Nat}
    {lines : List Text}
    (readable : draft.IsReadable)
    (oneLine : ∀ line ∈ lines, '\n' ∉ line)
    (added : draft.addLines number lines = .ok extended) :
    extended.IsReadable := by
  induction lines generalizing draft number with
  | nil =>
      cases added
      exact readable
  | cons line following inductionHypothesis =>
      simp only [addLines] at added
      split at added
      · cases added
      · next further step =>
          refine inductionHypothesis ?_ (fun other member => oneLine other (by simp [member])) added
          simp only [addLine] at step
          split at step
          · cases step
          · next row opened read isOpen =>
              have spelled := Token.Row.isSpelled_of_readRow? read (oneLine line (by simp))
              exact isReadable_addInside readable isOpen spelled step
          · next row read isClosed =>
              have spelled := Token.Row.isSpelled_of_readRow? read (oneLine line (by simp))
              exact isReadable_addOutside readable isClosed spelled step

end Draft

/-- The statements that a text is read as are readable. -/
theorem Statement.areReadable_ofText
    {text : Text}
    {statements : List Statement}
    (read : Statement.ofText text = .ok statements) :
    Statement.AreReadable statements := by
  simp only [Statement.ofText] at read
  split at read
  · cases read
  · next draft added =>
      have empty : Draft.IsReadable {} :=
        { statements := fun _ member => nomatch member
          pending := fun _ member => nomatch member
          openBlock := fun _ member => nomatch member }
      have readable :=
        Draft.isReadable_addLines empty (fun _ => Text.lineFeed_not_mem_of_mem_lines) added
      simp only [Draft.finish] at read
      split at read
      · cases read
      · cases read
        exact Draft.areReadable_flushed readable

/-- Changing the first possible element changes one element. -/
theorem changeFirst?_eq_some
    {attempt : α → Option α}
    {elements changed : List α}
    (found : changeFirst? attempt elements = some changed) :
    ∃ front element after behind,
      elements = front ++ element :: behind ∧
        attempt element = some after ∧ changed = front ++ after :: behind := by
  induction elements generalizing changed with
  | nil => cases found
  | cons first following inductionHypothesis =>
      simp only [changeFirst?] at found
      split at found
      · next after step =>
          cases found
          exact ⟨[], first, after, following, rfl, step, rfl⟩
      · obtain ⟨rest, within, rfl⟩ := Option.map_eq_some_iff.mp found
        obtain ⟨front, element, after, behind, rfl, step, rfl⟩ := inductionHypothesis within
        exact ⟨first :: front, element, after, behind, rfl, step, rfl⟩

/-- Where no element is changed, none can be. -/
theorem changeFirst?_eq_none_iff
    {attempt : α → Option α}
    {elements : List α} :
    changeFirst? attempt elements = none ↔ ∀ element ∈ elements, attempt element = none := by
  induction elements with
  | nil => simp [changeFirst?]
  | cons first following inductionHypothesis =>
      simp only [changeFirst?]
      cases step : attempt first with
      | none => simp [step, inductionHypothesis]
      | some after => simp [step]

/-- Where no element is changed, none can be. -/
theorem changeLast?_eq_none_iff
    {attempt : α → Option α}
    {elements : List α} :
    changeLast? attempt elements = none ↔ ∀ element ∈ elements, attempt element = none := by
  induction elements with
  | nil => simp [changeLast?]
  | cons first following inductionHypothesis =>
      simp only [changeLast?]
      cases later : changeLast? attempt following with
      | none =>
          have others := inductionHypothesis.mp later
          simpa using fun _ => others
      | some changed =>
          have notAll : ¬∀ element ∈ following, attempt element = none := by
            rw [← inductionHypothesis, later]
            simp
          simpa using fun _ => notAll

/-- Changing the last possible element changes one element behind which none can be changed. -/
theorem changeLast?_eq_some
    {attempt : α → Option α}
    {elements changed : List α}
    (found : changeLast? attempt elements = some changed) :
    ∃ front element after behind,
      elements = front ++ element :: behind ∧
        attempt element = some after ∧
        (∀ other ∈ behind, attempt other = none) ∧ changed = front ++ after :: behind := by
  induction elements generalizing changed with
  | nil => cases found
  | cons first following inductionHypothesis =>
      simp only [changeLast?] at found
      split at found
      · next rest within =>
          cases found
          obtain ⟨front, element, after, behind, rfl, step, last, rfl⟩ :=
            inductionHypothesis within
          exact ⟨first :: front, element, after, behind, rfl, step, last, rfl⟩
      · next nothing =>
          obtain ⟨after, step, rfl⟩ := Option.map_eq_some_iff.mp found
          have last := changeLast?_eq_none_iff.mp nothing
          exact ⟨[], first, after, following, rfl, step, last, rfl⟩

/-- What holds of every element holds after one of them is changed. -/
theorem forall_of_change
    {Holds : α → Prop}
    {front behind : List α}
    {element after : α}
    (all : ∀ other ∈ front ++ element :: behind, Holds other)
    (kept : Holds element → Holds after) :
    ∀ other ∈ front ++ after :: behind, Holds other := by
  intro other member
  rcases List.mem_append.mp member with inFront | inRest
  · exact all other (by simp [inFront])
  · rcases List.mem_cons.mp inRest with rfl | inBehind
    · exact kept (all element (by simp))
    · exact all other (by simp [inBehind])

namespace Line

/-- A change that keeps a line readable wherever the line stands. -/
def KeepsReadable (change : Line → Line) : Prop :=
  ∀ line, line.IsReadable →
    (change line).IsReadable ∧
      (change line).comments.before = line.comments.before ∧
      (line.arguments ≠ [] → (change line).arguments ≠ [])

/-- A value is never spelled as a parenthesis. -/
private theorem ofValue_isParenthesis (value : Text) :
    Draft.isParenthesis (Token.ofValue value) = false := by
  have noStart : Token.ofValue value ≠ ['('] := Token.ofValue_not_parenthesis rfl value
  have noEnd : Token.ofValue value ≠ [')'] := Token.ofValue_not_parenthesis rfl value
  simp [Draft.isParenthesis, Token.blockStart, Token.blockEnd, noStart, noEnd]

/-- Another version of one line keeps a line readable. -/
theorem keepsReadable_withVersion
    {version : Text}
    (oneLine : '\n' ∉ version) :
    KeepsReadable (withVersion version) := by
  intro line readable
  simp only [withVersion]
  split
  · next name old same =>
      have nameReadable := readable.arguments name (by simp [same])
      have noParenthesis := readable.noParenthesis
      rw [same] at noParenthesis
      refine ⟨⟨?_, ?_, readable.trailing⟩, rfl, by simp⟩
      · intro argument member
        simp only [List.mem_cons, List.not_mem_nil, or_false] at member
        rcases member with rfl | rfl
        · exact nameReadable
        · exact Token.isSpelled_ofValue oneLine
      · simp only [List.any_cons, List.any_nil, Bool.or_false, Bool.or_eq_false_iff]
          at noParenthesis ⊢
        exact ⟨noParenthesis.1, ofValue_isParenthesis version⟩
  · exact ⟨readable, rfl, id⟩

/-- Setting the marker keeps a line readable. -/
theorem keepsReadable_withIndirect (indirect : Bool) :
    KeepsReadable (withIndirect indirect) := by
  intro line readable
  refine ⟨{ readable with trailing := ?_ }, rfl, id⟩
  exact Clauses.isComment_markComment readable.trailing indirect

/-- A new requirement whose path and version are of one line is readable in a block. -/
theorem isReadableInside_ofRequirement
    {path version : Text}
    (pathOneLine : '\n' ∉ path)
    (versionOneLine : '\n' ∉ version) :
    (ofRequirement path version).IsReadableInside where
  arguments := by
    intro argument member
    simp only [ofRequirement, List.mem_cons, List.not_mem_nil, or_false] at member
    rcases member with rfl | rfl
    · exact Token.isSpelled_ofValue pathOneLine
    · exact Token.isSpelled_ofValue versionOneLine
  noParenthesis := by
    simp [ofRequirement, ofValue_isParenthesis]
  trailing := by simp [ofRequirement]
  notEmpty := by simp [ofRequirement]
  before := isMargin_nil

end Line

namespace Block

/-- Comments leave room to write the only line of a block without parentheses. -/
structure Collapses (block : Block) (line : Line) : Prop where
  lines : block.lines = [line]
  closing : ∀ remark ∈ block.closing, remark = []
  trailing : block.comments.trailing = none ∨ line.comments.trailing = none

/-- The only line of a block with the comments of both. -/
def collapsedTo (block : Block) (line : Line) : Line :=
  { line with
    comments :=
      { before := (block.comments.before ++ line.comments.before).filter (· ≠ [])
        trailing := line.comments.trailing.or block.comments.trailing } }

/-- A block becomes the directive that its only line gives. -/
theorem collapsed?_eq_some_iff
    {block : Block}
    {collapsed : Line} :
    block.collapsed? = some collapsed ↔
      ∃ line, block.Collapses line ∧ block.collapsedTo line = collapsed := by
  constructor
  · intro single
    simp only [collapsed?] at single
    split at single
    · next line same =>
        split at single
        · next room =>
            cases single
            refine ⟨line, ⟨same, by simpa using room.1, ?_⟩, rfl⟩
            simpa [Option.isSome_iff_ne_none, imp_iff_not_or] using room.2
        · cases single
    · cases single
  · rintro ⟨line, ⟨same, blank, room⟩, rfl⟩
    simp only [collapsed?, same]
    rw [if_pos]
    · rfl
    · refine ⟨by simpa using blank, ?_⟩
      rcases room with noneBehind | noneBehind <;> simp [noneBehind]

end Block

namespace Content

/-- Changing a requirement keeps a statement readable. -/
theorem isReadable_changeRequirement?
    {path : Text}
    {change : Line → Line}
    (keeps : Line.KeepsReadable change)
    {content changed : Content}
    (readable : content.IsReadable)
    (found : content.changeRequirement? path change = some changed) :
    changed.IsReadable := by
  simp only [changeRequirement?] at found
  split at found
  · next line =>
      split at found
      · cases found
        obtain ⟨lineReadable, before⟩ := readable
        obtain ⟨changedReadable, sameBefore, _⟩ := keeps line lineReadable
        exact ⟨changedReadable, sameBefore ▸ before⟩
      · cases found
  · next group =>
      split at found
      · obtain ⟨lines, within, rfl⟩ := Option.map_eq_some_iff.mp found
        obtain ⟨front, line, after, behind, split, step, rfl⟩ := changeFirst?_eq_some within
        refine { readable with lines := forall_of_change (split ▸ readable.lines) ?_ }
        intro inside
        split at step
        · cases step
          obtain ⟨changedReadable, sameBefore, notEmpty⟩ := keeps line inside.toIsReadable
          exact
            { changedReadable with
              notEmpty := notEmpty inside.notEmpty
              before := sameBefore ▸ inside.before }
        · cases step
      · cases found
  · cases found

/-- Adding a requirement keeps a statement readable. -/
theorem isReadable_addRequirement?
    {added : Line}
    (addedReadable : added.IsReadableInside)
    {content changed : Content}
    (readable : content.IsReadable)
    (notEmpty : ∀ line, content = .directive .require line → line.arguments ≠ [])
    (found : content.addRequirement? added = some changed) :
    changed.IsReadable := by
  simp only [addRequirement?] at found
  split at found
  · next line =>
      cases found
      obtain ⟨lineReadable, before⟩ := readable
      exact
        { verb := rfl
          before
          trailing := by simp
          lines := by
            intro other member
            simp only [List.mem_cons, List.not_mem_nil, or_false] at member
            rcases member with rfl | rfl
            · exact
                { arguments := lineReadable.arguments
                  noParenthesis := lineReadable.noParenthesis
                  trailing := lineReadable.trailing
                  notEmpty := notEmpty line rfl
                  before := isMargin_nil }
            · exact addedReadable
          closing := isMargin_nil }
  · next group =>
      split at found
      · cases found
        refine { readable with lines := ?_ }
        intro line member
        rcases List.mem_append.mp member with earlier | isNew
        · exact readable.lines line earlier
        · rw [List.mem_singleton] at isNew
          exact isNew ▸ addedReadable
      · cases found
  · cases found

/-- Dropping a module keeps a statement readable. -/
theorem isReadable_dropRequirement?
    {path : Text}
    {content changed : Content}
    (readable : content.IsReadable)
    (kept : content.dropRequirement? path = some changed) :
    changed.IsReadable := by
  simp only [dropRequirement?] at kept
  split at kept
  · split at kept
    · cases kept
    · cases kept
      exact readable
  · split at kept
    · cases kept
      exact
        { readable with
          lines := fun line member => readable.lines line (List.mem_filter.mp member).1 }
    · cases kept
      exact readable
  · cases kept
    exact readable

/-- Sorting keeps a statement readable. -/
theorem isReadable_sorted
    {content : Content}
    (readable : content.IsReadable) :
    content.sorted.IsReadable := by
  simp only [sorted]
  split
  · next group =>
      simp only [Block.sorted]
      split
      · refine { readable with lines := ?_ }
        intro line member
        exact readable.lines line ((stableSort_perm _ _).mem_iff.mp member)
      · exact readable
  · exact readable

/-- The single directive that a readable block becomes is readable. -/
theorem isReadable_collapsed?
    {block : Block}
    {collapsed : Line}
    (readable : block.IsReadable)
    (single : block.collapsed? = some collapsed) :
    (Content.directive block.verb collapsed).IsReadable := by
  obtain ⟨line, collapses, rfl⟩ := Block.collapsed?_eq_some_iff.mp single
  have inside := readable.lines line (by simp [collapses.lines])
  refine ⟨{ inside.toIsReadable with trailing := ?_ }, ?_⟩
  · intro comment member
    rcases Option.or_eq_some_iff.mp member with ofLine | ⟨_, ofBlock⟩
    · exact inside.trailing comment ofLine
    · exact readable.trailing comment ofBlock
  · intro comment member
    obtain ⟨isRemark, notBlank⟩ := List.mem_filter.mp member
    rcases List.mem_append.mp isRemark with ofBlock | ofLine
    · exact readable.before comment ofBlock
    · exact (inside.before.entries comment ofLine).resolve_left (by simpa using notBlank)

/-- Tidying keeps a statement readable. -/
theorem isReadable_tidied?
    {content tidied : Content}
    (readable : content.IsReadable)
    (kept : content.tidied? = some tidied) :
    tidied.IsReadable := by
  simp only [tidied?] at kept
  split at kept
  · split at kept
    · cases kept
    · split at kept
      · next line collapsed =>
          cases kept
          exact isReadable_collapsed? readable collapsed
      · cases kept
        exact readable
  · cases kept
    exact readable

end Content

namespace Manifest

variable {manifest : Manifest}

/-- Changing a requirement keeps a manifest readable. -/
theorem areReadable_changeRequirement?
    {path : Text}
    {change : Line → Line}
    (keeps : Line.KeepsReadable change)
    (readable : Statement.AreReadable manifest.statements)
    {changed : Manifest}
    (found : manifest.changeRequirement? path change = some changed) :
    Statement.AreReadable changed.statements := by
  obtain ⟨statements, within, rfl⟩ := Option.map_eq_some_iff.mp found
  obtain ⟨front, before, after, behind, split, step, rfl⟩ := changeFirst?_eq_some within
  obtain ⟨content, stepped, rfl⟩ := Option.map_eq_some_iff.mp step
  rw [split] at readable
  exact forall_of_change readable fun beforeReadable =>
    Content.isReadable_changeRequirement? keeps beforeReadable stepped

/-- Adding a requirement keeps a manifest readable. -/
theorem areReadable_addRequirement
    {path version : Text}
    (pathOneLine : '\n' ∉ path)
    (versionOneLine : '\n' ∉ version)
    (readable : Statement.AreReadable manifest.statements)
    (notEmpty : ∀ directive ∈ manifest.directives,
      directive.verb = .require → directive.line.arguments ≠ []) :
    Statement.AreReadable (manifest.addRequirement path version).statements := by
  have added := Line.isReadableInside_ofRequirement pathOneLine versionOneLine
  unfold addRequirement
  dsimp only
  split
  · next statements found =>
      obtain ⟨front, before, after, behind, split, step, _, rfl⟩ := changeLast?_eq_some found
      obtain ⟨content, stepped, rfl⟩ := Option.map_eq_some_iff.mp step
      have member : before ∈ manifest.statements := by simp [split]
      rw [split] at readable
      refine forall_of_change readable fun beforeReadable =>
        Content.isReadable_addRequirement? added beforeReadable ?_ stepped
      intro line same
      refine notEmpty { verb := .require, line } ?_ rfl
      exact List.mem_flatMap.mpr ⟨before, member, by simp [same, Content.directives]⟩
  · intro statement member
    rcases List.mem_append.mp member with earlier | isNew
    · exact readable statement earlier
    · rw [List.mem_singleton] at isNew
      subst isNew
      exact ⟨added.toIsReadable, by simp [Line.ofRequirement]⟩

/-- Dropping a module keeps a manifest readable. -/
theorem areReadable_drop
    (readable : Statement.AreReadable manifest.statements)
    (path : Text) :
    Statement.AreReadable (manifest.drop path).statements := by
  intro statement member
  obtain ⟨before, isBefore, step⟩ := List.mem_filterMap.mp member
  obtain ⟨content, stepped, rfl⟩ := Option.map_eq_some_iff.mp step
  exact Content.isReadable_dropRequirement? (readable before isBefore) stepped

theorem areReadable_sorted
    (readable : Statement.AreReadable manifest.statements) :
    Statement.AreReadable manifest.sorted.statements := by
  intro statement member
  obtain ⟨original, isOriginal, rfl⟩ := List.mem_map.mp member
  exact Content.isReadable_sorted (readable original isOriginal)

theorem areReadable_tidied
    (readable : Statement.AreReadable manifest.statements) :
    Statement.AreReadable manifest.tidied.statements := by
  intro statement member
  obtain ⟨before, isBefore, step⟩ := List.mem_filterMap.mp member
  obtain ⟨content, stepped, rfl⟩ := Option.map_eq_some_iff.mp step
  exact Content.isReadable_tidied? (readable before isBefore) stepped

end Manifest

end ModuleUpdate
