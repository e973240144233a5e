/-
The statements that change rows are read clean.
-/
import RowScope.Proofs.Sql.Grammar.Select

namespace RowScope.Sql.Grammar

variable {d : Dialect}

/-! ### Parts -/

theorem assignment_gives : Gives d assignment Clean := by
  unfold assignment
  refine .step fun several => ?_
  extract_lets behind
  have hbehind : ∀ target, Gives d (behind target) Clean := fun target =>
    .step fun _ => expr_gives.bind fun e he => .pure (by simp [he])
  exact .ite (.step hbehind) (.step hbehind)

theorem assignments_gives : Gives d assignments Clean :=
  (list_gives assignment_gives).map fun _ hitems => clean_list.mpr hitems

theorem returning_gives : Gives d returning Clean := by
  unfold returning
  refine .step fun next => .ite ?_ (.pure clean_nil)
  exact (list_gives projectionItem_gives).bind fun items hitems => .pure (by simp [hitems])

/-! ### INSERT -/

theorem insertTarget_gives : Gives d insertTarget Clean := by
  unfold insertTarget
  refine .step fun functions => .step fun function => .ite (.step fun name => ?_) ?_
  · exact call_gives.bind fun e he => .pure (by simp [he.1])
  · exact .step fun name => .pure clean_target_table

theorem insertRows_gives {bare : Bool} : Gives d (insertRows bare) Clean := by
  unfold insertRows
  refine .step fun told => .ite (.pure ?_) ?_
  · split <;> simp
  refine .step fun assigned => .step fun set_ => .ite ?_ ?_
  · exact assignments_gives.bind fun sets hsets => .pure (by simp [hsets])
  · exact query_gives.bind fun q hq => .pure (by simp [hq])

theorem insertFormat_gives : Gives d insertFormat Clean := by
  unfold insertFormat
  refine .step fun level => .step fun format => .ite ?_ (.pure clean_none)
  exact .step fun name => .pure (by simp)

theorem rowAlias_gives : Gives d rowAlias Clean := by
  unfold rowAlias
  refine .step fun extended => .step fun as_ => .ite ?_ (.pure clean_nil)
  exact .step fun aliased => .step fun columns => .pure (by simp)

theorem onClause_gives : Gives d onClause Clean := by
  unfold onClause
  refine .step fun on => .ite (.step fun conflict => .ite (.step fun named => ?_) ?_) ?_
  · refine .step fun opened => ?_
    extract_lets behind
    have hbehind : ∀ target, Gives d (behind target) Clean := by
      refine fun target => .step fun _ => .step fun nothing => .ite (.pure (by simp)) ?_
      refine .step fun _ => assignments_gives.bind fun sets hsets => ?_
      exact exprBehind_gives.bind fun filter hfilter => .pure (by simp [hsets, hfilter])
    exact .ite (.step hbehind) (.ite (.step hbehind) (hbehind _))
  · exact .step fun _ => assignments_gives.bind fun sets hsets => .pure (by simp [hsets])
  · exact .pure clean_absent

theorem insert_gives {replace : Bool} : Gives d (insert replace) Clean := by
  unfold insert
  refine .step fun verb => insertTarget_gives.bind fun target htarget => ?_
  refine .step fun aliases => .step fun as_ => ?_
  extract_lets named
  have hnamed : ∀ aliased, Gives d (named aliased) Clean := by
    refine fun aliased => .step fun defaults => .ite ?_ ?_
    · refine insertFormat_gives.bind fun format hformat => ?_
      refine rowAlias_gives.bind fun row hrow => onClause_gives.bind fun conflict hconflict => ?_
      refine returning_gives.bind fun back hback => .pure ?_
      have hstead : Clean (format.getD [" DEFAULT VALUES"]) := hformat.getD (by simp)
      simp [htarget, hstead, hrow, hconflict, hback]
    refine .step fun next => .step fun second => ?_
    extract_lets direct listed
    have hlisted : ∀ columns, Gives d (listed columns) Clean := by
      refine fun columns => .step fun partitioned => ?_
      extract_lets behind
      have hbehind : ∀ partitions, Clean partitions → Gives d (behind partitions) Clean := by
        intro partitions hpartitions
        refine insertRows_gives.bind fun rows hrows => ?_
        obtain ⟨source, stead⟩ := rows
        obtain ⟨hsource, hstead⟩ := clean_pair.mp hrows
        refine insertFormat_gives.bind fun format hformat => ?_
        refine rowAlias_gives.bind fun row hrow => ?_
        refine onClause_gives.bind fun conflict hconflict => ?_
        refine returning_gives.bind fun back hback => .pure ?_
        have hrest : Clean (if source.isNone then format.getD stead else stead) := by
          split
          · exact hformat.getD hstead
          · exact hstead
        exact clean_insert.mpr ⟨htarget, hsource, clean_append.mpr ⟨hrest, hrow⟩, hpartitions,
          hconflict, hback⟩
      refine .ite ?_ (hbehind _ clean_nil)
      exact (list_gives expr_gives).parens.bind fun es hes => hbehind _ (by simp [hes])
    exact .ite (hlisted _) (.step fun empty => .step hlisted)
  exact .ite (.step hnamed) (hnamed _)

/-! ### UPDATE, DELETE and MERGE -/

theorem sourcesBehind_gives {key : String} : Gives d (sourcesBehind key) Clean := by
  unfold sourcesBehind
  refine .step fun next => .ite ?_ (.pure clean_nil)
  exact sources_gives.bind fun ss hss => .pure (by simp [clean_sourcePieces hss])

theorem update_gives : Gives d update Clean := by
  unfold update
  refine .step fun conflict => source_gives.bind fun target htarget => ?_
  refine sourcesBehind_gives.bind fun early hearly => .step fun _ => ?_
  refine assignments_gives.bind fun sets hsets => ?_
  extract_lets behind
  have hbehind : ∀ late, Clean late → Gives d (behind late) Clean := by
    intro late hlate
    refine exprBehind_gives.bind fun filter hfilter => returning_gives.bind fun back hback => ?_
    refine exprBehind_gives.bind fun limit hlimit => .pure ?_
    have hpieces : Clean (sourcePieces [target]) := clean_sourcePieces (by simp [htarget])
    simp [hpieces, hearly, hsets, hlate, hfilter, hback, hlimit]
  exact .ite (sourcesBehind_gives.bind hbehind) (hbehind _ clean_nil)

theorem delete_gives : Gives d delete Clean := by
  unfold delete
  refine .step fun from_ => .step fun bare => ?_
  extract_lets behind
  have hbehind : ∀ tables, Gives d (behind tables) Clean := by
    intro tables
    refine sources_gives.bind fun ss hss => sourcesBehind_gives.bind fun using_ husing => ?_
    refine exprBehind_gives.bind fun filter hfilter => returning_gives.bind fun back hback => ?_
    refine orderBy_gives.bind fun order horder => exprBehind_gives.bind fun limit hlimit => ?_
    exact .pure (by simp [clean_sourcePieces hss, husing, hfilter, hback, horder, hlimit])
  exact .ite (hbehind _) (.step fun names => .step fun _ => hbehind _)

theorem mergeAction_gives {matched elsewhere : Bool} :
    Gives d (mergeAction matched elsewhere) Clean := by
  unfold mergeAction
  refine .step fun verb => ?_
  split
  · refine .step fun _ => .step fun _ => ?_
    exact assignments_gives.bind fun sets hsets => .pure (by simp [hsets])
  · exact .step fun _ => .pure (by simp)
  refine .step fun _ => .step fun empty => .step fun columns => ?_
  extract_lets head
  refine .step fun generic => .step fun row => .ite (.pure (by simp)) (.step fun _ => ?_)
  exact valueRows_gives.bind fun rows hrows => .pure (by simp [hrows])

theorem mergeCase_gives : Gives d mergeCase Clean := by
  unfold mergeCase
  refine .step fun when_ => .ite (.step fun negation => .step fun _ => ?_) (.pure clean_none)
  extract_lets matched behind
  have hbehind : ∀ bySource, Gives d (behind bySource) Clean := by
    intro bySource
    dsimp -zeta only [behind]
    extract_lets ended
    have hended : ∀ byTarget, Gives d (ended byTarget) Clean := by
      refine fun byTarget => exprBehind_gives.bind fun condition hcondition => .step fun _ => ?_
      exact mergeAction_gives.bind fun action haction => .pure (by simp [hcondition, haction])
    exact .ite (hended _) (.step hended)
  exact .ite (hbehind _) (.step hbehind)

theorem merge_gives : Gives d merge Clean := by
  unfold merge
  refine .step fun into => relation_gives.bind fun target htarget => .step fun _ => ?_
  refine relation_gives.bind fun rows hrows => .step fun _ => ?_
  refine expr_gives.bind fun condition hcondition => ?_
  refine (many_gives mergeCase_gives).bind fun cases_ hcases => .step fun next => ?_
  extract_lets behind
  have hbehind : ∀ back, Clean back → Gives d (behind back) Clean := fun back hback =>
    .pure (by simp [htarget, hrows, hcondition, hcases, hback])
  split
  · exact (list_gives projectionItem_gives).bind fun items hitems => hbehind _ (by simp [hitems])
  · exact hbehind _ clean_nil

end RowScope.Sql.Grammar
