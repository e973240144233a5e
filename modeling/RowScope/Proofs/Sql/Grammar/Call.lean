/-
Calls, windows and orders are read clean.

A call is an operand as well: what stands between its parentheses is enclosed, so none
of its operators stands bare.
-/
import RowScope.Proofs.Sql.Grammar.Gives

namespace RowScope.Sql.Grammar

variable {d : Dialect}

/-! ### Orders and windows -/

theorem orderItem_gives : Gives d orderItem Clean := by
  unfold orderItem
  refine expr_gives.bind fun e he => ?_
  exact .step fun options => .pure (by simp [he])

theorem orderList_gives : Gives d orderList Clean :=
  (list_gives orderItem_gives).map fun items hitems => by simpa using hitems

theorem orderBy_gives {before : String} : Gives d (orderBy before) Clean := by
  unfold orderBy
  refine .step fun ordered => .ite ?_ (.pure clean_nil)
  exact orderList_gives.bind fun items hitems => .pure (by simp [hitems])

theorem frameBound_gives : Gives d frameBound Clean := by
  unfold frameBound
  refine .step fun current => .ite (.pure (by simp)) (.step fun unbounded => ?_)
  extract_lets sided
  have hsided : ∀ rows, Clean rows → Gives d (sided rows) Clean := fun rows hrows =>
    .step fun side => .pure (by simp [hrows])
  refine .ite (hsided _ (by simp)) (.step fun next => ?_)
  split
  · exact .step fun _ => .step fun units => hsided _ (by simp)
  · exact expr_gives.bind fun e he => hsided _ (by simp [he])

theorem frame_gives : Gives d frame Clean := by
  unfold frame
  refine .step fun unit => .step fun between => .ite ?_ ?_
  · refine frameBound_gives.bind fun low hlow => .step fun _ => ?_
    exact frameBound_gives.bind fun high hhigh => .pure (by simp [hlow, hhigh])
  · exact frameBound_gives.bind fun low hlow => .pure (by simp [hlow])

theorem windowSpec_gives : Gives d windowSpec Clean := by
  unfold windowSpec
  refine .step fun next => ?_
  extract_lets ranged
  have hranged : ∀ base, Clean base → Gives d (ranged base) Clean := by
    intro base hbase
    refine .step fun partitioned => ?_
    extract_lets ordered
    have hordered : ∀ partition, Clean partition → Gives d (ordered partition) Clean := by
      intro partition hpartition
      refine orderBy_gives.bind fun order horder => .step fun closed => ?_
      extract_lets framed
      have hframed : ∀ frame, Clean frame → Gives d (framed frame) Clean := by
        intro frame hframe
        refine .step fun _ => .pure ?_
        split <;> simp [hbase, hpartition, horder, hframe]
      exact .ite (hframed _ clean_nil)
        (frame_gives.bind fun frame hframe => hframed _ (by simp [hframe]))
    refine .ite ?_ (hordered _ clean_nil)
    exact (list_gives expr_gives).bind fun es hes => hordered _ (by simp [hes])
  split
  · exact .ite (hranged _ clean_nil) (.step fun name => hranged _ (by simp))
  · exact hranged _ clean_nil

theorem windowClause_gives : Gives d windowClause Clean := by
  unfold windowClause
  refine .step fun ranged => .ite (.step fun opened => .ite ?_ ?_) (.pure clean_nil)
  · exact windowSpec_gives.bind fun window hwindow => .pure (by simp [hwindow])
  · exact .step fun name => .pure (by simp)

/-! ### Arguments -/

theorem starred_gives : Gives d starred fun s => Clean s.pieces := by
  unfold starred
  refine .step fun next => .ite (.step fun _ => .pure (by simp [Starred.pieces])) ?_
  refine .step fun second => .step fun third => .ite ?_ ?_
  · exact .step fun _ => .step fun _ => .step fun _ => .pure (by simp [Starred.pieces])
  extract_lets first plain
  have hplain : ∀ qualifier, Gives d (plain qualifier) fun s => Clean s.pieces := by
    intro qualifier
    cases qualifier with
    | none => exact expr_gives.bind fun e he => .pure (by simp [Starred.pieces, he])
    | some names => exact .pure (by simp [Starred.pieces])
  clear_value first
  cases first with
  | none => exact hplain none
  | some i => exact .step fun dot => .ite (.step hplain) (hplain none)

theorem argument_gives : Gives d argument Clean := by
  unfold argument
  refine starred_gives.bind fun first hfirst => ?_
  split
  · exact .pure hfirst
  · refine .step fun mark => ?_
    cases mark with
    | none => exact .pure hfirst
    | some mark => exact starred_gives.bind fun second hsecond => .pure (by simp [hfirst, hsecond])

theorem argumentsOnly_gives : Gives d argumentsOnly Clean :=
  (listBefore_gives argument_gives).bind fun items hitems =>
    .step fun _ => .pure (by simpa using hitems)

theorem argumentClauses_gives : Gives d argumentClauses Clean := by
  unfold argumentClauses
  refine .step fun level => ?_
  extract_lets dialect ordered
  have hordered : ∀ nulls, Gives d (ordered nulls) Clean := by
    intro nulls
    refine orderBy_gives.bind fun order horder => ?_
    refine exprBehind_gives.bind fun limit hlimit => .step fun separated => ?_
    extract_lets closed
    have hclosed : ∀ separator, Clean separator → Gives d (closed separator) Clean :=
      fun separator hseparator => .pure (by simp [horder, hlimit, hseparator])
    exact .ite (.step fun v => hclosed _ (by simp)) (hclosed _ clean_nil)
  exact .ite (.step hordered) (hordered _)

theorem arguments_gives : Gives d arguments Clean := by
  unfold arguments
  refine .step fun empty => .ite (.pure (by simp)) ?_
  refine .step fun all => .step fun distinct => .step fun _ => ?_
  refine (list_gives argument_gives).bind fun items hitems => ?_
  refine argumentClauses_gives.bind fun clauses hclauses => ?_
  exact .step fun _ => .pure (by simp [hitems, hclauses])

/-! ### Calls -/

theorem aggregateFilter_gives : Gives d aggregateFilter Clean := by
  unfold aggregateFilter
  refine .step fun filters => ?_
  extract_lets unfiltered
  have hunfiltered : Gives d (unfiltered ()) Clean := .pure clean_nil
  refine .ite (.step fun filter => .ite ?_ hunfiltered) hunfiltered
  refine .step fun opened => .ite (.step fun where_ => .ite ?_ hunfiltered) hunfiltered
  exact expr_gives.bind fun e he => .step fun _ => .pure (by simp [he])

theorem withinGroup_gives : Gives d withinGroup Clean := by
  unfold withinGroup
  refine .step fun within => .ite ?_ (.pure clean_nil)
  have horder : Gives d (parens (expectKeywords ["ORDER", "BY"] >>= fun _ => orderList)) Clean :=
    .parens (.step fun _ => orderList_gives)
  exact horder.bind fun order horder => .pure (by simp [horder])

/-- A call encloses its arguments. -/
theorem call_gives {name : String} : Gives d (call name) Operand := by
  unfold call
  refine .step fun _ => .step fun queries => .step fun next => .ite ?_ ?_
  · exact query_gives.bind fun q hq => .step fun _ => .pure ⟨by simp [hq], orFree_call⟩
  refine arguments_gives.bind fun first hfirst => .step fun level => .step fun again => ?_
  extract_lets behind
  have hbehind : ∀ second, Clean second → Gives d (behind second) Operand := by
    intro second hsecond
    refine withinGroup_gives.bind fun within hwithin => ?_
    refine aggregateFilter_gives.bind fun filter hfilter => .step fun nulls => ?_
    refine windowClause_gives.bind fun window hwindow => ?_
    exact .pure ⟨by simp [hfirst, hsecond, hwithin, hfilter, hwindow], orFree_call⟩
  exact .ite (arguments_gives.bind fun second hsecond => hbehind _ hsecond) (hbehind _ clean_nil)

end RowScope.Sql.Grammar
