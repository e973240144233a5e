/-
Queries are read clean.
-/
import RowScope.Proofs.Sql.Grammar.Change

namespace RowScope.Sql.Grammar

variable {d : Dialect}

/-! ### Common tables -/

theorem commonTable_gives : Gives d commonTable Clean := by
  unfold commonTable
  refine .step fun name => .step fun bare => ?_
  extract_lets behind
  have hbehind : ∀ columns, Gives d (behind columns) Clean := by
    refine fun columns => .step fun _ => .step fun materialized => ?_
    extract_lets kept
    have hkept : ∀ k, Gives d (kept k) Clean := by
      refine fun k => query_gives.parens.bind fun q hq => .step fun from_ => ?_
      extract_lets ended
      have hended : ∀ origin, Gives d (ended origin) Clean := fun origin =>
        .pure (by simp [hq])
      exact .ite (.step hended) (hended _)
    refine .ite (.step fun yes => .ite (.step hkept) (hkept _)) (hkept _)
  exact .ite (hbehind _) (.step hbehind)

theorem withClause_gives : Gives d withClause Clean := by
  unfold withClause
  refine .step fun with_ => .ite (.step fun recursive => ?_) (.pure clean_nil)
  exact (list_gives commonTable_gives).bind fun tables htables => .pure (by simp [htables])

/-! ### Bodies -/

theorem wholeTable_gives : Gives d wholeTable Clean := by
  unfold wholeTable
  refine .step fun tokens => ?_
  extract_lets front
  refine .step fun _ => ?_
  split
  · exact .pure clean_body_table
  · exact .step fun _ => .pure clean_body_table
  · exact .fail

theorem simpleBody_gives : Gives d simpleBody Clean := by
  unfold simpleBody
  refine .step fun select_ => .step fun first => .step fun from_ => .ite ?_ ?_
  · exact select_gives.bind fun s hs => .pure (by simpa using hs)
  refine .step fun opened => .ite ?_ (.step fun verb => ?_)
  · exact query_gives.parens.bind fun q hq => .pure (by simpa using hq)
  split
  · exact valueRows_gives.bind fun rows hrows => .pure (by simpa using hrows)
  · exact .step fun _ => wholeTable_gives

theorem setOperations_gives {right : Nat → Grammar Body}
    (hright : ∀ strength, Gives d (right strength) Clean) (strength n : Nat) {left : Body}
    (hleft : Clean left) : Gives d (setOperations right strength n left) Clean := by
  induction n generalizing left with
  | zero => exact .pure hleft
  | succ n ih =>
    unfold setOperations
    refine .step fun next => ?_
    split
    · refine .ite (.pure hleft) (.step fun _ => .step fun quantifier => ?_)
      exact (hright _).bind fun operand hoperand => ih (by simp [hleft, hoperand])
    · exact .pure hleft

theorem bodyUpTo_gives (n strength : Nat) : Gives d (bodyUpTo n strength) Clean := by
  induction n generalizing strength with
  | zero => exact .fail
  | succ n ih =>
    refine simpleBody_gives.bind fun left hleft => .step fun tokens => ?_
    exact setOperations_gives ih strength _ hleft

theorem body_gives : Gives d body Clean := bodyUpTo_gives 3 0

/-! ### What follows a body -/

theorem offset_gives : Gives d offset Clean := by
  unfold offset
  refine expr_gives.bind fun e he => .step fun unit => ?_
  extract_lets behind
  have hbehind : ∀ unit, Gives d (behind unit) Clean := fun unit => .pure (by simp [he])
  split
  · exact hbehind _
  · exact hbehind _

theorem limits_gives : Gives d limits Clean := by
  have hlate : Gives d limits.lateOffset Clean :=
    .step fun late => .ite offset_gives (.pure clean_nil)
  unfold limits
  refine .step fun early => ?_
  extract_lets behind
  have hbehind : ∀ early, Clean early → Gives d (behind early) Clean := by
    intro early hearly
    have hgetD : ∀ late, Clean late → Clean (early.getD late) := fun late hlate =>
      hearly.getD hlate
    refine .step fun limit => .ite (.step fun all => .ite ?_ ?_) (.pure (hgetD _ clean_nil))
    · refine .ite (hlate.bind fun late hlate => .pure (hgetD late hlate)) ?_
      exact .pure (hgetD _ clean_nil)
    refine expr_gives.bind fun e he => .step fun commas => .step fun comma => .ite ?_ ?_
    · exact expr_gives.bind fun second hsecond => .pure (by simp [he, hsecond])
    refine .step fun formats => .step fun by_ => ?_
    extract_lets counted
    have hcounted : ∀ per, Clean per → Gives d (counted per) Clean := by
      intro per hper
      have hended : ∀ late, Clean late → Gives d
          (pure ([.text " LIMIT ", .expr e] ++ early.getD late ++ per) : Grammar Phrase) Clean :=
        fun late hlate => .pure (by simp [he, hgetD late hlate, hper])
      exact .ite (hlate.bind hended) (hended _ clean_nil)
    refine .ite ?_ (hcounted _ clean_nil)
    exact (list_gives expr_gives).bind fun es hes => hcounted _ (by simp [hes])
  refine .ite ?_ (hbehind _ clean_none)
  exact (offset_gives.map fun _ hp => clean_some.mpr hp).bind hbehind

theorem pipe_gives : Gives d pipe Clean := by
  unfold pipe
  refine .step fun pipes => .step fun piped => .ite (.step fun step => ?_) (.pure clean_none)
  split
  · exact projection_gives.bind fun items hitems => .pure (by simp [hitems])
  · exact projection_gives.bind fun items hitems => .pure (by simp [hitems])
  · exact expr_gives.bind fun e he => .pure (by simp [he])
  · refine expr_gives.bind fun count hcount => ?_
    exact exprBehind_gives.bind fun offset hoffset => .pure (by simp [hcount, hoffset])
  · exact .step fun _ => orderList_gives.bind fun items hitems => .pure (by simp [hitems])
  · exact .step fun name => .pure (by simp)

theorem settings_gives : Gives d settings Clean := by
  unfold settings
  refine .step fun formats => .step fun told => .ite ?_ (.pure clean_nil)
  refine (list_gives (.step fun name => .step fun _ => ?_)).bind fun items hitems =>
    .pure (by simpa using hitems)
  exact expr_gives.bind fun e he => .pure (by simp [he])

theorem queryOrder_gives : Gives d queryOrder Clean := by
  unfold queryOrder
  refine .step fun ordered => .ite (.step fun known => .step fun all => .ite ?_ ?_) ?_
  · exact .step fun options => .pure (by simp)
  · exact orderList_gives.bind fun items hitems => .pure (by simp [hitems])
  · exact .pure clean_nil

theorem queryTail_gives : Gives d queryTail Clean := by
  unfold queryTail
  refine queryOrder_gives.bind fun order horder => limits_gives.bind fun limit hlimit => ?_
  refine settings_gives.bind fun set_ hset => .step fun fetched => .step fun locks => ?_
  refine .step fun formats => .step fun told => ?_
  extract_lets behind
  have hbehind : ∀ format, Gives d (behind format) Clean := fun format =>
    (many_gives pipe_gives).bind fun piped hpiped =>
      .pure (by simp [horder, hlimit, hset, hpiped])
  exact .ite (.step fun null => .ite (hbehind _) (.step hbehind)) (hbehind _)

/-- A query is clean, whether it reads or changes rows. -/
theorem wholeQuery_gives : Gives d wholeQuery Clean := by
  unfold wholeQuery
  refine withClause_gives.bind fun preamble hpreamble => .step fun verb => ?_
  split
  · exact insert_gives.bind fun i hi => .pure (by simp [hpreamble, hi])
  · exact update_gives.bind fun s hs => .pure (by simp [hpreamble, hs])
  · exact delete_gives.bind fun s hs => .pure (by simp [hpreamble, hs])
  · exact merge_gives.bind fun s hs => .pure (by simp [hpreamble, hs])
  · refine body_gives.bind fun b hb => ?_
    exact queryTail_gives.bind fun tail htail => .pure (by simp [hpreamble, hb, htail])

end RowScope.Sql.Grammar
