/-
A SELECT is read with a graded filter.

The filter is the one place where more is asked for than that its parts are clean.
-/
import RowScope.Proofs.Sql.Grammar.Relation

namespace RowScope.Sql.Grammar

variable {d : Dialect}

/-! ### Projections -/

theorem starOptions_gives : Gives d starOptions Clean := by
  unfold starOptions
  refine .step fun excludes => .step fun excluded => ?_
  extract_lets behind
  have hbehind : ∀ exclude, Gives d (behind exclude) Clean := by
    intro exclude
    refine .step fun excepts => .step fun excepted => ?_
    extract_lets starred
    have hstarred : ∀ except, Gives d (starred except) Clean := by
      intro except
      refine .step fun replaces => .step fun replaced => ?_
      extract_lets renamed
      have hrenamed : ∀ replace, Clean replace → Gives d (renamed replace) Clean := by
        intro replace hreplace
        refine .step fun renames => .step fun rename => ?_
        extract_lets ended
        have hended : ∀ rename, Gives d (ended rename) Clean := fun rename =>
          .pure (by simp [hreplace])
        exact .ite (.step fun opened => .ite (.step hended) (.step hended)) (hended _)
      refine .ite ?_ (hrenamed _ clean_nil)
      refine (list_gives (expr_gives.bind fun e he => .step fun as_ => ?_)).parens.bind
        fun items hitems => hrenamed _ (by simp [hitems])
      exact .step fun name => .pure (by simp [he])
    exact .ite (.step fun opened => .ite (.step hstarred) (.step hstarred)) (hstarred _)
  exact .ite (.step fun opened => .ite (.step hbehind) (.step hbehind)) (hbehind _)

theorem projectionItem_gives : Gives d projectionItem Clean := by
  unfold projectionItem
  refine starred_gives.bind fun item hitem => ?_
  split
  · exact starOptions_gives.bind fun options hoptions => .pure (by simp [hoptions])
  rename_i e
  have he : Clean e := by simpa [Starred.pieces] using hitem
  refine .step fun _ => .step fun level => ?_
  split
  · exact .pure (by simpa using he)
  · refine .step fun alias_ => ?_
    split
    · exact .pure (by simp [he])
    · exact .pure (by simp [he])

theorem projection_gives : Gives d projection Clean := by
  unfold projection
  refine .step fun trailing => .ite ?_ ?_
  · exact listUntil_gives projectionItem_gives
  · exact list_gives projectionItem_gives

theorem top_gives : Gives d top Clean := by
  unfold top
  refine .step fun top => .ite (.step fun opened => ?_) (.pure clean_nil)
  extract_lets behind
  have hbehind : ∀ count, Clean count → Gives d (behind count) Clean := fun count hcount =>
    .step fun percent => .step fun ties => .pure (by simp [hcount])
  refine .ite ?_ (.step fun count => hbehind _ (by simp))
  exact expr_gives.parens.bind fun e he => hbehind _ (by simp [he])

theorem distinct_gives : Gives d distinct Clean := by
  unfold distinct
  refine .step fun all => .step fun distinct => .ite (.step fun _ => ?_) (.pure clean_nil)
  refine .step fun on => .ite ?_ (.pure (by simp))
  exact (listBefore_gives expr_gives).parens.bind fun es hes => .pure (by simp [hes])

/-! ### Clauses behind the filter -/

theorem group_gives {single : Bool} : Gives d (group single) Clean := by
  unfold group
  refine .step fun opened => .ite ?_ (listBefore_gives expr_gives).parens
  exact expr_gives.bind fun e he => .pure (by simp [he])

theorem clean_groupPieces {single : Bool} {es : List Expr} (hes : Clean es) :
    Clean (groupPieces single es) := by
  unfold groupPieces
  split
  · split <;> simpa using hes
  · simpa using hes

theorem clean_groups {single : Bool} {gs : List (List Expr)} (hgs : Clean gs) :
    Clean (gs.map (groupPieces single)) := by
  refine clean_iff.mpr fun p hp => ?_
  obtain ⟨es, hes, rfl⟩ := List.mem_map.mp hp
  exact clean_groupPieces (clean_iff.mp hgs es hes)

theorem groups_gives {verb : String} {single : Bool} : Gives d (groups verb single) Clean := by
  unfold groups
  exact (list_gives group_gives).parens.bind fun gs hgs => .pure (by simp [clean_groups hgs])

theorem groupItem_gives : Gives d groupItem Clean := by
  have hexpr : Gives d (expr >>= fun e => pure ([.expr e] : Phrase)) Clean :=
    expr_gives.bind fun e he => .pure (by simp [he])
  unfold groupItem
  refine .step fun sets => .ite ?_ hexpr
  refine .step fun grouping => .ite groups_gives ?_
  refine .step fun cube => .ite groups_gives ?_
  refine .step fun rollup => .ite groups_gives ?_
  refine .step fun next => .step fun second => .ite ?_ hexpr
  exact .step fun _ => .step fun _ => .pure (by simp)

theorem groupModifiers_gives : Gives d groupModifiers Clean := by
  unfold groupModifiers
  refine .step fun modified => ?_
  extract_lets behind
  have hbehind : ∀ withs, Gives d (behind withs) Clean := by
    refine fun withs => .step fun grouping => .ite ?_ (.pure (by simp))
    exact (list_gives group_gives).parens.bind fun gs hgs => .pure (by simp [clean_groups hgs])
  exact .ite (.step hbehind) (hbehind _)

theorem groupBy_gives : Gives d groupBy Clean := by
  unfold groupBy
  refine .step fun grouped => .ite (.step fun all => ?_) (.pure clean_nil)
  extract_lets behind
  have hbehind : ∀ items, Clean items → Gives d (behind items) Clean := fun items hitems =>
    groupModifiers_gives.bind fun modifiers hmodifiers => .pure (by simp [hitems, hmodifiers])
  refine .ite (hbehind _ (by simp)) ?_
  exact ((list_gives groupItem_gives).map fun items hitems => clean_list.mpr hitems).bind hbehind

theorem exprsBehind_gives {keys : List String} : Gives d (exprsBehind keys) Clean := by
  unfold exprsBehind
  refine .step fun next => .ite ?_ (.pure clean_nil)
  exact (list_gives expr_gives).bind fun es hes => .pure (by simp [hes])

theorem namedWindows_gives : Gives d namedWindows Clean := by
  unfold namedWindows
  refine .step fun window => .ite ?_ (.pure clean_nil)
  refine (list_gives (.step fun name => .step fun _ => .step fun opened => .ite ?_ ?_)).bind
    fun windows hwindows => .pure (by simpa using hwindows)
  · exact windowSpec_gives.bind fun window hwindow => .pure (by simp [hwindow])
  · exact .step fun known => .step fun _ => .step fun other => .pure (by simp)

theorem selectTail_gives : Gives d selectTail Clean := by
  unfold selectTail
  refine groupBy_gives.bind fun grouping hgrouping => ?_
  refine exprsBehind_gives.bind fun cluster hcluster => ?_
  refine exprsBehind_gives.bind fun distribute hdistribute => .step fun sorted => ?_
  extract_lets behind
  have hbehind : ∀ sort, Clean sort → Gives d (behind sort) Clean := by
    intro sort hsort
    refine exprBehind_gives.bind fun having_ hhaving => ?_
    refine namedWindows_gives.bind fun windows hwindows => ?_
    refine exprBehind_gives.bind fun qualify hqualify => ?_
    extract_lets ended
    have hended : ∀ later, Clean later → Gives d (ended later) Clean := by
      intro later hlater
      have hranking : Clean (if later.isEmpty then windows ++ qualify
          else [.crossed qualify later]) := by
        split <;> simp [hwindows, hqualify, hlater]
      exact .pure (by simpa [hgrouping, hcluster, hdistribute, hsort, hhaving] using hranking)
    exact .ite (namedWindows_gives.bind hended) (hended _ clean_nil)
  refine .ite ?_ (hbehind _ clean_nil)
  exact orderList_gives.bind fun items hitems => hbehind _ (by simp [hitems])

/-! ### SELECT -/

/-- A SELECT is clean, since any expression makes a graded filter. -/
theorem selectBehind_gives {first : Option (List Source)} (hfirst : Clean first) :
    Gives d (selectBehind first) Clean := by
  have hread : Gives d (some <$> expr) fun o => Clean o ∧ ∀ w, o = some w → w.Graded := by
    refine expr_graded.map fun e he => ⟨clean_some.mpr he.1, ?_⟩
    rintro w ⟨⟩
    exact he.2
  unfold selectBehind
  refine .step fun _ => distinct_gives.bind fun quantifier hquantifier => ?_
  refine top_gives.bind fun top htop => ?_
  extract_lets both projected
  have hboth : Clean both := clean_append.mpr ⟨hquantifier, htop⟩
  have hprojected : ∀ items, Clean items → Gives d (projected items) Clean := by
    intro items hitems
    refine .step fun into => ?_
    extract_lets sourced
    have hsourced : ∀ ss, Clean ss → Gives d (sourced ss) Clean := by
      intro ss hss
      refine .step fun prefilters => ?_
      extract_lets prefiltered
      have hprefiltered : ∀ prefilter, Clean prefilter →
          Gives d (prefiltered prefilter) Clean := by
        intro prefilter hprefilter
        refine .step fun where_ => ?_
        extract_lets filtered
        have hfiltered : ∀ filter, Clean filter → (∀ w, filter = some w → w.Graded) →
            Gives d (filtered filter) Clean := by
          intro filter hfilter hgraded
          refine selectTail_gives.bind fun tail htail => .pure (clean_select.mpr ?_)
          exact ⟨hboth, hitems, hss, hprefilter, hfilter, htail, hgraded⟩
        refine .ite ?_ (hfiltered none clean_none (by simp))
        exact hread.bind fun filter hfilter => hfiltered filter hfilter.1 hfilter.2
      exact .ite (exprBehind_gives.bind hprefiltered) (hprefiltered _ clean_nil)
    cases first with
    | some ss => exact hsourced ss hfirst
    | none => exact .step fun from_ => .ite (sources_gives.bind hsourced) (hsourced _ clean_nil)
  refine .step fun empty => .step fun next => ?_
  exact .ite (hprojected _ clean_nil) (projection_gives.bind hprojected)

theorem select_gives : Gives d select Clean := by
  unfold select
  refine .step fun first => .step fun from_ => .ite ?_ (selectBehind_gives clean_none)
  refine sources_gives.bind fun ss hss => .step fun next => .ite (selectBehind_gives hss) ?_
  exact .pure (by simp [hss])

end RowScope.Sql.Grammar
