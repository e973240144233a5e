/-
The statements that define tables, views and indexes are read clean.

Most of what they hold is text.  What matters are the expressions in checks and defaults,
and the queries that views and tables are made from.
-/
import RowScope.Proofs.Sql.Grammar.Query

namespace RowScope.Sql.Grammar

variable {d : Dialect}

/-! ### Columns and constraints -/

theorem columnOption_gives : Gives d columnOption Clean := by
  unfold columnOption
  refine .step fun constraint => ?_
  extract_lets behind
  have hbehind : ∀ label, Gives d (behind label) Clean := by
    intro label
    refine .step fun notNull => .ite (.pure (by simp)) ?_
    refine .step fun null => .ite (.pure (by simp)) ?_
    refine .step fun default_ => .ite ?_ ?_
    · exact expr_gives.inColumn.bind fun e he => .pure (by simp [he])
    refine .step fun primary => .ite (.step fun timing => .pure (by simp)) ?_
    refine .step fun unique => .ite (.step fun timing => .pure (by simp)) ?_
    refine .step fun references => .ite ?_ ?_
    · refine .step fun table => .step fun columns => .step fun actions => ?_
      exact .step fun timing => .pure (by simp)
    refine .step fun check => .ite ?_ ?_
    · exact expr_gives.inColumn.parens.bind fun e he => .pure (by simp [he])
    refine .step fun collate => .ite (.step fun name => .pure (by simp)) ?_
    refine .step fun counted => .ite (.pure (by simp)) ?_
    refine .step fun counted => .ite (.pure (by simp)) ?_
    refine .step fun generated => .ite (.step fun always => ?_) ?_
    · extract_lets computed
      have hcomputed : ∀ how, Gives d (computed how) Clean := by
        refine fun how => .step fun _ => .step fun identity => .ite (.pure (by simp)) ?_
        exact expr_gives.parens.bind fun e he => .step fun stored => .pure (by simp [he])
      exact .ite (hcomputed _) (.step fun _ => hcomputed _)
    · exact .step fun _ => .pure clean_none
  exact .ite (.step hbehind) (hbehind _)

theorem columnDefinition_gives : Gives d columnDefinition Clean := by
  refine .step fun name => .step fun type => ?_
  exact (many_gives columnOption_gives).bind fun options hoptions => .pure (by simp [hoptions])

theorem tableConstraint_gives : Gives d tableConstraint Clean := by
  unfold tableConstraint
  refine .step fun constraint => ?_
  extract_lets behind
  have hbehind : ∀ label, Gives d (behind label) Clean := by
    intro label
    refine .step fun primary => .ite ?_ (.step fun unique => .ite ?_ ?_)
    · exact .step fun columns => .step fun timing => .pure (by simp)
    · exact .step fun columns => .step fun timing => .pure (by simp)
    refine .step fun foreign => .ite ?_ (.step fun check => .ite ?_ ?_)
    · refine .step fun columns => .step fun _ => .step fun table => .step fun others => ?_
      exact .step fun actions => .step fun timing => .pure (by simp)
    · exact expr_gives.parens.bind fun e he => .pure (by simp [he])
    · exact .step fun _ => .pure clean_none
  exact .ite (.step hbehind) (hbehind _)

theorem tableElement_gives : Gives d tableElement Clean := by
  unfold tableElement
  refine tableConstraint_gives.bind fun constraint hconstraint => ?_
  split
  · exact .pure (by simpa using hconstraint)
  · exact columnDefinition_gives.bind fun p hp => .pure (by simp [hp])

/-! ### CREATE -/

theorem namedOption_gives : Gives d namedOption Clean := by
  unfold namedOption
  refine .step fun name => .step fun valued => .ite ?_ (.pure (by simp))
  exact expr_gives.bind fun e he => .pure (by simp [he])

theorem withOptions_gives : Gives d withOptions Clean := by
  unfold withOptions
  refine .step fun next => .step fun second => .ite (.step fun _ => ?_) (.pure clean_nil)
  exact (list_gives namedOption_gives).parens.bind fun options hoptions =>
    .pure (by simp [hoptions])

theorem asQuery_gives : Gives d asQuery Clean := by
  unfold asQuery
  have hquery : Gives d (query >>= fun q => pure (some q)) Clean :=
    query_gives.bind fun q hq => .pure hq
  refine .step fun as_ => .ite hquery (.step fun known => .step fun next => ?_)
  exact .ite hquery (.pure clean_none)

theorem createTable_gives {verb : String} : Gives d (createTable verb) Clean := by
  unfold createTable
  refine .step fun cautious => .step fun name => ?_
  extract_lets head behind
  have hbehind : ∀ elements, Clean elements → Gives d (behind elements) Clean := by
    intro elements helements
    dsimp -zeta only [behind]
    extract_lets columns
    have hcolumns : Clean columns := by
      refine clean_iff.mpr fun p hp => ?_
      obtain ⟨element, helement, rfl⟩ := List.mem_map.mp hp
      have hmem : element ∈ elements := by
        rcases List.mem_append.mp helement with h | h
        · exact (List.mem_filter.mp h).1
        · exact (List.mem_filter.mp h).1
      exact (clean_pair.mp (clean_iff.mp helements element hmem)).2
    clear_value columns
    refine withOptions_gives.bind fun options hoptions => asQuery_gives.bind fun q hq => ?_
    extract_lets body origin
    have hbody : Clean body := by
      dsimp only [body]
      split
      · split <;> simp
      · simp [hcolumns]
    have horigin : Clean origin := by
      cases q with
      | none => exact clean_nil
      | some q => simpa [origin] using hq
    exact .pure (by simp [hbody, hoptions, horigin])
  refine .step fun like => .ite (.step fun other => .pure (by simp)) (.step fun opened => ?_)
  refine .ite ?_ (hbehind _ clean_nil)
  exact (listBefore_gives tableElement_gives).parens.bind hbehind

theorem createView_gives {verb : String} : Gives d (createView verb) Clean := by
  unfold createView
  refine .step fun cautious => .step fun name => ?_
  extract_lets head
  refine .step fun columns => withOptions_gives.bind fun options hoptions => .step fun _ => ?_
  exact query_gives.bind fun q hq => .step fun checked => .pure (by simp [hoptions, hq])

theorem indexColumn_gives : Gives d createIndex.indexColumn Clean := by
  unfold createIndex.indexColumn
  refine expr_gives.bind fun e he => .step fun bare => ?_
  extract_lets behind
  have hbehind : ∀ class_, Gives d (behind class_) Clean := fun class_ =>
    .step fun order => .pure (by simp [he])
  refine .ite (hbehind _) (.step fun next => ?_)
  split
  · exact .step hbehind
  · exact hbehind _

theorem createIndex_gives {verb : String} : Gives d (createIndex verb) Clean := by
  unfold createIndex
  refine .step fun concurrently => .step fun cautious => .step fun on => ?_
  extract_lets behind
  have hbehind : ∀ index, Gives d (behind index) Clean := by
    refine fun index => .step fun table => .step fun using_ => ?_
    extract_lets listed
    have hlisted : ∀ method, Gives d (listed method) Clean := by
      refine fun method => (list_gives indexColumn_gives).parens.bind fun columns hcolumns => ?_
      refine .step fun includes => ?_
      extract_lets head included
      have hincluded : ∀ include_, Gives d (included include_) Clean := by
        refine fun include_ => .step fun notDistinct => ?_
        extract_lets ended
        have hended : ∀ nulls, Gives d (ended nulls) Clean := by
          refine fun nulls => withOptions_gives.bind fun options hoptions => ?_
          exact exprBehind_gives.bind fun condition hcondition =>
            .pure (by simp [hcolumns, hoptions, hcondition])
        exact .ite (.step hended) (hended _)
      exact .ite (.step hincluded) (hincluded _)
    refine .ite (.step fun known => ?_) (hlisted _)
    split
    · exact hlisted _
    · exact .step fun name => hlisted _
  exact .ite (hbehind _) (.step fun name => .step fun _ => hbehind _)

theorem create_gives : Gives d create Clean := by
  unfold create
  refine .step fun replace => .step fun scope => ?_
  extract_lets behind
  have hbehind : ∀ scope, Gives d (behind scope) Clean := by
    refine fun scope => .step fun temporary => ?_
    extract_lets head ended
    have hended : ∀ temporary, Gives d (ended temporary) Clean := by
      intro temporary
      refine .step fun table => .ite createTable_gives ?_
      refine .step fun view => .ite createView_gives ?_
      refine .step fun materialized => .ite createView_gives (.step fun _ => ?_)
      refine .step fun index => .ite createIndex_gives ?_
      refine .step fun unique => .ite createIndex_gives ?_
      refine .step fun schema => .ite ?_ (.step fun _ => ?_)
      · exact .step fun cautious => .step fun name => .pure (by simp)
      · exact .step fun cautious => .step fun name => .pure (by simp)
    split
    · exact hended _
    · exact hended _
  split
  · exact hbehind _
  · exact hbehind _

/-! ### DROP and TRUNCATE -/

theorem drop_gives : Gives d drop Clean := by
  unfold drop
  refine .step fun known => ?_
  extract_lets behind
  have hbehind : ∀ temporary, Gives d (behind temporary) Clean := by
    refine fun temporary => .step fun kind => .step fun cautious => .step fun names => ?_
    refine .step fun cascade => .step fun restrict => .step fun purge => ?_
    refine .step fun _ => .step fun _ => .step fun on => ?_
    extract_lets ended
    have hended : ∀ table, Gives d (ended table) Clean := fun table => .pure (by simp)
    exact .ite (.step hended) (hended _)
  exact .ite (.step hbehind) (hbehind _)

theorem truncate_gives : Gives d truncate Clean := by
  unfold truncate
  refine .step fun table => .step fun names => .step fun known => ?_
  extract_lets behind identified
  have hbehind : ∀ rest, Gives d (behind rest) Clean := fun rest => .pure (by simp)
  have hidentified : ∀ identity, Gives d (identified identity) Clean := fun identity =>
    .step fun rest => hbehind _
  exact .ite (.step fun restart => .ite (.step hidentified) (hidentified _)) (hbehind _)

/-! ### ALTER -/

theorem alterColumn_gives : Gives d alterColumn Clean := by
  unfold alterColumn
  refine .step fun column => ?_
  extract_lets head
  refine .step fun notNull => .ite (.pure (by simp)) ?_
  refine .step fun null => .ite (.pure (by simp)) ?_
  refine .step fun default_ => .ite ?_ ?_
  · exact expr_gives.bind fun e he => .pure (by simp [he])
  refine .step fun dropped => .ite (.pure (by simp)) ?_
  refine .step fun data => .step fun _ => .step fun type => ?_
  exact exprBehind_gives.bind fun using_ husing => .pure (by simp [husing])

theorem alteration_gives : Gives d alteration Clean := by
  unfold alteration
  refine .step fun add => .ite ?_ (.step fun rename => .ite ?_ (.step fun drop_ => .ite ?_ ?_))
  · refine tableConstraint_gives.bind fun constraint hconstraint => ?_
    split
    · exact .pure (by simpa using hconstraint)
    refine .step fun early => .step fun column => ?_
    extract_lets behind
    have hbehind : ∀ cautious, Gives d (behind cautious) Clean := fun cautious =>
      columnDefinition_gives.bind fun p hp => .pure (by simp [hp])
    exact .ite (.step hbehind) (hbehind _)
  · refine .step fun to_ => .ite (.step fun name => .pure (by simp)) ?_
    refine .step fun constraint => .ite ?_ ?_
    · exact .step fun old => .step fun _ => .step fun name => .pure (by simp)
    · exact .step fun column => .step fun old => .step fun _ => .step fun name => .pure (by simp)
  · refine .step fun constraint => .ite ?_ ?_
    · exact .step fun cautious => .step fun name => .step fun cascade => .pure (by simp)
    · refine .step fun column => .step fun cautious => .step fun names => ?_
      exact .step fun cascade => .pure (by simp)
  refine .step fun alter_ => .ite (.step fun column => alterColumn_gives) ?_
  refine .step fun owner => .ite (.step fun name => .pure (by simp)) ?_
  exact .step fun action => .step fun _ => .pure (by simp)

theorem alter_gives : Gives d alter Clean := by
  unfold alter
  refine .step fun table => .ite ?_ (.step fun view => .ite ?_ ?_)
  · refine .step fun cautious => .step fun only => .step fun name => ?_
    exact (list_gives alteration_gives).bind fun changes hchanges => .pure (by simp [hchanges])
  · refine .step fun name => .step fun columns => ?_
    refine withOptions_gives.bind fun options hoptions => .step fun _ => ?_
    exact query_gives.bind fun q hq => .pure (by simp [hoptions, hq])
  · exact .step fun _ => .step fun index => .step fun _ => .step fun name => .pure (by simp)

end RowScope.Sql.Grammar
