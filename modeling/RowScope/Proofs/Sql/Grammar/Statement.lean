/-
Every statement of a text is clean.

The levels are built on top of each other, so that their readers are sound is an
induction on the number of levels: what is read on one level is clean because what is
read one level deeper is.
-/
import RowScope.Proofs.Sql.Grammar.Climb
import RowScope.Proofs.Sql.Grammar.Definition

namespace RowScope.Sql

namespace Grammar

variable {d : Dialect}

/-! ### Statements around other statements -/

theorem explainOption_gives : Gives d explainOption Clean := by
  unfold explainOption
  refine .step fun name => .step fun comma => .step fun closed => .ite (.pure (by simp)) ?_
  exact expr_gives.bind fun e he => .pure (by simp [he])

theorem explainHead_gives {verb : String} : Gives d (explainHead verb) Clean := by
  unfold explainHead
  refine .step fun options => .step fun opened => .ite ?_ ?_
  · exact (list_gives explainOption_gives).parens.bind fun options hoptions =>
      .pure (by simp [hoptions])
  refine .step fun plan => .ite (.pure (by simp)) ?_
  refine .step fun estimate => .ite (.pure (by simp)) ?_
  exact .step fun analyzed => .step fun verbose => .step fun format => .pure (by simp)

theorem explain_gives {verb : String} : Gives d (explain verb) Clean := by
  unfold explain
  refine explainHead_gives.bind fun head hhead => .step fun nested => ?_
  refine statement_gives.attempt.bind fun found hfound => ?_
  cases found with
  | some s => exact .step fun _ => .pure (by simp [hhead, hfound s rfl])
  | none =>
    refine .step fun known => ?_
    extract_lets behind
    have hbehind : ∀ table, Gives d (behind table) Clean := fun table =>
      .step fun name => .pure (by simp)
    exact .ite (.step hbehind) (hbehind _)

theorem prepare_gives : Gives d prepare Clean := by
  unfold prepare
  refine .step fun name => .step fun typed => ?_
  extract_lets behind
  have hbehind : ∀ types, Gives d (behind types) Clean := fun types =>
    .step fun _ => statement_gives.bind fun s hs => .pure (by simp [hs])
  exact .ite (.step hbehind) (hbehind _)

theorem declareCursor_gives : Gives d declareCursor Clean := by
  unfold declareCursor
  refine .step fun name => .step fun binary => .step fun insensitive => ?_
  extract_lets behind
  have hbehind : ∀ sensitivity, Gives d (behind sensitivity) Clean := by
    refine fun sensitivity => .step fun scrolling => ?_
    extract_lets scrolled
    have hscrolled : ∀ scroll, Gives d (scrolled scroll) Clean := by
      refine fun scroll => .step fun _ => .step fun holding => ?_
      extract_lets held
      have hheld : ∀ hold, Gives d (held hold) Clean := fun hold =>
        .step fun _ => query_gives.bind fun q hq => .pure (by simp [hq])
      exact .ite (.step hheld) (hheld _)
    exact .ite (.step hscrolled) (hscrolled _)
  exact .ite (.step hbehind) (hbehind _)

/-! ### COPY -/

theorem copy_gives : Gives d copy Clean := by
  unfold copy
  refine .step fun opened => ?_
  extract_lets behind
  have hbehind : ∀ rows, Clean rows → Gives d (behind rows) Clean := by
    refine fun rows hrows => .step fun direction => .step fun _ => .step fun known => ?_
    extract_lets targeted
    have htargeted : ∀ target, Gives d (targeted target) Clean := by
      refine fun target => .step fun with_ => .step fun optioned => ?_
      extract_lets ended
      have hended : ∀ options, Gives d (ended options) Clean := fun options =>
        .step fun words => .step fun _ => .pure (by simp [hrows])
      exact .ite (.step hended) (hended _)
    split
    · exact .step htargeted
    · exact htargeted _
    · exact .step htargeted
  refine .ite ?_ (.step fun table => .step fun columns => hbehind _ (by simp))
  exact query_gives.parens.bind fun q hq => hbehind _ (by simp [hq])

/-! ### Transactions and settings -/

theorem begin_gives : Gives d begin_ Clean := by
  unfold begin_
  refine .step fun known => ?_
  extract_lets behind
  have hbehind : ∀ modifier, Gives d (behind modifier) Clean := by
    refine fun modifier => .step fun word => ?_
    extract_lets ended
    have hended : ∀ kind, Gives d (ended kind) Clean := fun kind =>
      .step fun modes => .pure (by simp)
    split
    · exact hended _
    · exact hended _
    · exact hended _
  refine .ite (.step fun word => ?_) (hbehind _)
  split
  · exact hbehind _
  · exact hbehind _

theorem rollback_gives : Gives d rollback Clean := by
  unfold rollback
  refine .step fun again => .step fun to_ => ?_
  extract_lets behind
  have hbehind : ∀ target, Gives d (behind target) Clean := fun target => .pure (by simp)
  exact .ite (.step fun savepoint => .step fun name => hbehind _) (hbehind _)

theorem settingValues_gives : Gives d settingValues Clean := by
  refine (list_gives (.step fun next => .step fun second => .ite ?_ ?_)).map
    fun items hitems => clean_list.mpr hitems
  · exact query_gives.parens.bind fun q hq => .pure (by simp [hq])
  · exact expr_gives.bind fun e he => .pure (by simp [he])

theorem setting_gives : Gives d setting Clean := by
  unfold setting
  refine .step fun scope => ?_
  extract_lets behind
  have hbehind : ∀ scope, Gives d (behind scope) Clean := by
    refine fun scope => .step fun role => ?_
    split
    · exact .pure (by simp)
    refine .step fun zone => .ite (.step fun valued => .ite ?_ ?_) ?_
    · exact settingValues_gives.bind fun p hp => .pure (by simp [hp])
    · exact expr_gives.bind fun e he => .pure (by simp [he])
    refine .step fun characteristics => .ite (.step fun modes => .pure (by simp)) ?_
    refine .step fun transaction => .ite (.step fun snapshot => .ite ?_ ?_) ?_
    · exact .step fun v => .pure (by simp)
    · exact .step fun modes => .pure (by simp)
    refine .step fun name => .step fun valued => .step fun _ => ?_
    exact settingValues_gives.bind fun p hp => .pure (by simp [hp])
  split
  · exact hbehind _
  · exact hbehind _

theorem showSetting_gives : Gives d showSetting Clean := by
  unfold showSetting
  refine .step fun what => ?_
  split
  · exact .pure (by simp)
  · exact .step fun tokens => .step fun _ => .pure (by simp)

/-! ### The statement -/

theorem statementBehind_gives {key : String} : Gives d (statementBehind key) Clean := by
  have hinsert : ∀ replace, Gives d (Statement.insert <$> insert replace) Clean := fun replace =>
    insert_gives.map fun i hi => clean_statement_insert.mpr hi
  unfold statementBehind
  split
  · exact hinsert false
  · exact .step fun known => .step fun _ => hinsert true
  · exact update_gives
  · exact delete_gives
  · exact merge_gives
  iterate 3 exact explain_gives
  · exact prepare_gives
  · exact declareCursor_gives
  · exact copy_gives
  · exact create_gives
  · exact drop_gives
  · exact truncate_gives
  · exact alter_gives
  · exact begin_gives
  · exact .step fun _ => .step fun modes => .pure (by simp)
  iterate 2 exact .step fun again => .pure (by simp)
  · exact rollback_gives
  · exact .step fun name => .pure (by simp)
  · exact .step fun savepoint => .step fun name => .pure (by simp)
  · exact setting_gives
  · exact showSetting_gives
  · exact .fail

theorem wholeStatement_gives : Gives d wholeStatement Clean := by
  have hquery : Gives d (Statement.query <$> query) Clean :=
    query_gives.map fun q hq => clean_statement_query.mpr hq
  unfold wholeStatement
  refine .step fun next => ?_
  split
  · exact hquery
  · exact .ite hquery (.step fun _ => statementBehind_gives)
  · exact .fail

end Grammar

/-! ### Levels and whole texts -/

/-- The readers of every level are sound. -/
theorem Level.sound_ofDepth (d : Dialect) (n : Nat) : (Level.ofDepth d n).Sound d := by
  induction n with
  | zero =>
    refine ⟨rfl, ?_, ?_, ?_⟩
    · intro tokens s rest h
      cases h
    · intro tokens q rest h
      cases h
    · intro inColumn strength tokens e rest h
      cases h
  | succ n ih =>
    refine ⟨rfl, fun h => Grammar.wholeStatement_gives ih h,
      fun h => Grammar.wholeQuery_gives ih h, ?_⟩
    intro inColumn strength tokens e rest h
    have hlevel : Level.Sound d { Level.ofDepth d n with inColumn := inColumn } :=
      ⟨ih.dialect, ih.statement, ih.query, ih.expr⟩
    exact Grammar.expression_climbed hlevel h

theorem Statement.clean_readAll {level : Level} {d : Dialect} (hlevel : level.Sound d) (n : Nat)
    {tokens : List Lexeme} {ss : List Statement} (h : readAll level n tokens = .ok ss) :
    Clean ss := by
  induction n generalizing tokens ss with
  | zero =>
    cases h
    exact clean_nil
  | succ n ih =>
    unfold readAll at h
    split at h
    · cases h
      exact clean_nil
    rename_i first rest hfirst
    cases hs : level.statement (first :: rest) with
    | error cause =>
      rw [hs] at h
      cases h
    | ok found =>
      obtain ⟨s, left⟩ := found
      rw [hs] at h
      have hclean : Clean [s] := by simpa using hlevel.statement hs
      dsimp only [bind, Except.bind] at h
      split at h
      · cases h
        exact hclean
      split at h
      · cases hrest : readAll level n left with
        | error cause =>
          rw [hrest] at h
          cases h
        | ok more =>
          rw [hrest] at h
          cases h
          exact clean_append.mpr ⟨hclean, ih hrest⟩
      split at h
      · cases h
        exact hclean
      · cases h

/-- **Every filter of a statement that is read is graded.** -/
theorem Statement.clean_parse {d : Dialect} {text : String} {ss : List Statement}
    (h : Statement.parse d text = .ok ss) : Clean ss := by
  unfold Statement.parse at h
  split at h
  · cases h
  · exact clean_readAll (Level.sound_ofDepth d _) _ h

end RowScope.Sql
