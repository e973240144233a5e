/-
FROM items are read clean.
-/
import RowScope.Proofs.Sql.Grammar.Operand

namespace RowScope.Sql.Grammar

variable {d : Dialect}

/-! ### Single items -/

theorem tableSample_gives : Gives d tableSample Clean := by
  unfold tableSample
  refine .step fun verb => ?_
  split
  · exact .pure clean_nil
  rename_i verb
  refine .step fun kind => ?_
  extract_lets behind
  have hbehind : ∀ method, Gives d (behind method) Clean := by
    intro method
    refine .step fun enclosed => expr_gives.attempt.bind fun found hfound => ?_
    extract_lets measured
    have hmeasured : ∀ quantity, Clean quantity → Gives d (measured quantity) Clean := by
      intro quantity hquantity
      refine .step fun measure => ?_
      extract_lets closed
      have hclosed : ∀ unit, Gives d (closed unit) Clean := by
        intro unit
        dsimp -zeta only [closed]
        extract_lets seeded finished
        have hseeded : ∀ seed, Gives d (seeded seed) Clean := fun seed =>
          .pure (by simp [hquantity])
        have hfinished : ∀ u, Gives d (finished u) Clean := by
          refine fun u => .step fun verb => ?_
          split
          · exact .step fun v => hseeded _
          · exact hseeded _
        exact .ite (.step hfinished) (hfinished ())
      split
      · exact hclosed _
      · exact hclosed _
    cases found with
    | some e => exact hmeasured e (hfound e rfl)
    | none => exact .step fun name => hmeasured _ clean_ident
  split
  · exact hbehind _
  · exact hbehind _

theorem tableHints_gives : Gives d tableHints Clean := by
  unfold tableHints
  refine .step fun next => .step fun second => .ite (.step fun _ => ?_) (.pure clean_nil)
  exact (list_gives expr_gives).parens.bind fun hints hhints => .pure (by simp [hhints])

theorem namedTable_gives : Gives d namedTable Clean := by
  unfold namedTable
  refine .step fun name => .step fun called => ?_
  extract_lets behind
  have hbehind : ∀ arguments, Clean arguments → Gives d (behind arguments) Clean := by
    intro arguments harguments
    refine .step fun ordinality => .step fun aliased => .step fun index => ?_
    refine tableHints_gives.bind fun hints hhints => ?_
    exact tableSample_gives.bind fun sample hsample =>
      .pure (by simp [harguments, hhints, hsample])
  exact .ite (argumentsOnly_gives.bind fun arguments harguments =>
    hbehind _ (by simp [harguments])) (hbehind _ clean_nil)

theorem derivedTable_gives {lateral : Bool} : Gives d (derivedTable lateral) Clean := by
  unfold derivedTable
  refine query_gives.bind fun q hq => .step fun _ => ?_
  exact .step fun aliased => .pure (by simp [hq])

theorem lateralItem_gives : Gives d lateralItem Clean := by
  unfold lateralItem
  refine .step fun opened => .ite derivedTable_gives (.step fun name => .step fun _ => ?_)
  refine argumentsOnly_gives.bind fun arguments harguments => ?_
  exact .step fun aliased => .pure (by simp [harguments])

theorem unnestItem_gives : Gives d unnestItem Clean := by
  unfold unnestItem
  refine (list_gives expr_gives).parens.bind fun arrays harrays => .step fun ordinality => ?_
  extract_lets call
  exact .step fun aliased => .pure (by simp [call, harrays])

theorem valueRows_gives {verb : String} : Gives d (valueRows verb) Clean := by
  unfold valueRows
  refine .step fun level => ?_
  extract_lets mysql
  have hrow : Gives d (if mysql then listBefore ")" expr else list expr) Clean :=
    .ite (listBefore_gives expr_gives) (list_gives expr_gives)
  refine (list_gives (.step fun tagged => hrow.parens.bind fun es hes => ?_)).bind
    fun rows hrows => ?_
  · exact .pure (by simp [hes])
  extract_lets mark
  refine .pure ?_
  rw [clean_cons, clean_list]
  refine ⟨clean_text, clean_iff.mpr fun p hp => ?_⟩
  obtain ⟨row, hrow, rfl⟩ := List.mem_map.mp hp
  have hclean := clean_iff.mp hrows row hrow
  exact clean_cons.mpr ⟨clean_text, (clean_pair.mp hclean).2⟩

/-! ### Joins -/

theorem clean_parts {s : Source} (hs : Clean s) : Clean s.relation ∧ Clean s.joins := by
  cases s
  exact clean_source.mp hs

theorem joinConstraint_gives : Gives d joinConstraint Clean := by
  unfold joinConstraint
  refine .step fun on => .ite (expr_gives.bind fun e he => .pure (by simp [he])) ?_
  exact .step fun using_ => .ite (.step fun names => .pure (by simp)) (.pure clean_nil)

theorem realiased_gives {r : Relation} {aliased : Option Alias} (hr : Clean r) :
    Gives d (realiased r aliased) Clean := by
  unfold realiased
  split
  · exact .pure hr
  split
  · exact .pure (by simpa using hr)
  · exact .pure (by simpa using hr)
  · exact .pure (by simpa using hr)
  · exact .pure (by simpa using hr)
  · exact .fail

section Item

variable {item : Grammar Relation} (hitem : Gives d item Clean)

include hitem

theorem join_gives : Gives d (join item) Clean := by
  unfold join
  refine .step fun global => ?_
  extract_lets behind
  have hbehind : ∀ scope, Gives d (behind scope) Clean := by
    intro scope
    refine .step fun cross => .ite (.step fun join_ => .ite ?_ (.step fun _ => ?_)) ?_
    · refine hitem.bind fun r hr => .step fun constrained => .ite ?_ (.pure (by simp [hr]))
      exact joinConstraint_gives.bind fun p hp => .pure (by simp [hr, hp])
    · exact hitem.bind fun r hr => .pure (by simp [hr])
    refine .step fun outer => .ite (.step fun _ => ?_) (.step fun asof => .ite ?_ ?_)
    · exact hitem.bind fun r hr => .pure (by simp [hr])
    · refine .step fun _ => hitem.bind fun r hr => .step fun _ => ?_
      refine expr_gives.parens.bind fun condition hcondition => ?_
      exact joinConstraint_gives.bind fun p hp => .pure (by simp [hr, hcondition, hp])
    refine .step fun natural => .step fun verb => ?_
    split
    · refine hitem.bind fun r hr => .ite (.pure (by simp [hr])) ?_
      exact joinConstraint_gives.bind fun p hp => .pure (by simp [hr, hp])
    · exact .step fun next => .step fun _ => .pure clean_none
  exact .ite (hbehind _) (hbehind _)

theorem joinedWith_gives : Gives d (joinedWith item) Clean := by
  refine hitem.bind fun relation hrelation => ?_
  exact (many_gives (join_gives hitem)).bind fun joins hjoins =>
    .pure (by simp [hrelation, hjoins])

theorem enclosedJoin_gives : Gives d (enclosedJoin item) Clean := by
  refine (joinedWith_gives hitem).bind fun source hsource => ?_
  extract_lets nested
  refine .ite (.step fun _ => .step fun aliased => .pure (by simpa using hsource)) ?_
  refine .step fun lone => .step fun _ => .step fun _ => .step fun aliased => ?_
  exact realiased_gives (clean_parts hsource).1

end Item

theorem relationUpTo_gives (n : Nat) : Gives d (relationUpTo n) Clean := by
  induction n with
  | zero => exact .fail
  | succ n ih =>
    unfold relationUpTo
    refine .step fun lateral => .ite lateralItem_gives (.step fun table => .ite ?_ ?_)
    · refine expr_gives.parens.bind fun e he => ?_
      exact .step fun aliased => .pure (by simp [he])
    refine .step fun opened => .ite (.orElse derivedTable_gives (enclosedJoin_gives ih)) ?_
    refine .step fun values => .step fun next => .step fun second => .ite (.step fun _ => ?_) ?_
    · refine valueRows_gives.bind fun rows hrows => ?_
      exact .step fun aliased => .pure (by simp [hrows])
    refine .step fun unnests => .step fun unnest => ?_
    exact .ite unnestItem_gives namedTable_gives

theorem relation_gives : Gives d relation Clean := .step fun _ => relationUpTo_gives _

theorem source_gives : Gives d source Clean := joinedWith_gives relation_gives

theorem sources_gives : Gives d sources Clean := list_gives source_gives

theorem clean_sourcePieces {ss : List Source} (hss : Clean ss) : Clean (sourcePieces ss) := by
  unfold sourcePieces
  rw [clean_list]
  refine clean_iff.mpr fun p hp => ?_
  obtain ⟨s, hs, rfl⟩ := List.mem_map.mp hp
  obtain ⟨hrelation, hjoins⟩ := clean_parts (clean_iff.mp hss s hs)
  exact clean_cons.mpr ⟨clean_piece_relation.mpr hrelation, hjoins⟩

end RowScope.Sql.Grammar
