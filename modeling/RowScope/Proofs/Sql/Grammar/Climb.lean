/-
The operators of an expression stand in the order in which they bind.

While operators are read behind a left operand, either no OR stands bare in it, or an OR
stands on top of it and the operator that follows does not bind tighter than OR
(`Ready`).  The second half is what the tokens that are left have to say: an operator
that binds tighter than OR would have been taken into the right operand.
-/
import RowScope.Proofs.Sql.Grammar.Operand

namespace RowScope.Sql.Grammar

variable {d : Dialect}

/-! ### The operator that is next -/

theorem ite_ne {c : Prop} [Decidable c] {b : Binding} {o₁ o₂ : Option Binding} (h₁ : o₁ ≠ some b)
    (h₂ : o₂ ≠ some b) : (if c then o₁ else o₂) ≠ some b := by
  split
  · exact h₁
  · exact h₂

/-- No symbol is as loose as AND. -/
theorem symbolBinding_ne (d : Dialect) (s : String) {b : Binding} (hb : b = .or ∨ b = .and) :
    symbolBinding d s ≠ some b := by
  have hserver : ∀ b' : Binding, b' ≠ .or → b' ≠ .and →
      some (if d.serverOperators then .other else b') ≠ some b := by
    intro b' hor hand
    rcases hb with rfl | rfl <;> split <;> simp [hor, hand]
  unfold symbolBinding
  repeat' apply ite_ne
  all_goals
    first
    | exact hserver _ (by decide) (by decide)
    | rcases hb with rfl | rfl <;> decide

theorem negatable_ne (key : String) {b : Binding} (hb : b = .or ∨ b = .and) :
    negatable.lookup key ≠ some b := by
  intro h
  obtain ⟨before, behind, heq, -⟩ := List.lookup_eq_some_iff.mp h
  have hmem : (key, b) ∈ negatable := heq ▸ List.mem_append_right _ List.mem_cons_self
  rcases hb with rfl | rfl <;> simp [negatable] at hmem

/-- The operator in front of some tokens is a symbol or a word without quotes. -/
theorem token_of_bindingOf {inColumn : Bool} {tokens : List Lexeme} {b : Binding}
    (h : bindingOf d inColumn tokens = some b) :
    ∃ t rest, tokens = t :: rest ∧ ((∃ s, t.token = .symbol s ∧ b ≠ .or) ∨
      ∃ text key, t.token = .word text none key ∧ (b = .or ↔ key = "OR")) := by
  cases tokens with
  | nil => cases h
  | cons t rest =>
    refine ⟨t, rest, rfl, ?_⟩
    unfold bindingOf at h
    rw [List.take_succ_cons, List.map_cons] at h
    cases ht : t.token with
    | symbol s =>
      rw [ht] at h
      refine .inl ⟨s, rfl, ?_⟩
      rintro rfl
      exact symbolBinding_ne d s (.inl rfl) h
    | literal v =>
      rw [ht] at h
      cases h
    | word text quote key =>
      rw [ht] at h
      cases quote with
      | some q => cases h
      | none =>
        refine .inr ⟨text, key, rfl, ?_⟩
        by_cases hkey : key = "OR"
        · subst hkey
          cases h
          exact iff_of_true rfl rfl
        refine iff_of_false ?_ hkey
        rintro rfl
        have hnot : ¬(key == "OR") = true := by simpa using hkey
        refine (?_ : _ ≠ some Binding.or) ((if_neg hnot).symm.trans h)
        repeat' apply ite_ne
        any_goals decide
        · split
          · exact ite_ne (ite_ne (by decide) (by decide)) (negatable_ne _ (.inl rfl))
          · decide
        · exact negatable_ne _ (.inl rfl)

/-- In front of AND stands the keyword. -/
theorem token_of_and {inColumn : Bool} {tokens : List Lexeme}
    (h : bindingOf d inColumn tokens = some .and) :
    ∃ text spaced rest, tokens = ⟨.word text none "AND", spaced⟩ :: rest := by
  obtain ⟨⟨t, spaced⟩, rest, rfl, htoken⟩ := token_of_bindingOf h
  unfold bindingOf at h
  rw [List.take_succ_cons, List.map_cons] at h
  obtain ⟨s, ht, -⟩ | ⟨text, key, ht, -⟩ := htoken
  · cases ht
    exact absurd h (symbolBinding_ne d s (.inr rfl))
  · cases ht
    refine ⟨text, spaced, rest, ?_⟩
    by_cases hkey : key = "AND"
    · rw [hkey]
    have hnot : ¬(key == "AND") = true := by simpa using hkey
    refine absurd h ?_
    refine ite_ne (by decide) ?_
    rw [if_neg hnot]
    repeat' apply ite_ne
    any_goals decide
    · split
      · exact ite_ne (ite_ne (by decide) (by decide)) (negatable_ne _ (.inr rfl))
      · decide
    · exact negatable_ne _ (.inr rfl)

/-! ### Operators that are not OR -/

section Operators

variable {left : Expr}

theorem orFree_quantified (hleft : left.OrFree) {s : String} {right : Expr} :
    (Expr.phrase [.expr left, .text s, .text "(", .expr right, .text ")"]).OrFree := by
  refine orFree_phrase hleft ?_
  rw [bareOfPieces_text, bareOfPieces_text, depthBehind_open]
  simp [bareOfPieces, Piece.bare]

theorem rightSide_gives {op : BinaryOp} {compares : Bool} {strength : Nat}
    (hs : d.strength .or ≤ strength) (hop : op ≠ .or) (hleft : Operand left) :
    Gives d (rightSide left op compares strength) Operand := by
  unfold rightSide
  refine .step fun quantifier => ?_
  split
  · refine (exprAbove_operand hs).bind fun right hright => .pure ⟨?_, ?_⟩
    · simp [hleft.1, hright.1]
    · exact orFree_binary hop hleft.2 (.inr hright.2)
  rename_i quantifier
  extract_lets head
  refine .step fun next => .step fun _ => .step fun second => .ite ?_ ?_
  · refine (exprAbove_operand hs).bind fun right hright => .step fun _ => ?_
    split
    · exact .pure (hleft.phrase (by simpa using hright.1) (by simp))
    · exact .pure ⟨by simp [head, hleft.1, hright.1], orFree_quantified hleft.2⟩
  · refine .step fun _ => (exprAbove_operand hs).bind fun right hright => ?_
    refine .step fun _ => .step fun _ => .pure ⟨?_, orFree_quantified hleft.2⟩
    simp [head, hleft.1, hright.1]

theorem isTest_gives (hleft : Operand left) : Gives d (isTest left) Operand := by
  unfold isTest
  refine .step fun negation => ?_
  extract_lets head normalized
  have hnormalized : ∀ form, Gives d (normalized form) Operand := fun form =>
    .step fun _ => .pure (hleft.phrase (by simp [head]) (by simp [head]))
  refine .step fun what => ?_
  split
  · exact .pure (hleft.phrase (by simp) (by simp))
  refine .step fun distinct => .ite ?_ (.step fun form => ?_)
  · refine expr_gives.bind fun e he => .pure ⟨by simp [head, hleft.1, he], ?_⟩
    refine orFree_phrase hleft.2 ?_
    rw [bareOfPieces_text, bareOfPieces_text, beq_self_eq_true, Bool.or_true]
    exact orFree_of_behind fun b hb => pieces_behind_of_mem_bare _ _ hb
  · split
    · exact hnormalized _
    · exact hnormalized _

theorem inTest_gives {negation : String} (hleft : Operand left) :
    Gives d (inTest left negation) Operand := by
  unfold inTest
  extract_lets head behind
  have hbehind : ∀ es, Clean es → Gives d (behind es) Operand := by
    intro es hes
    refine .step fun _ => .pure ⟨by simp [head, hleft.1, hes], orFree_phrase hleft.2 ?_⟩
    have hpieces : ([.text (" " ++ negation ++ "IN ")] : Phrase) ++ (Phrase.exprs es).parens
        = .text (" " ++ negation ++ "IN ") :: .text "(" :: (Phrase.exprs es ++ [.text ")"]) := rfl
    rw [List.append_eq, hpieces, bareOfPieces_text, bareOfPieces_text, depthBehind_open,
      bareOfPieces_exprs]
    exact List.not_mem_nil
  refine .step fun unnest => .ite ?_ (.step fun _ => ?_)
  · refine expr_gives.parens.bind fun e he => .pure ⟨by simp [head, hleft.1, he], ?_⟩
    refine orFree_phrase hleft.2 ?_
    have hopen : ∀ n, depthBehind n "UNNEST(" = n + 1 := fun n => rfl
    rw [List.append_eq, List.cons_append, List.nil_append, bareOfPieces_text, bareOfPieces_text,
      hopen]
    simp [bareOfPieces, Piece.bare]
  refine query_gives.attempt.bind fun rows hrows => ?_
  split
  · rename_i q
    exact .step fun _ => .pure (hleft.phrase (by simp [hrows q rfl]) (by simp))
  refine .step fun empty => ?_
  exact .ite ((listBefore_gives expr_gives).bind hbehind) ((list_gives expr_gives).bind hbehind)

theorem betweenTest_gives {negation : String} (hleft : Operand left) :
    Gives d (betweenTest left negation) Operand := by
  unfold betweenTest
  refine exprAboveBinding_gives.bind fun low hlow => .step fun _ => ?_
  refine exprAboveBinding_gives.bind fun high hhigh => .pure (hleft.phrase ?_ ?_)
  · simp [hlow.1, hhigh.1]
  · simp [hlow.2, hhigh.2]

theorem likeTest_gives {verb : String} (hleft : Operand left) :
    Gives d (likeTest left verb) Operand := by
  unfold likeTest
  refine exprAboveBinding_gives.bind fun pattern hpattern => .step fun escapes => ?_
  extract_lets closed
  have hclosed : ∀ escape, Gives d (closed escape) Operand := fun escape =>
    .pure (hleft.phrase (by simp [hpattern.1]) (by simp [hpattern.2]))
  exact .ite (.step hclosed) (hclosed _)

theorem negatableTest_gives (hleft : Operand left) : Gives d (negatableTest left) Operand := by
  unfold negatableTest
  refine .step fun negation => .step fun verb => ?_
  split
  · exact exprAboveBinding_gives.bind fun pattern hpattern =>
      .pure (hleft.phrase (by simp [hpattern.1]) (by simp [hpattern.2]))
  refine .step fun level => .step fun null => .ite ?_ ?_
  · exact .pure (hleft.phrase (by simp) (by simp))
  refine .step fun in_ => .ite (inTest_gives hleft) ?_
  refine .step fun between => .ite (betweenTest_gives hleft) ?_
  refine .step fun like => .ite (.step fun any => likeTest_gives hleft) ?_
  refine .step fun ilike => .ite (.step fun any => likeTest_gives hleft) ?_
  refine .step fun similar => .ite (likeTest_gives hleft) (.step fun _ => ?_)
  refine expr_gives.parens.bind fun e he => .pure ⟨by simp [hleft.1, he], ?_⟩
  refine orFree_phrase hleft.2 ?_
  have hopen : ∀ n, depthBehind n "MEMBER OF(" = n + 1 := fun n => rfl
  rw [bareOfPieces_text, depthBehind_append, hopen]
  simp [bareOfPieces, Piece.bare]

theorem wordOperator_gives {key : String} {strength : Nat} (hs : d.strength .or ≤ strength)
    (hkey : key ≠ "OR") (hleft : Operand left) :
    Gives d (wordOperator left key strength) Operand := by
  have hopen : ∀ op : BinaryOp, op.isOpen = true → op ≠ .or →
      Gives d (expr >>= fun right => pure (.binary left op right)) Operand := by
    intro op hop hor
    refine expr_gives.bind fun right hright => .pure ⟨by simp [hleft.1, hright], ?_⟩
    exact orFree_binary hor hleft.2 (.inl hop)
  unfold wordOperator
  split
  · exact .step fun _ => rightSide_gives hs (by decide) hleft
  · exact absurd rfl hkey
  · exact .step fun _ => rightSide_gives hs (by decide) hleft
  · exact .step fun _ => rightSide_gives hs (by decide) hleft
  · refine .step fun known => .step fun _ => .step fun _ => .step fun name => ?_
    exact rightSide_gives hs (by simp) hleft
  · exact .step fun known => .step fun _ => .step fun _ => hopen _ rfl (by decide)
  · exact .step fun _ => isTest_gives hleft
  · exact .step fun _ => (exprAbove_operand hs).bind fun e he =>
      .pure (hleft.phrase (by simp [he.1]) (by simp [he.2]))
  · exact .step fun _ => .pure (hleft.phrase (by simp) (by simp))
  · refine .step fun wide => .ite ?_ (negatableTest_gives hleft)
    exact .step fun _ => hopen _ rfl (by decide)
  · refine .step fun wide => .ite ?_ (negatableTest_gives hleft)
    exact .step fun _ => hopen _ rfl (by decide)
  · exact negatableTest_gives hleft

end Operators

/-! ### Climbing -/

section Climbing

variable {level : Level} {left e : Expr} {tokens rest : List Lexeme} {strength : Nat}

theorem peek_apply (level : Level) (tokens : List Lexeme) :
    peek level tokens = .ok ((tokens[0]?).map Lexeme.token, tokens) := rfl

theorem nextStrength_apply (level : Level) (tokens : List Lexeme) :
    nextStrength level tokens = .ok (strengthOf level.dialect level.inColumn tokens, tokens) := rfl

/-- Behind an OR stands an operand of its strength, and the two are joined. -/
theorem infixed_or (hlevel : level.Sound d) (hnext : bindingOf d level.inColumn tokens = some .or)
    (hrun : infixed left strength level tokens = .ok (e, rest)) :
    ∃ right, e = .binary left .or right ∧ Climbed d level.inColumn strength right rest := by
  obtain ⟨t, behind, rfl, ⟨s, -, hs⟩ | ⟨text, key, ht, hkey⟩⟩ := token_of_bindingOf hnext
  · exact absurd rfl hs
  obtain ⟨next, mid, hpeek, hrun⟩ := of_bind hrun
  rw [peek_apply, List.getElem?_cons_zero, Option.map_some, ht, hkey.mp rfl] at hpeek
  cases hpeek
  obtain ⟨-, mid, -, hrun⟩ := of_bind hrun
  obtain ⟨quantifier, mid, -, hrun⟩ := of_bind hrun
  cases quantifier with
  | none =>
    obtain ⟨right, mid, hright, hrun⟩ := of_bind hrun
    cases hrun
    exact ⟨right, rfl, exprAbove_climbed hlevel hright⟩
  | some quantifier =>
    -- only comparisons may be quantified
    exfalso
    refine (?_ : Gives d _ fun _ => False) hlevel hrun
    refine .step fun next => .step fun _ => .step fun second => .ite ?_ ?_
    · exact .step fun right => .require fun h => Bool.noConfusion h
    · exact .step fun _ => .step fun right => .step fun _ => .require fun h => Bool.noConfusion h

/-- An operator that is not OR leaves an operand. -/
theorem infixed_operand (hlevel : level.Sound d) {b : Binding}
    (hnext : bindingOf d level.inColumn tokens = some b) (hb : b ≠ .or)
    (hs : d.strength .or ≤ strength) (hleft : Operand left)
    (hrun : infixed left strength level tokens = .ok (e, rest)) : Operand e := by
  obtain ⟨t, behind, rfl, htoken⟩ := token_of_bindingOf hnext
  obtain ⟨next, mid, hpeek, hrun⟩ := of_bind hrun
  rw [peek_apply, List.getElem?_cons_zero, Option.map_some] at hpeek
  cases hpeek
  obtain ⟨s, ht, -⟩ | ⟨text, key, ht, hkey⟩ := htoken
  · rw [ht] at hrun
    refine (?_ : Gives d _ Operand) hlevel hrun
    split
    · rename_i heq
      cases heq
    · exact .step fun _ => .step fun type => .pure (hleft.phrase (by simp) (by simp))
    · exact .step fun level => .step fun _ => .step fun _ =>
        .pure (hleft.phrase (by simp) (by simp))
    · refine .step fun _ => rightSide_gives hs ?_ hleft
      unfold binaryOp
      split <;> simp
    · exact .fail
  · rw [ht] at hrun
    exact wordOperator_gives hs (fun h => hb (hkey.mpr h)) hleft hlevel hrun

/-- A left operand and the tokens behind it, while operators are read. -/
def Ready (d : Dialect) (inColumn : Bool) (strength : Nat) (left : Expr) (tokens : List Lexeme) :
    Prop :=
  left.OrFree ∨ left.topOp? = some .or ∧ strength < d.strength .or ∧
    strengthOf d inColumn tokens ≤ d.strength .or

/-- One operator and its right operand keep the left operand ready. -/
theorem infixed_ready (hlevel : level.Sound d) (hleft : Clean left)
    (hready : Ready d level.inColumn strength left tokens)
    (hnext : strength < strengthOf d level.inColumn tokens)
    (hrun : infixed left (strengthOf d level.inColumn tokens) level tokens = .ok (e, rest)) :
    Clean e ∧ Ready d level.inColumn strength e rest := by
  cases hb : bindingOf d level.inColumn tokens with
  | none =>
    rw [strengthOf, hb, Option.map_none, Option.getD_none] at hnext
    exact absurd hnext (Nat.not_lt_zero strength)
  | some b =>
    have hstrength : strengthOf d level.inColumn tokens = d.strength b := by
      rw [strengthOf, hb, Option.map_some, Option.getD_some]
    rw [hstrength] at hnext hrun
    by_cases hor : b = .or
    · subst hor
      obtain ⟨right, rfl, hright⟩ := infixed_or hlevel hb hrun
      exact ⟨clean_binary.mpr ⟨hleft, hright.clean⟩, .inr ⟨rfl, hnext, hright.ended⟩⟩
    · have hfree : left.OrFree := by
        refine hready.resolve_right ?_
        rintro ⟨-, -, hle⟩
        have hlt := strength_or_lt d hor
        omega
      have he := infixed_operand hlevel hb hor (strength_or_le d b) ⟨hleft, hfree⟩ hrun
      exact ⟨he.1, .inl he.2⟩

/-- A left operand is what was read if the operator that follows binds too loosely. -/
theorem Ready.climbed (hready : Ready d level.inColumn strength left tokens) (hleft : Clean left)
    (hended : strengthOf d level.inColumn tokens ≤ strength) :
    Climbed d level.inColumn strength left tokens :=
  ⟨hleft, hended, hready.imp_right fun h => ⟨h.1, h.2.1⟩⟩

theorem climb_climbed (hlevel : level.Sound d) (n : Nat) (hleft : Clean left)
    (hready : Ready d level.inColumn strength left tokens)
    (hrun : climb strength n left level tokens = .ok (e, rest)) :
    Climbed d level.inColumn strength e rest := by
  induction n generalizing left tokens with
  | zero =>
    obtain ⟨next, mid, hnext, hrun⟩ := of_bind hrun
    rw [nextStrength_apply, hlevel.dialect] at hnext
    cases hnext
    by_cases hended : strengthOf d level.inColumn tokens ≤ strength
    · rw [decide_eq_true hended] at hrun
      cases hrun
      exact hready.climbed hleft hended
    · rw [decide_eq_false hended] at hrun
      cases hrun
  | succ n ih =>
    obtain ⟨next, mid, hnext, hrun⟩ := of_bind hrun
    rw [nextStrength_apply, hlevel.dialect] at hnext
    cases hnext
    split at hrun
    · rename_i hended
      cases hrun
      exact hready.climbed hleft hended
    · rename_i hended
      obtain ⟨e', mid, hinfixed, hrun⟩ := of_bind hrun
      obtain ⟨he', hready'⟩ := infixed_ready hlevel hleft hready (Nat.lt_of_not_le hended) hinfixed
      exact ih he' hready' hrun

/-- Any expression is read so that its operators stand in order. -/
theorem expression_climbed (hlevel : level.Sound d)
    (hrun : expression strength level tokens = .ok (e, rest)) :
    Climbed d level.inColumn strength e rest := by
  unfold expression at hrun
  obtain ⟨tokens, mid, -, hrun⟩ := of_bind hrun
  obtain ⟨root, mid, hroot, hrun⟩ := of_bind hrun
  obtain ⟨chain, mid, hchain, hrun⟩ := of_bind hrun
  obtain ⟨starred, mid, hstarred, hrun⟩ := of_bind hrun
  obtain ⟨left, mid, hleft, hrun⟩ := of_bind hrun
  have hroot := operand_gives _ hlevel hroot
  have hchain := many_gives links_gives hlevel hchain
  have hstarred := rowStar_gives hroot (clean_flatten.mpr hchain) hlevel hstarred
  have hleft := collated_gives hstarred hlevel hleft
  exact climb_climbed hlevel _ hleft.1 (.inl hleft.2) hrun

end Climbing

end RowScope.Sql.Grammar
