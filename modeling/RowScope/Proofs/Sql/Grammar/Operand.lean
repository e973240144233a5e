/-
Operands are read clean, and with no OR outside of parentheses.

Most operands start with a text of their own and enclose the expressions they hold.  A
sign or a NOT does not, but it asks for an operand that binds tighter than OR, and so does
every operator but the few that are open.
-/
import RowScope.Proofs.Sql.Grammar.Call

namespace RowScope.Sql.Grammar

variable {d : Dialect}

/-! ### How loose OR is -/

/-- No operator binds looser than OR. -/
theorem strength_or_le (d : Dialect) (b : Binding) : d.strength .or ≤ d.strength b := by
  unfold Dialect.strength
  split <;> cases b <;> decide

/-- Every other operator binds tighter. -/
theorem strength_or_lt (d : Dialect) {b : Binding} (hb : b ≠ .or) :
    d.strength .or < d.strength b := by
  unfold Dialect.strength
  split <;> cases b <;> first | exact absurd rfl hb | decide

theorem exprAbove_operand {strength : Nat} (hs : d.strength .or ≤ strength) :
    Gives d (exprAbove strength) Operand := by
  intro level tokens e rest hlevel hrun
  have h := exprAbove_climbed hlevel hrun
  refine ⟨h.clean, h.orFree.resolve_right ?_⟩
  rintro ⟨-, hlt⟩
  omega

theorem exprAboveBinding_gives {b : Binding} : Gives d (exprAboveBinding b) Operand := by
  intro level tokens e rest hlevel hrun
  refine exprAbove_operand ?_ hlevel hrun
  rw [← hlevel.dialect]
  exact strength_or_le _ b

/-! ### Constructs that start with a word -/

theorem caseExpr_gives : Gives d caseExpr Operand := by
  unfold caseExpr
  have hbranch : Gives d caseExpr.branch Clean := by
    refine expr_gives.bind fun condition hcondition => .step fun _ => ?_
    exact expr_gives.bind fun e he => .pure (by simp [hcondition, he])
  refine .step fun plain => ?_
  extract_lets branches
  have hbranches : ∀ operand, Clean operand → Gives d (branches operand) Operand := by
    intro operand hoperand
    refine hbranch.bind fun first hfirst => ?_
    refine (many_gives (.step fun when_ => .ite ?_ ?_)).bind fun rest hrest => ?_
    · exact hbranch.bind fun p hp => .pure hp
    · exact .pure clean_none
    refine exprBehind_gives.bind fun otherwise hotherwise => .step fun _ => ?_
    exact .pure ⟨by simp [hoperand, hfirst, hrest, hotherwise], orFree_text⟩
  refine .ite (hbranches _ clean_nil) ?_
  exact expr_gives.bind fun e he => .step fun _ => hbranches _ (by simp [he])

theorem castExpr_gives {verb : String} : Gives d (castExpr verb) Operand := by
  refine .parens (expr_gives.bind fun e he => ?_)
  refine .step fun _ => .step fun type => .step fun formatted => ?_
  extract_lets closed
  have hclosed : ∀ format, Gives d (closed format) Operand := fun format =>
    .pure ⟨by simp [he], orFree_text⟩
  exact .ite (.step hclosed) (hclosed _)

theorem convertExpr_gives : Gives d convertExpr Operand := by
  unfold convertExpr
  refine .step fun level => .step fun _ => .parens (expr_gives.bind fun e he => ?_)
  refine .step fun using_ => .ite (.step fun name => .pure ⟨by simp [he], orFree_text⟩) ?_
  refine .step fun _ => .step fun type => .step fun set_ => ?_
  extract_lets closed
  have hclosed : ∀ charset, Gives d (closed charset) Operand := fun charset =>
    .pure ⟨by simp [he], orFree_text⟩
  exact .ite (.step hclosed) (hclosed _)

theorem existsExpr_gives {negated : Bool} : Gives d (existsExpr negated) Operand :=
  .parens (query_gives.bind fun q hq => .pure ⟨by simp [hq], orFree_text⟩)

theorem extractExpr_gives : Gives d extractExpr Operand := by
  refine .parens (.step fun field => .step fun from_ => ?_)
  extract_lets behind
  have hbehind : ∀ between, Gives d (behind between) Operand := fun between =>
    expr_gives.bind fun e he => .pure ⟨by simp [he], orFree_text⟩
  exact .ite (hbehind _) (.step fun known => .step fun _ => .step fun _ => hbehind _)

theorem roundExpr_gives {verb : String} : Gives d (roundExpr verb) Operand := by
  refine .parens (expr_gives.bind fun e he => .step fun to_ => ?_)
  extract_lets closed
  have hclosed : ∀ how, Gives d (closed how) Operand := fun how =>
    .pure ⟨by simp [he], orFree_text⟩
  refine .ite (.step hclosed) (.step fun comma => .ite (.step fun v => ?_) (hclosed _))
  split
  · exact hclosed _
  · exact .step hclosed

theorem positionExpr_gives {word : Ident} : Gives d (positionExpr word) Operand := by
  refine .orElse (.parens ?_) call_gives
  refine exprAboveBinding_gives.bind fun what hwhat => .step fun _ => ?_
  exact expr_gives.bind fun e he => .pure ⟨by simp [hwhat.1, he], orFree_text⟩

theorem substringExpr_gives {verb : String} : Gives d (substringExpr verb) Operand := by
  refine .parens (expr_gives.bind fun e he => .step fun special => ?_)
  extract_lets part stopped
  have hpart : ∀ mark es, Clean es → Clean (part mark es) := by
    intro mark es hes
    rw [clean_iff] at hes ⊢
    intro p hp
    obtain ⟨x, hx, hp⟩ := List.mem_flatMap.mp hp
    rcases List.mem_cons.mp hp with rfl | hp
    · exact clean_text
    · rw [List.mem_singleton.mp hp]
      exact clean_piece_expr.mpr (hes x hx)
  have hstopped : ∀ start, Clean start → Gives d (stopped start) Operand := by
    intro start hstart
    refine .step fun for_ => ?_
    extract_lets closed
    have hclosed : ∀ stop, Clean stop → Gives d (closed stop) Operand := fun stop hstop =>
      .pure ⟨by simp [he, hpart _ _ hstart, hpart _ _ hstop], orFree_text⟩
    have hone : Gives d (expr >>= fun x => closed [x]) Operand :=
      expr_gives.bind fun x hx => hclosed _ (by simp [hx])
    exact .ite hone (.step fun comma => .ite hone (hclosed _ clean_nil))
  have hone : Gives d (expr >>= fun x => stopped [x]) Operand :=
    expr_gives.bind fun x hx => hstopped _ (by simp [hx])
  exact .ite hone (.step fun from_ => .ite hone (hstopped _ clean_nil))

theorem overlayExpr_gives : Gives d overlayExpr Operand := by
  refine .parens (expr_gives.bind fun e he => .step fun _ => ?_)
  refine expr_gives.bind fun what hwhat => .step fun _ => ?_
  refine expr_gives.bind fun start hstart => exprBehind_gives.bind fun length hlength => ?_
  exact .pure ⟨by simp [he, hwhat, hstart, hlength], orFree_text⟩

theorem trimExpr_gives : Gives d trimExpr Operand := by
  refine .parens (.step fun next => ?_)
  extract_lets behind
  have hbehind : ∀ side, Gives d (behind side) Operand := by
    intro side
    refine expr_gives.bind fun first hfirst => .step fun from_ => .ite ?_ ?_
    · exact expr_gives.bind fun e he => .pure ⟨by simp [hfirst, he], orFree_trim⟩
    refine .step fun comma => .ite ?_ (.pure ⟨by simp [hfirst], orFree_text⟩)
    refine .step fun known => .step fun _ => ?_
    exact (list_gives expr_gives).bind fun what hwhat =>
      .pure ⟨by simp [hfirst, hwhat], orFree_text⟩
  split
  · exact hbehind _
  · exact hbehind _

theorem arrayExpr_gives {mark : String} : Gives d (arrayExpr mark) Operand :=
  (listBefore_gives expr_gives).bind fun elements helements =>
    .step fun _ => .pure ⟨by simp [helements], orFree_text⟩

theorem notExpr_gives : Gives d notExpr Operand := by
  unfold notExpr
  refine .step fun exists_ => .ite existsExpr_gives ?_
  exact exprAboveBinding_gives.bind fun e he => .pure ⟨by simp [he.1], orFree_unary.mpr he.2⟩

section Words

variable {operand : Grammar Expr}

theorem intervalExpr_gives (hoperand : Gives d operand Operand) :
    Gives d (intervalExpr operand) Operand := by
  unfold intervalExpr
  refine .step fun unit => ?_
  extract_lets behind
  have hbehind : ∀ e, Clean e → Gives d (behind e) Operand := fun e he =>
    .step fun units => .pure ⟨by simp [he], orFree_text⟩
  exact .ite (expr_gives.bind hbehind) (hoperand.bind fun e he => hbehind e he.1)

theorem construct_gives (hoperand : Gives d operand Operand) {word : Ident} {key : String} :
    Gives d (construct operand word key) fun o => ∀ e ∈ o, Operand e := by
  have hnone : Gives d (pure none) fun o => ∀ e ∈ o, Operand e := .pure (by simp)
  have hvalue : ∀ v, Gives d (pure (some (.value v))) fun o => ∀ e ∈ o, Operand e := fun v =>
    .pure (by simp [Operand])
  have hcall : ∀ arguments, Clean arguments →
      Gives d (pure (some (.call word.render arguments [] [] []))) fun o => ∀ e ∈ o, Operand e :=
    fun arguments harguments => .pure (by simp [Operand, harguments])
  unfold construct
  refine .step fun level => ?_
  extract_lets dialect
  split
  · exact .ite (hvalue _) hnone
  · exact .ite (hvalue _) hnone
  · exact hvalue _
  iterate 4 exact .ite (hcall [] clean_nil) hnone
  iterate 5 exact .step fun opened => .ite (arguments_gives.bind hcall) (hcall [] clean_nil)
  · exact caseExpr_gives.some
  · exact convertExpr_gives.some
  iterate 3 exact castExpr_gives.some
  · exact existsExpr_gives.some
  · exact extractExpr_gives.some
  iterate 2 exact roundExpr_gives.some
  · exact .step fun opened => .ite positionExpr_gives.some hnone
  iterate 2 exact substringExpr_gives.some
  · exact overlayExpr_gives.some
  · exact trimExpr_gives.some
  · exact (intervalExpr_gives hoperand).some
  · refine .step fun bracket => .ite arrayExpr_gives.some (.step fun opened => .ite ?_ hnone)
    exact (query_gives.parens).bind fun q hq => hcall _ (by simp [hq])
  · exact notExpr_gives.some
  · exact hnone

/-! ### Operands -/

theorem named_gives {word : Ident} : Gives d (named word) Operand := by
  have hident : Gives d (pure (.ident word)) Operand := .pure ⟨clean_ident, orFree_ident⟩
  unfold named
  refine .step fun next => ?_
  split
  · exact call_gives
  · refine .step fun lambdas => .ite (.step fun _ => ?_) hident
    exact expr_gives.bind fun e he => .pure ⟨by simp [he], orFree_text⟩
  · extract_lets introduced
    exact .ite (.step fun v => .pure ⟨by simp, orFree_text⟩) hident
  · exact hident

theorem wordOperand_gives (hoperand : Gives d operand Operand) {word : Ident} {key : String} :
    Gives d (wordOperand operand word key) Operand := by
  have hconstruct : Gives d (skip *> construct operand word key) fun o => ∀ e ∈ o, Operand e :=
    .step fun _ => construct_gives hoperand
  have hnamed : Gives d (skip *> named word) Operand := .step fun _ => named_gives
  intro level tokens e rest hlevel hrun
  unfold wordOperand at hrun
  split at hrun
  · rename_i e' mid hfound
    cases hrun
    exact hconstruct hlevel hfound e rfl
  · exact hnamed hlevel hrun
  · split at hrun
    · cases hrun
    · split at hrun
      · rename_i found hfound
        cases hrun
        exact hnamed hlevel hfound
      · cases hrun
      · cases hrun

theorem typedText_gives (hoperand : Gives d operand Operand) :
    Gives d (typedText operand) Operand := by
  unfold typedText
  refine .step fun type => ?_
  split
  · exact .fail
  · exact intervalExpr_gives hoperand
  · refine .step fun casts => .ite ?_ (.step fun v => .pure ⟨by simp, orFree_text⟩)
    exact expr_gives.bind fun e he => .pure ⟨by simp [he], orFree_text⟩
  · exact .step fun v => .pure ⟨by simp, orFree_text⟩

end Words

theorem lambdaExpr_gives : Gives d lambdaExpr Operand := by
  unfold lambdaExpr
  refine .step fun lambdas => .step fun _ => .step fun parameters => ?_
  refine .step fun _ => .step fun _ => ?_
  exact expr_gives.bind fun e he => .pure ⟨by simp [he], orFree_text⟩

theorem parenthesized_gives : Gives d parenthesized Operand := by
  unfold parenthesized
  refine .step fun _ => .step fun next => .ite ?_ ?_
  · exact query_gives.bind fun q hq => .step fun _ => .pure ⟨by simp [hq], orFree_subquery⟩
  refine lambdaExpr_gives.attempt.bind fun found hfound => ?_
  split
  · exact .pure (hfound _ rfl)
  refine (list_gives expr_gives).inColumn.bind fun es hes => ?_
  split
  · exact .step fun _ => .pure ⟨by simpa using hes, orFree_nested⟩
  · exact .step fun _ => .pure ⟨by simp [hes], orFree_text⟩

theorem symbolOperand_gives {s : String} : Gives d (symbolOperand s) Operand := by
  have hsigned : ∀ op b, Gives d (exprAboveBinding b >>= fun e => pure (.unary op e)) Operand :=
    fun op b => exprAboveBinding_gives.bind fun e he => .pure ⟨by simp [he.1], by simp [he.2]⟩
  unfold symbolOperand
  split
  · exact parenthesized_gives
  · exact .step fun _ => arrayExpr_gives
  · exact .step fun _ => hsigned _ _
  · exact .step fun _ => hsigned _ _
  · exact .step fun _ => hsigned _ _
  refine .step fun level => ?_
  extract_lets op
  clear_value op
  cases op with
  | some op => exact .step fun _ => hsigned _ _
  | none => exact .step fun v => .pure ⟨clean_value, orFree_value⟩

theorem collated_gives {e : Expr} (he : Operand e) : Gives d (collated e) Operand := by
  unfold collated
  refine .step fun level => .step fun collate => .ite ?_ (.pure he)
  exact .step fun name => .pure (he.phrase (by simp) (by simp))

theorem operand_gives (n : Nat) : Gives d (operand n) Operand := by
  induction n with
  | zero => exact .fail
  | succ n ih =>
    unfold operand
    refine .step fun next => ?_
    extract_lets behind untyped
    have hbehind : ∀ e, Operand e → Gives d (behind e) Operand := fun e he => collated_gives he
    have huntyped : ∀ typed, (∀ e ∈ typed, Operand e) → Gives d (untyped typed) Operand := by
      intro typed htyped
      cases typed with
      | some e => exact .pure (htyped e rfl)
      | none =>
        cases next with
        | none => exact .bind .fail hbehind
        | some t =>
          cases t with
          | word text quote key => exact (wordOperand_gives ih).bind hbehind
          | literal v => exact .step fun v => hbehind _ ⟨clean_value, orFree_value⟩
          | symbol s => exact symbolOperand_gives.bind hbehind
    exact .ite ((typedText_gives ih).attempt.bind huntyped) (huntyped none (by simp))

/-! ### Access to parts -/

instance : HasNodes Link := ⟨fun l => HasNodes.nodes l.pieces⟩

@[simp] theorem clean_field {e : Expr} : Clean (.field e : Link) ↔ Clean e := by
  have hpieces : Clean (.field e : Link) ↔ Clean (Link.field e).pieces := Iff.rfl
  rw [hpieces, Link.pieces]
  simp

@[simp] theorem clean_part {pieces : Phrase} : Clean (.part pieces : Link) ↔ Clean pieces :=
  Iff.rfl

theorem clean_links {chain : List Link} : Clean (chain.flatMap Link.pieces) ↔ Clean chain := by
  induction chain with
  | nil => simp
  | cons l rest ih =>
    rw [List.flatMap_cons, clean_append, clean_cons, ih]
    exact Iff.rfl

theorem subscript_gives : Gives d subscript Clean := by
  unfold subscript
  refine .step fun open_ => ?_
  extract_lets bounded
  have hbounded : ∀ low, Clean low → Gives d (bounded low) Clean := by
    intro low hlow
    refine .step fun closed => .ite (.pure (by simp [hlow])) (.step fun _ => ?_)
    refine .step fun closed => .ite (.pure (by simp [hlow])) ?_
    refine exprAboveBinding_gives.bind fun high hhigh => ?_
    refine .step fun closed => .ite (.pure (by simp [hlow, hhigh.1])) (.step fun _ => ?_)
    refine .step fun closed => .ite (.pure (by simp [hlow, hhigh.1])) ?_
    exact expr_gives.bind fun stride hstride =>
      .step fun _ => .pure (by simp [hlow, hhigh.1, hstride])
  exact .ite (hbounded _ clean_nil)
    (exprAboveBinding_gives.bind fun low hlow => hbounded _ (by simp [hlow.1]))

theorem clean_linksOf {e : Expr} (he : Clean e) : ∀ chain ∈ linksOf e, Clean chain := by
  intro chain hchain
  unfold linksOf at hchain
  split at hchain
  all_goals cases hchain
  · simpa using he
  · simp [clean_iff]
  · simp
  · simp
  · simpa using he

theorem field_gives : Gives d field Clean := by
  unfold field
  refine .step fun next => ?_
  split
  · exact .step fun _ => .pure (by simp)
  · exact .step fun _ => .pure (by simp)
  refine (Gives.attempt (P := Clean) (exprAboveBinding_gives.bind fun e he => ?_)).bind
    fun found hfound => ?_
  · split
    · rename_i chain hchain
      exact .pure (clean_linksOf he.1 chain hchain)
    · exact .fail
  cases found with
  | some chain => exact .pure (hfound chain rfl)
  | none => exact .step fun name => .pure (by simp)

theorem links_gives : Gives d links Clean := by
  unfold links
  refine .step fun next => .ite (.step fun star => .ite (.pure clean_none) ?_) ?_
  · exact .step fun _ => field_gives.bind fun chain hchain => .pure hchain
  refine .step fun subscripts => .step fun bracket => .ite ?_ (.pure clean_none)
  exact subscript_gives.bind fun pieces hpieces => .pure (by simp [hpieces])

/-- An operand keeps being one when its parts are accessed. -/
theorem accessed_operand {root : Expr} {chain : List Link} (hroot : Operand root)
    (hchain : Clean chain) : Operand (accessed root chain) := by
  have haccess : Operand (.access root (chain.flatMap Link.pieces)) :=
    ⟨clean_access.mpr ⟨hroot.1, clean_links.mpr hchain⟩, orFree_access.mpr hroot.2⟩
  unfold accessed
  split
  · exact hroot
  split
  · split
    · exact ⟨clean_path, orFree_path⟩
    split
    · rename_i hreverse
      split
      · have hlast : Clean chain.reverse := by
          rw [clean_iff] at hchain ⊢
          exact fun l hl => hchain l (List.mem_reverse.mp hl)
        rw [hreverse, clean_cons, clean_field, clean_call] at hlast
        exact ⟨clean_call.mpr hlast.1, orFree_call⟩
      · exact haccess
    · exact haccess
  · exact haccess

theorem rowStar_gives {root : Expr} {chain : List Link} (hroot : Operand root)
    (hchain : Clean chain) : Gives d (rowStar root chain) Operand := by
  unfold rowStar
  refine .step fun dot => .step fun star => .step fun level => .ite ?_ ?_
  · refine .step fun _ => .step fun _ => ?_
    split
    · exact .pure ⟨by simp, orFree_text⟩
    · exact .pure ⟨by simp, orFree_text⟩
    · exact .fail
  · exact .pure (accessed_operand hroot hchain)

end RowScope.Sql.Grammar
