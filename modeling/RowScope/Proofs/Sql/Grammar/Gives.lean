/-
What a grammar gives.

A grammar asks its level for what stands one level deeper, so a law about all that it
reads is proved for one level at a time: if the readers of the level are sound, then what
the grammar gives has the property (`Gives`).  The rules below take a grammar apart in
the order in which it was put together.  A step whose result is a text or a flag has
nothing to say about nodes and is passed over (`Gives.step`).

For an expression there is a second half to soundness, which is about the tokens that are
left: no operator follows that would have bound tighter (`Climbed`).
-/
import RowScope.Proofs.Sql.Graded
import RowScope.Sql.Grammar.Statement

namespace RowScope.Sql

/-- What an expression is that was read with a bound on how loose its operators may be. -/
structure Climbed (d : Dialect) (inColumn : Bool) (strength : Nat) (e : Expr)
    (rest : List Lexeme) : Prop where
  clean : Clean e
  /-- The operator that follows does not bind tighter than the bound. -/
  ended : Grammar.strengthOf d inColumn rest ≤ strength
  orFree : e.OrFree ∨ e.topOp? = some .or ∧ strength < d.strength .or

/-- A level of a dialect whose readers are sound. -/
structure Level.Sound (d : Dialect) (l : Level) : Prop where
  dialect : l.dialect = d
  statement : ∀ {tokens s rest}, l.statement tokens = .ok (s, rest) → Clean s
  query : ∀ {tokens q rest}, l.query tokens = .ok (q, rest) → Clean q
  expr : ∀ {inColumn strength tokens e rest}, l.expr inColumn strength tokens = .ok (e, rest) →
    Climbed d inColumn strength e rest

namespace Grammar

/-- Whatever a grammar reads on a sound level of a dialect has a property. -/
def Gives {α : Type} (d : Dialect) (g : Grammar α) (P : α → Prop) : Prop :=
  ∀ ⦃level tokens a rest⦄, level.Sound d → g level tokens = .ok (a, rest) → P a

variable {d : Dialect}

/-! ### Taking runs apart -/

section Runs

variable {α β : Type} {g : Grammar α} {level : Level} {tokens rest : List Lexeme} {a : α}

theorem bind_apply (g : Grammar α) (f : α → Grammar β) (level : Level) (tokens : List Lexeme) :
    (g >>= f) level tokens = g level tokens >>= fun p => f p.1 level p.2 := rfl

/-- A run of two steps is a run of the first one and then of the second. -/
theorem of_bind {f : α → Grammar β} {b : β} (h : (g >>= f) level tokens = .ok (b, rest)) :
    ∃ a mid, g level tokens = .ok (a, mid) ∧ f a level mid = .ok (b, rest) := by
  rw [bind_apply] at h
  cases hg : g level tokens with
  | error cause =>
    rw [hg] at h
    cases h
  | ok p =>
    rw [hg] at h
    exact ⟨p.1, p.2, rfl, h⟩

end Runs

/-! ### Rules -/

namespace Gives

variable {α β : Type} {g : Grammar α} {P Q : α → Prop} {R : β → Prop}

protected theorem pure {a : α} (h : P a) : Gives d (pure a) P := by
  intro level tokens b rest _ hrun
  cases hrun
  exact h

protected theorem fail : Gives d (fail : Grammar α) P := by
  intro level tokens b rest _ hrun
  cases hrun

protected theorem bind {f : α → Grammar β} (hg : Gives d g Q) (hf : ∀ a, Q a → Gives d (f a) R) :
    Gives d (g >>= f) R := by
  intro level tokens b rest hlevel hrun
  obtain ⟨a, mid, ha, hb⟩ := of_bind hrun
  exact hf a (hg hlevel ha) hlevel hb

/-- A step of which nothing has to be known. -/
theorem step {f : α → Grammar β} (hf : ∀ a, Gives d (f a) R) : Gives d (g >>= f) R := by
  intro level tokens b rest hlevel hrun
  obtain ⟨a, mid, -, hb⟩ := of_bind hrun
  exact hf a hlevel hb

/-- A condition that was required holds behind it. -/
protected theorem require {condition : Bool} {f : Unit → Grammar β}
    (hf : condition = true → Gives d (f ()) R) : Gives d (require condition >>= f) R := by
  intro level tokens b rest hlevel hrun
  cases condition with
  | false => cases hrun
  | true => exact hf rfl hlevel hrun

protected theorem map {f : α → β} (hg : Gives d g Q) (hf : ∀ a, Q a → R (f a)) :
    Gives d (f <$> g) R := by
  intro level tokens b rest hlevel hrun
  rw [← bind_pure_comp] at hrun
  obtain ⟨a, mid, ha, hb⟩ := of_bind hrun
  cases hb
  exact hf a (hg hlevel ha)

protected theorem ite {c : Prop} {_ : Decidable c} {h : Grammar α} (hg : Gives d g P)
    (hh : Gives d h P) : Gives d (if c then g else h) P := by
  split
  · exact hg
  · exact hh

protected theorem inColumn {flag : Bool} (hg : Gives d g P) :
    Gives d (Grammar.inColumn flag g) P := by
  intro level tokens a rest hlevel hrun
  refine hg ?_ hrun
  exact ⟨hlevel.dialect, hlevel.statement, hlevel.query, hlevel.expr⟩

protected theorem attempt (hg : Gives d g P) : Gives d (attempt g) fun o => ∀ a ∈ o, P a := by
  intro level tokens o rest hlevel hrun a ha
  unfold Grammar.attempt at hrun
  split at hrun
  · rename_i b mid hb
    cases hrun
    cases ha
    exact hg hlevel hb
  · cases hrun
    cases ha
  · cases hrun

protected theorem orElse {h : Grammar α} (hg : Gives d g P) (hh : Gives d h P) :
    Gives d (orElse g h) P := by
  refine hg.attempt.bind fun o ho => ?_
  cases o with
  | none => exact hh
  | some a => exact .pure (ho a rfl)

protected theorem some (hg : Gives d g P) :
    Gives d (g >>= fun a => pure (some a)) fun o => ∀ a ∈ o, P a :=
  hg.bind fun a ha => .pure (by simp [ha])

protected theorem parens (hg : Gives d g P) : Gives d (parens g) P :=
  .step fun _ => hg.bind fun _ ha => .step fun _ => .pure ha

end Gives

/-! ### Repetition -/

section Repetition

variable {α : Type} [HasNodes α] {item : Grammar α} {step : Grammar (Option α)}

theorem manyUpTo_gives (h : Gives d step Clean) (n : Nat) : Gives d (manyUpTo step n) Clean := by
  induction n with
  | zero => exact .pure clean_nil
  | succ n ih =>
    refine h.bind fun o ho => ?_
    cases o with
    | none => exact .pure clean_nil
    | some a => exact ih.bind fun as has => .pure (clean_cons.mpr ⟨ho, has⟩)

theorem many_gives (h : Gives d step Clean) : Gives d (many step) Clean :=
  .step fun _ => manyUpTo_gives h _

theorem listUntil_gives {ends : Option Token → Bool} (h : Gives d item Clean) :
    Gives d (listUntil ends item) Clean := by
  refine h.bind fun first hfirst => ?_
  refine (many_gives (.step fun comma => ?_)).bind fun rest hrest =>
    .pure (clean_cons.mpr ⟨hfirst, hrest⟩)
  split
  · refine .step fun next => .ite (.pure clean_none) (h.bind fun a ha => .pure ha)
  · exact .pure clean_none

theorem list_gives (h : Gives d item Clean) : Gives d (list item) Clean := listUntil_gives h

theorem listBefore_gives {close : String} (h : Gives d item Clean) :
    Gives d (listBefore close item) Clean :=
  .step fun _ => .ite (.pure clean_nil) (list_gives h)

end Repetition

/-! ### One level deeper -/

/-- An expression that may stand on either side of an operator. -/
def Operand (e : Expr) : Prop := Clean e ∧ e.OrFree

/-- Operands with whatever texts between them are an operand. -/
theorem Operand.phrase {left : Expr} {rest : Phrase} (hleft : Operand left) (hrest : Clean rest)
    (hfree : ∀ e, .expr e ∈ rest → e.OrFree) : Operand (.phrase (.expr left :: rest)) :=
  ⟨by simp [hleft.1, hrest], orFree_phrase hleft.2 (orFree_pieces hfree false 0)⟩

theorem statement_gives : Gives d statement Clean := by
  intro level tokens s rest hlevel hrun
  exact hlevel.statement hrun

theorem query_gives : Gives d query Clean := by
  intro level tokens q rest hlevel hrun
  exact hlevel.query hrun

theorem exprAbove_climbed {level : Level} (hlevel : level.Sound d) {strength : Nat}
    {tokens rest : List Lexeme} {e : Expr}
    (h : exprAbove strength level tokens = .ok (e, rest)) :
    Climbed d level.inColumn strength e rest :=
  hlevel.expr h

theorem exprAbove_gives {strength : Nat} : Gives d (exprAbove strength) Clean :=
  fun _ _ _ _ hlevel hrun => (exprAbove_climbed hlevel hrun).clean

theorem expr_gives : Gives d expr Clean := exprAbove_gives

/-- Any expression that is read is graded. -/
theorem expr_graded : Gives d expr fun e => Clean e ∧ e.Graded := by
  intro level tokens e rest hlevel hrun
  have h := exprAbove_climbed hlevel hrun
  exact ⟨h.clean, h.orFree.imp_right And.left⟩

theorem exprBehind_gives {key : String} : Gives d (exprBehind key) Clean :=
  .step fun _ => .ite (expr_gives.bind fun e he => .pure (by simp [he])) (.pure clean_nil)

end Grammar

end RowScope.Sql
