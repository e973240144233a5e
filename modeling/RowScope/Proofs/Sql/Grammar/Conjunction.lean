/-
Conditions with AND between them.

An operator is read as far as its strength allows, so behind a condition the reading goes on
from where the condition ends (`equation_settles`), and what stands behind AND is read as far
as the next AND.  The left operand is only carried along: when a text is read alone, climbing
from its first operand does at each AND what it does when conditions stand in front of it
(`climb_conjuncts`).  Both trees are AND over the same operands, nested in another way.

Three things keep the two from being the same.  What is behind AND is one level further down.
A keyword such as ANY is a name at the front of an expression and none behind an operator.
And OR would take the conditions away from the operand it stands behind.
-/
import RowScope.Proofs.Sql.Grammar.Equation
import RowScope.Proofs.Sql.Grammar.Statement
import RowScope.Proofs.Sql.Token.Cuts

namespace RowScope.Sql

namespace Grammar

/-! ### Climbing -/

section Climbing

variable {level : Level} {strength : Nat} {left e : Expr} {tokens rest : List Lexeme}

theorem climb_zero (h : climb strength 0 left level tokens = .ok (e, rest)) :
    strengthOf level.dialect level.inColumn tokens ≤ strength := by
  rw [climb, bind_of_ok (nextStrength_apply level tokens)] at h
  by_contra hended
  rw [decide_eq_false hended] at h
  cases h

/-- An operator that binds tighter is read, and the climbing goes on. -/
theorem climb_next {n : Nat} (h : strength < strengthOf level.dialect level.inColumn tokens) :
    climb strength (n + 1) left level tokens
      = (infixed left (strengthOf level.dialect level.inColumn tokens) >>= climb strength n) level
        tokens := by
  rw [climb, bind_of_ok (nextStrength_apply level tokens), if_neg (Nat.not_le_of_lt h)]

/-- The loose operators stand behind the tight ones. -/
theorem climb_split {high n : Nat} (hhigh : strength ≤ high)
    (h : climb strength n left level tokens = .ok (e, rest)) :
    ∃ mid behind m, m ≤ n ∧ climb high n left level tokens = .ok (mid, behind) ∧
      strengthOf level.dialect level.inColumn behind ≤ high ∧
      climb strength m mid level behind = .ok (e, rest) := by
  induction n generalizing left tokens with
  | zero =>
    have hended := Nat.le_trans (climb_zero h) hhigh
    exact ⟨left, tokens, 0, Nat.le_refl 0, climb_ended hended 0 left, hended, h⟩
  | succ n ih =>
    by_cases hended : strengthOf level.dialect level.inColumn tokens ≤ high
    · exact ⟨left, tokens, n + 1, Nat.le_refl _, climb_ended hended _ left, hended, h⟩
    · have hnext := Nat.lt_of_not_le hended
      rw [climb_next (Nat.lt_of_le_of_lt hhigh hnext)] at h
      obtain ⟨e', mid, hinfixed, h⟩ := of_bind h
      obtain ⟨mid', behind, m, hm, hclimb, hbehind, hlow⟩ := ih h
      refine ⟨mid', behind, m, Nat.le_succ_of_le hm, ?_, hbehind, hlow⟩
      rw [climb_next hnext, bind_of_ok hinfixed]
      exact hclimb

/-- Behind AND stands an operand of its strength, and the two are joined. -/
theorem infixed_and (h : quantified tokens = false) (text : String) (spaced : Bool) :
    infixed left strength level (⟨.word text none "AND", spaced⟩ :: tokens)
      = (exprAbove strength >>= fun right => pure (.binary left .and right) : Grammar Expr) level
        tokens := by
  have hrun : infixed left strength level (⟨.word text none "AND", spaced⟩ :: tokens)
      = rightSide left .and false strength level tokens := rfl
  rw [hrun, rightSide_unquantified h]

/-- Only a comparison may have a set of operands to its right. -/
theorem unquantified_of_infixed {d : Dialect} (hlevel : level.Sound d) {text : String}
    {spaced : Bool} (h : infixed left strength level (⟨.word text none "AND", spaced⟩ :: tokens)
      = .ok (e, rest)) : quantified tokens = false := by
  have hrun : rightSide left .and false strength level tokens = .ok (e, rest) := h
  obtain ⟨quantifier, mid, hquantifier, hrun⟩ := of_bind hrun
  cases quantifier with
  | none => exact (oneOf_none_iff.mp hquantifier).1
  | some quantifier =>
    exfalso
    refine (?_ : Gives d _ fun _ => False) hlevel hrun
    refine .step fun _ => .step fun second => .step fun _ => .ite ?_ ?_
    · exact .step fun right => .require fun h => Bool.noConfusion h
    · exact .step fun _ => .step fun right => .step fun _ => .require fun h => Bool.noConfusion h

/-- The operators of the default dialect that are no tighter than AND. -/
theorem bindingOf_loose {inColumn : Bool}
    (hpos : 0 < strengthOf .postgres inColumn tokens)
    (hle : strengthOf .postgres inColumn tokens ≤ 20) :
    bindingOf .postgres inColumn tokens = some .and ∧ strengthOf .postgres inColumn tokens = 20 ∨
      bindingOf .postgres inColumn tokens = some .or ∧
        strengthOf .postgres inColumn tokens = 10 := by
  unfold strengthOf at *
  cases hb : bindingOf .postgres inColumn tokens with
  | none =>
    rw [hb] at hpos
    cases hpos
  | some b =>
    rw [hb] at hle
    cases b <;> first | exact .inl ⟨rfl, rfl⟩ | exact .inr ⟨rfl, rfl⟩ | exact absurd hle (by decide)

/-- Behind an OR that no tighter operator follows, the whole is an OR. -/
theorem climb_or {n : Nat} (hlevel : level.Sound .postgres) (hleft : left.topOp? = some .or)
    (hnext : strengthOf .postgres level.inColumn tokens ≤ 10)
    (h : climb 0 n left level tokens = .ok (e, rest)) : e.topOp? = some .or := by
  induction n generalizing left tokens with
  | zero =>
    rw [climb_ended (climb_zero h)] at h
    cases h
    exact hleft
  | succ n ih =>
    by_cases hended : strengthOf level.dialect level.inColumn tokens ≤ 0
    · rw [climb_ended hended] at h
      cases h
      exact hleft
    rw [climb_next (Nat.lt_of_not_le hended)] at h
    rw [hlevel.dialect] at hended h
    obtain ⟨e', mid, hinfixed, h⟩ := of_bind h
    obtain ⟨-, hand⟩ | ⟨hor, hstrength⟩ := bindingOf_loose (Nat.lt_of_not_le hended)
      (Nat.le_trans hnext (by decide))
    · omega
    · rw [hstrength] at hinfixed
      obtain ⟨right, rfl, hright⟩ := infixed_or hlevel hor hinfixed
      exact ih rfl hright.ended h

/--
Climbing from another left operand keeps step: what AND joins to the one it joins to the
other, as long as no OR is met.
-/
theorem climb_conjuncts {n m : Nat} (hlevel : level.Sound .postgres) (hnm : n ≤ m)
    (hnext : strengthOf .postgres level.inColumn tokens ≤ 20)
    (h : climb 0 n left level tokens = .ok (e, rest)) (he : ¬e.Loose) {front : List Expr}
    {left' : Expr} (hleft : left'.conjuncts = front ++ left.conjuncts) :
    ∃ e', climb 0 m left' level tokens = .ok (e', rest) ∧
      e'.conjuncts = front ++ e.conjuncts := by
  induction n generalizing m left left' tokens with
  | zero =>
    have hended := climb_zero h
    rw [climb_ended hended] at h
    cases h
    exact ⟨left', climb_ended hended m left', hleft⟩
  | succ n ih =>
    by_cases hended : strengthOf level.dialect level.inColumn tokens ≤ 0
    · rw [climb_ended hended] at h
      cases h
      exact ⟨left', climb_ended hended m left', hleft⟩
    obtain ⟨m, rfl⟩ : ∃ k, m = k + 1 := ⟨m - 1, by omega⟩
    rw [climb_next (Nat.lt_of_not_le hended)] at h ⊢
    rw [hlevel.dialect] at hended h ⊢
    obtain ⟨e₁, mid, hinfixed, h⟩ := of_bind h
    obtain ⟨hand, hstrength⟩ | ⟨hor, hstrength⟩ :=
      bindingOf_loose (Nat.lt_of_not_le hended) hnext
    · rw [hstrength] at hinfixed ⊢
      obtain ⟨text, spaced, behind, rfl⟩ := token_of_and hand
      have hquantified := unquantified_of_infixed hlevel hinfixed
      rw [infixed_and hquantified] at hinfixed
      obtain ⟨right, mid', hright, heq⟩ := of_bind hinfixed
      cases heq
      have hconjuncts : (Expr.binary left' .and right).conjuncts
          = front ++ (Expr.binary left .and right).conjuncts := by
        rw [conjuncts_and, conjuncts_and, hleft, List.append_assoc]
      rw [bind_apply, infixed_and hquantified, bind_of_ok hright]
      exact ih (Nat.le_of_succ_le_succ hnm) (exprAbove_climbed hlevel hright).ended h hconjuncts
    · -- an OR would be on top of what was read
      rw [hstrength] at hinfixed
      obtain ⟨right, rfl, hright⟩ := infixed_or hlevel hor hinfixed
      exact absurd (.inl (climb_or hlevel rfl hright.ended h)) he

end Climbing

/-! ### Conditions joined by AND -/

/-- The tokens of conditions with AND between them. -/
def joined (conditions : List (List Lexeme)) (last : List Lexeme) : List Lexeme :=
  conditions.foldr (fun ts rest => ts ++ Token.andLexeme :: rest) last

theorem joined_cons (ts : List Lexeme) (conditions : List (List Lexeme)) (last : List Lexeme) :
    joined (ts :: conditions) last = ts ++ Token.andLexeme :: joined conditions last := rfl

/-- An equation that is read alone is read with what follows it as well. -/
theorem expression_equation {ts : List Lexeme} {e : Expr} {k : Nat} (h : Equation ts)
    (hrun : exprAbove 0 (Level.ofDepth .postgres (k + 1)) ts = .ok (e, [])) :
    e.conjuncts = [e] ∧ ∀ strength < 50, ∀ rest, Ends rest →
      expression strength (Level.ofDepth .postgres k) (ts ++ rest)
        = climb strength (ts ++ rest).length e (Level.ofDepth .postgres k) rest := by
  obtain ⟨r, htop, hr⟩ := equation_settles h k
  have halone := hr 0 (by decide) [] .done
  rw [List.append_nil, ← exprAbove_ofDepth, hrun] at halone
  cases r with
  | error cause => cases halone
  | ok e' =>
    have hended : climb 0 ts.length e' (Level.ofDepth .postgres k) [] = .ok (e', []) :=
      climb_ended (Nat.zero_le _) _ e'
    obtain rfl : e = e' := by
      cases halone.trans hended
      rfl
    refine ⟨conjuncts_of_topOp? ?_, hr⟩
    rw [htop e rfl]
    decide

/-- As an operand of AND an equation ends in front of the next AND. -/
theorem exprAbove_equation {n : Nat} {ts : List Lexeme} {e : Expr} (h : Equation ts)
    (hrun : exprAbove 0 (Level.ofDepth .postgres n) ts = .ok (e, [])) :
    e.conjuncts = [e] ∧ ∀ rest, exprAbove 20 (Level.ofDepth .postgres n)
      (ts ++ Token.andLexeme :: rest) = .ok (e, Token.andLexeme :: rest) := by
  cases n with
  | zero => cases hrun
  | succ k =>
    obtain ⟨hconjuncts, hexpression⟩ := expression_equation h hrun
    refine ⟨hconjuncts, fun rest => ?_⟩
    have hends : Ends (Token.andLexeme :: rest) := .and
    rw [exprAbove_ofDepth, hexpression 20 (by decide) _ hends]
    refine climb_ended ?_ _ e
    rw [dialect_ofDepth]
    exact strengthOf_ends hends

theorem Equation.quantified_append {ts : List Lexeme} (h : Equation ts) (rest : List Lexeme) :
    quantified (ts ++ rest) = quantified ts := by
  cases h
  rfl

/-- AND and an operand behind a left operand. -/
theorem climb_and {level : Level} (hlevel : level.dialect = .postgres) {m : Nat} {left : Expr}
    {tokens : List Lexeme} (h : quantified tokens = false) :
    climb 0 (m + 1) left level (Token.andLexeme :: tokens)
      = (exprAbove 20 >>= fun right => climb 0 m (.binary left .and right)) level tokens := by
  have hstrength : strengthOf level.dialect level.inColumn (Token.andLexeme :: tokens) = 20 := by
    rw [hlevel]
    rfl
  rw [climb_next (by rw [hstrength]; decide), hstrength, bind_apply, Token.andLexeme, infixed_and h,
    ← bind_apply]
  simp only [bind_assoc, pure_bind]

section Joined

variable {n : Nat} {last : List Lexeme} {w : Expr}
variable (hlast : exprAbove 0 (Level.ofDepth .postgres (n + 1)) last = .ok (w, []))
variable (hdeeper : exprAbove 20 (Level.ofDepth .postgres n) last
  = exprAbove 20 (Level.ofDepth .postgres (n + 1)) last)
variable (hplain : quantified last = false) (hw : ¬w.Loose)
include hlast hdeeper hplain hw

/-- What stands behind the last AND is read as it is alone. -/
theorem climb_last {m : Nat} (hm : last.length < m) (left : Expr) :
    ∃ e, climb 0 (m + 1) left (Level.ofDepth .postgres n) (Token.andLexeme :: last) = .ok (e, []) ∧
      e.conjuncts = left.conjuncts ++ w.conjuncts := by
  have hlevel := dialect_ofDepth .postgres n
  have hsound := Level.sound_ofDepth .postgres n
  rw [exprAbove_ofDepth, expression_eq] at hlast
  obtain ⟨root, mid, hroot, hclimb⟩ := of_bind hlast
  obtain ⟨first, behind, k, hk, hfirst, hbehind, hrest⟩ := climb_split (Nat.zero_le 20) hclimb
  have hright : exprAbove 20 (Level.ofDepth .postgres n) last = .ok (first, behind) := by
    rw [hdeeper, exprAbove_ofDepth, expression_eq, bind_of_ok hroot]
    exact hfirst
  rw [climb_and hlevel hplain, bind_of_ok hright]
  rw [hlevel] at hbehind
  exact climb_conjuncts hsound (by omega) hbehind hrest hw (conjuncts_and left first)

/-- Conditions behind AND are read as its operands, and what stands behind them goes on. -/
theorem climb_joined {conditions : List (List Lexeme)} {es : List Expr}
    (h : List.Forall₂ (fun ts e => Equation ts ∧ quantified ts = false ∧
      exprAbove 0 (Level.ofDepth .postgres n) ts = .ok (e, [])) conditions es)
    {m : Nat} (hm : (joined conditions last).length < m) (left : Expr) :
    ∃ e, climb 0 (m + 1) left (Level.ofDepth .postgres n)
        (Token.andLexeme :: joined conditions last) = .ok (e, []) ∧
      e.conjuncts = left.conjuncts ++ es ++ w.conjuncts := by
  induction h generalizing m left with
  | nil =>
    rw [List.append_nil]
    exact climb_last hlast hdeeper hplain hw hm left
  | @cons ts e conditions es hfirst _ ih =>
    obtain ⟨hequation, hts, hrun⟩ := hfirst
    obtain ⟨hconjuncts, hright⟩ := exprAbove_equation hequation hrun
    have hahead : quantified (ts ++ Token.andLexeme :: joined conditions last) = false := by
      rw [hequation.quantified_append, hts]
    have hshorter : (joined conditions last).length + 1
        ≤ (joined (ts :: conditions) last).length := by
      rw [joined_cons, List.length_append, List.length_cons]
      exact Nat.le_add_left _ _
    obtain ⟨m, rfl⟩ : ∃ j, m = j + 1 := ⟨m - 1, by omega⟩
    obtain ⟨f, hf, hjoined⟩ := ih (m := m) (by omega) (.binary left .and e)
    refine ⟨f, ?_, ?_⟩
    · rw [joined_cons, climb_and (dialect_ofDepth _ n) hahead, bind_of_ok (hright _)]
      exact hf
    · rw [hjoined, conjuncts_and, hconjuncts, List.append_assoc left.conjuncts]
      rfl

/--
Conditions that are read alone are read as the operands of AND when they are joined by it,
ahead of the operands of what stands behind the last AND.
-/
theorem expr_joined {ts : List Lexeme} {e : Expr} (hequation : Equation ts)
    (hfirst : exprAbove 0 (Level.ofDepth .postgres (n + 1)) ts = .ok (e, []))
    {conditions : List (List Lexeme)} {es : List Expr}
    (h : List.Forall₂ (fun ts e => Equation ts ∧ quantified ts = false ∧
      exprAbove 0 (Level.ofDepth .postgres n) ts = .ok (e, [])) conditions es) :
    ∃ f, exprAbove 0 (Level.ofDepth .postgres (n + 1)) (joined (ts :: conditions) last)
        = .ok (f, []) ∧ f.conjuncts = e :: es ++ w.conjuncts := by
  obtain ⟨hconjuncts, hexpression⟩ := expression_equation hequation hfirst
  have hlength : 1 ≤ ts.length := by
    cases hequation
    simp
  have hm : (joined conditions last).length
      < (ts ++ Token.andLexeme :: joined conditions last).length - 1 := by
    simp only [List.length_append, List.length_cons]
    omega
  obtain ⟨f, hf, hjoined⟩ := climb_joined hlast hdeeper hplain hw h hm e
  refine ⟨f, ?_, ?_⟩
  · rw [exprAbove_ofDepth, joined_cons]
    refine (hexpression 0 (by decide) _ .and).trans ?_
    rwa [Nat.sub_add_cancel (by omega)] at hf
  · rw [hjoined, hconjuncts]
    rfl

end Joined

end Grammar

end RowScope.Sql
