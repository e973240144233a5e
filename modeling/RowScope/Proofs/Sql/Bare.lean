/-
The operators of an expression that stand outside of parentheses.

`Expr.bare` lists the binary operators that are met when an expression is read in the
order in which it is printed and nothing that is enclosed is entered: no parentheses, no
query, no arguments of a call, no CASE.  Operators that are not binary are passed through
like the others: prefixes, tests such as `BETWEEN`, and casts.  What such an operator
encloses itself, as the list of `IN`, is told by the parentheses in its own text.

A few operators take any expression to their right, where all others take an operand
that binds tighter than they do.  Each operator is listed with the note whether it stands
behind one of those, since that is the one place where parentheses may be missing.

A revision changes what is inside of queries, and those are not entered; so it keeps the
list (`Expr.bare_revise`).
-/
import Mathlib.Tactic.Common
import RowScope.Proofs.Sql.Revision

namespace RowScope.Sql

/-- The operator of an expression, if a binary one joins its parts. -/
def Expr.topOp? : Expr → Option BinaryOp
  | .binary _ op _ => some op
  | _ => none

/-- An expression whose own operator is OR or XOR. -/
def Expr.Loose (e : Expr) : Prop := e.topOp? = some .or ∨ e.topOp? = some .xor

instance : DecidablePred Expr.Loose := fun e =>
  inferInstanceAs (Decidable (e.topOp? = some .or ∨ e.topOp? = some .xor))

/-- The operands that AND joins on the top of an expression, in order. -/
def Expr.conjuncts : Expr → List Expr
  | .binary left .and right => left.conjuncts ++ right.conjuncts
  | e => [e]
termination_by structural e => e

theorem conjuncts_and (left right : Expr) :
    (Expr.binary left .and right).conjuncts = left.conjuncts ++ right.conjuncts := by
  rw [Expr.conjuncts]

theorem conjuncts_of_topOp? {e : Expr} (h : e.topOp? ≠ some .and) : e.conjuncts = [e] := by
  unfold Expr.conjuncts
  split
  · exact absurd rfl h
  · rfl

/-- Whether any expression may stand to the right of an operator. -/
def BinaryOp.isOpen : BinaryOp → Bool
  | .other key => key == "DIV" || key == "MATCH" || key == "REGEXP"
  | _ => false

/-- A binary operator outside of parentheses. -/
structure Bare where
  op : BinaryOp
  /-- It stands to the right of an operator that takes any expression there. -/
  behind : Bool
deriving DecidableEq, Repr

/-- How many parentheses are open behind a text. -/
def depthBehind (depth : Nat) (text : String) : Nat :=
  text.toList.foldl (fun n c => if c = '(' then n + 1 else if c = ')' then n - 1 else n) depth

namespace Piece

/-- How many parentheses are open behind a piece. -/
def depthBehind (depth : Nat) : Piece → Nat
  | .text s => Sql.depthBehind depth s
  | _ => depth

/-- Whether any expression may stand behind a piece. -/
def isOpen : Piece → Bool
  | .text s => s == "DISTINCT FROM "
  | _ => false

/-- Whether a phrase is an operator behind an operand of its own. -/
def followsOperand : List Piece → Bool
  | .expr _ :: _ => true
  | _ => false

end Piece

mutual

/-- The binary operators of an expression that stand outside of parentheses. -/
def Expr.bare (behind : Bool) : Expr → List Bare
  | .binary left op right => left.bare behind ++ ⟨op, behind⟩ :: right.bare (behind || op.isOpen)
  | .unary _ e => e.bare behind
  | .access root _ => root.bare behind
  | .phrase pieces => if Piece.followsOperand pieces then bareOfPieces behind 0 pieces else []
  | .ident _ => []
  | .path _ => []
  | .value _ => []
  | .nested _ => []
  | .subquery _ => []
  | .call .. => []
  | .trim .. => []
termination_by structural e => e

/-- The bare operators of a piece. -/
def Piece.bare (behind : Bool) : Piece → List Bare
  | .text _ => []
  | .expr e => e.bare behind
  | .query _ => []
  | .statement _ => []
  | .relation _ => []
  | .crossed .. => []
termination_by structural p => p

/-- The bare operators of a phrase, with the number of parentheses open ahead of it. -/
def bareOfPieces (behind : Bool) (depth : Nat) : List Piece → List Bare
  | [] => []
  | p :: rest =>
    (if depth = 0 then p.bare behind else [])
      ++ bareOfPieces (behind || p.isOpen) (p.depthBehind depth) rest
termination_by structural ps => ps

end

/-! ### Revisions -/

@[simp] theorem topOp?_revise (w : Revision) (e : Expr) :
    (e.revise w).topOp? = e.topOp? := by
  cases e <;> simp only [Expr.revise, Expr.topOp?]

@[simp] theorem loose_revise (w : Revision) (e : Expr) : (e.revise w).Loose ↔ e.Loose := by
  unfold Expr.Loose
  rw [topOp?_revise]

/-- Revising an expression revises each operand of AND. -/
theorem conjuncts_revise (w : Revision) (e : Expr) :
    (e.revise w).conjuncts = e.conjuncts.map (Expr.revise w) := by
  fun_induction Expr.conjuncts e with
  | case1 left right ihl ihr =>
    rw [Expr.revise, conjuncts_and, ihl, ihr, List.map_append]
  | case2 e hand =>
    rw [List.map_singleton, conjuncts_of_topOp?]
    rw [topOp?_revise]
    rintro htop
    cases e with
    | binary left op right =>
      cases htop
      exact hand left right rfl
    | _ => cases htop

theorem depthBehind_revise (w : Revision) (depth : Nat) (p : Piece) :
    (p.revise w).depthBehind depth = p.depthBehind depth := by
  cases p <;> simp only [Piece.revise, Piece.depthBehind]

theorem isOpen_revise (w : Revision) (p : Piece) : (p.revise w).isOpen = p.isOpen := by
  cases p <;> simp only [Piece.revise, Piece.isOpen]

theorem followsOperand_revise (w : Revision) (ps : List Piece) :
    Piece.followsOperand (revisePieces w ps) = Piece.followsOperand ps := by
  cases ps with
  | nil => simp only [revisePieces]
  | cons p rest => cases p <;> simp only [revisePieces, Piece.revise, Piece.followsOperand]

section Revise

variable (w : Revision)

mutual

/-- A revision keeps the operators that stand outside of parentheses. -/
theorem Expr.bare_revise (behind : Bool) : ∀ e : Expr, (e.revise w).bare behind = e.bare behind
  | .binary left op right => by
    simp only [Expr.revise, Expr.bare, left.bare_revise, right.bare_revise]
  | .unary _ e => by simp only [Expr.revise, Expr.bare, e.bare_revise]
  | .access root _ => by simp only [Expr.revise, Expr.bare, root.bare_revise]
  | .phrase pieces => by
    simp only [Expr.revise, Expr.bare, followsOperand_revise, pieces_bare_revise]
  | .ident _ => by simp only [Expr.revise]
  | .path _ => by simp only [Expr.revise]
  | .value _ => by simp only [Expr.revise]
  | .nested _ => by simp only [Expr.revise, Expr.bare]
  | .subquery _ => by simp only [Expr.revise, Expr.bare]
  | .call .. => by simp only [Expr.revise, Expr.bare]
  | .trim .. => by simp only [Expr.revise, Expr.bare]
termination_by structural e => e

theorem Piece.bare_revise (behind : Bool) :
    ∀ p : Piece, (p.revise w).bare behind = p.bare behind
  | .text _ => by simp only [Piece.revise]
  | .expr e => by simp only [Piece.revise, Piece.bare, e.bare_revise]
  | .query _ => by simp only [Piece.revise, Piece.bare]
  | .statement _ => by simp only [Piece.revise, Piece.bare]
  | .relation _ => by simp only [Piece.revise, Piece.bare]
  | .crossed .. => by simp only [Piece.revise, Piece.bare]
termination_by structural p => p

theorem pieces_bare_revise (behind : Bool) (depth : Nat) :
    ∀ ps : List Piece, bareOfPieces behind depth (revisePieces w ps) = bareOfPieces behind depth ps
  | [] => by simp only [revisePieces]
  | p :: rest => by
    simp only [revisePieces, bareOfPieces, p.bare_revise, depthBehind_revise, isOpen_revise,
      pieces_bare_revise]
termination_by structural ps => ps

end

end Revise

/-! ### Behind an open operator -/

mutual

/-- Behind an open operator every operator is listed as such. -/
theorem Expr.behind_of_mem_bare {b : Bare} :
    ∀ e : Expr, b ∈ e.bare true → b.behind = true
  | .binary left op right, h => by
    simp only [Expr.bare, List.mem_append, List.mem_cons] at h
    rcases h with h | rfl | h
    · exact left.behind_of_mem_bare h
    · rfl
    · exact right.behind_of_mem_bare h
  | .unary _ e, h => by
    simp only [Expr.bare] at h
    exact e.behind_of_mem_bare h
  | .access root _, h => by
    simp only [Expr.bare] at h
    exact root.behind_of_mem_bare h
  | .phrase pieces, h => by
    simp only [Expr.bare] at h
    split at h
    · exact pieces_behind_of_mem_bare 0 pieces h
    · exact absurd h List.not_mem_nil
  | .ident _, h => by simp [Expr.bare] at h
  | .path _, h => by simp [Expr.bare] at h
  | .value _, h => by simp [Expr.bare] at h
  | .nested _, h => by simp [Expr.bare] at h
  | .subquery _, h => by simp [Expr.bare] at h
  | .call .., h => by simp [Expr.bare] at h
  | .trim .., h => by simp [Expr.bare] at h
termination_by structural e => e

theorem Piece.behind_of_mem_bare {b : Bare} :
    ∀ p : Piece, b ∈ p.bare true → b.behind = true
  | .text _, h => by simp [Piece.bare] at h
  | .expr e, h => by
    simp only [Piece.bare] at h
    exact e.behind_of_mem_bare h
  | .query _, h => by simp [Piece.bare] at h
  | .statement _, h => by simp [Piece.bare] at h
  | .relation _, h => by simp [Piece.bare] at h
  | .crossed .., h => by simp [Piece.bare] at h
termination_by structural p => p

theorem pieces_behind_of_mem_bare {b : Bare} (depth : Nat) :
    ∀ ps : List Piece, b ∈ bareOfPieces true depth ps → b.behind = true
  | [], h => by simp [bareOfPieces] at h
  | p :: rest, h => by
    simp only [bareOfPieces, Bool.true_or, List.mem_append] at h
    rcases h with h | h
    · split at h
      · exact p.behind_of_mem_bare h
      · exact absurd h List.not_mem_nil
    · exact pieces_behind_of_mem_bare (p.depthBehind depth) rest h
termination_by structural ps => ps

end

end RowScope.Sql
