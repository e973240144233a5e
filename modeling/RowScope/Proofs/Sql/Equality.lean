/-
Trees are compared part by part, and the comparison decides their equality.
-/
import Mathlib.Tactic.Common
import RowScope.Sql.Tree.Equality

namespace RowScope.Sql

mutual

theorem Expr.same_iff (a b : Expr) : a.same b = true ↔ a = b := by
  cases a with
  | nested e => cases b <;> simp [Expr.same, e.same_iff]
  | subquery q => cases b <;> simp [Expr.same, q.same_iff]
  | unary _ e => cases b <;> simp [Expr.same, e.same_iff]
  | binary left _ right => cases b <;> simp [Expr.same, left.same_iff, right.same_iff, and_assoc]
  | call _ arguments withinGroup filter window =>
    cases b <;> simp [Expr.same, samePieces_iff arguments, samePieces_iff withinGroup,
      samePieces_iff filter, samePieces_iff window, and_assoc]
  | access root chain => cases b <;> simp [Expr.same, root.same_iff, samePieces_iff chain]
  | trim _ what e => cases b <;> simp [Expr.same, what.same_iff, e.same_iff, and_assoc]
  | phrase pieces => cases b <;> simp [Expr.same, samePieces_iff pieces]
  | _ => cases b <;> simp [Expr.same]
termination_by structural a

theorem Piece.same_iff (a b : Piece) : a.same b = true ↔ a = b := by
  cases a with
  | text => cases b <;> simp [Piece.same]
  | expr e => cases b <;> simp [Piece.same, e.same_iff]
  | query q => cases b <;> simp [Piece.same, q.same_iff]
  | statement s => cases b <;> simp [Piece.same, s.same_iff]
  | relation r => cases b <;> simp [Piece.same, r.same_iff]
  | crossed front back =>
    cases b <;> simp [Piece.same, samePieces_iff front, samePieces_iff back]
termination_by structural a

theorem samePieces_iff (a b : List Piece) : samePieces a b = true ↔ a = b := by
  cases a with
  | nil => cases b <;> simp [samePieces]
  | cons p ps => cases b <;> simp [samePieces, p.same_iff, samePieces_iff ps]
termination_by structural a

theorem sameItems_iff (a b : List (List Piece)) : sameItems a b = true ↔ a = b := by
  cases a with
  | nil => cases b <;> simp [sameItems]
  | cons item items => cases b <;> simp [sameItems, samePieces_iff item, sameItems_iff items]
termination_by structural a

theorem Query.same_iff (a b : Query) : a.same b = true ↔ a = b := by
  obtain ⟨preamble, body, tail⟩ := a
  cases b
  simp [Query.same, samePieces_iff preamble, body.same_iff, samePieces_iff tail, and_assoc]
termination_by structural a

theorem Body.same_iff (a b : Body) : a.same b = true ↔ a = b := by
  cases a with
  | select s => cases b <;> simp [Body.same, s.same_iff]
  | setOperation _ left right =>
    cases b <;> simp [Body.same, left.same_iff, right.same_iff, and_assoc]
  | query q => cases b <;> simp [Body.same, q.same_iff]
  | values rows => cases b <;> simp [Body.same, samePieces_iff rows]
  | statement s => cases b <;> simp [Body.same, s.same_iff]
  | table => cases b <;> simp [Body.same]
termination_by structural a

theorem Select.same_iff (a b : Select) : a.same b = true ↔ a = b := by
  obtain ⟨flavor, quantifier, projection, into, sources, prefilter, filter, tail⟩ := a
  cases b
  simp [Select.same, samePieces_iff quantifier, sameItems_iff projection, sameSources_iff sources,
    samePieces_iff prefilter, sameFilters_iff filter, samePieces_iff tail, and_assoc]
termination_by structural a

theorem sameFilters_iff (a b : Option Expr) : sameFilters a b = true ↔ a = b := by
  cases a with
  | none => cases b <;> simp [sameFilters]
  | some e => cases b <;> simp [sameFilters, e.same_iff]
termination_by structural a

theorem Source.same_iff (a b : Source) : a.same b = true ↔ a = b := by
  obtain ⟨relation, joins⟩ := a
  cases b
  simp [Source.same, relation.same_iff, samePieces_iff joins]
termination_by structural a

theorem sameSources_iff (a b : List Source) : sameSources a b = true ↔ a = b := by
  cases a with
  | nil => cases b <;> simp [sameSources]
  | cons s ss => cases b <;> simp [sameSources, s.same_iff, sameSources_iff ss]
termination_by structural a

theorem Relation.same_iff (a b : Relation) : a.same b = true ↔ a = b := by
  cases a with
  | table _ arguments suffix _ hints =>
    cases b <;> simp [Relation.same, samePieces_iff arguments, samePieces_iff suffix,
      samePieces_iff hints, and_assoc]
  | derived _ q _ => cases b <;> simp [Relation.same, q.same_iff, and_assoc]
  | rows call _ => cases b <;> simp [Relation.same, samePieces_iff call]
  | joined s _ => cases b <;> simp [Relation.same, s.same_iff]
termination_by structural a

theorem Insert.same_iff (a b : Insert) : a.same b = true ↔ a = b := by
  obtain ⟨verb, target, aliased, columns, source, stead, partitions, conflict, returning⟩ := a
  cases b
  simp [Insert.same, target.same_iff, sameRows_iff source, samePieces_iff stead,
    samePieces_iff partitions, conflict.same_iff, samePieces_iff returning, and_assoc]
termination_by structural a

theorem sameRows_iff (a b : Option Query) : sameRows a b = true ↔ a = b := by
  cases a with
  | none => cases b <;> simp [sameRows]
  | some q => cases b <;> simp [sameRows, q.same_iff]
termination_by structural a

theorem Target.same_iff (a b : Target) : a.same b = true ↔ a = b := by
  cases a with
  | table => cases b <;> simp [Target.same]
  | function pieces => cases b <;> simp [Target.same, samePieces_iff pieces]
termination_by structural a

theorem OnClause.same_iff (a b : OnClause) : a.same b = true ↔ a = b := by
  cases a with
  | absent => cases b <;> simp [OnClause.same]
  | conflict _ action => cases b <;> simp [OnClause.same, samePieces_iff action]
  | duplicateKey assignments => cases b <;> simp [OnClause.same, samePieces_iff assignments]
termination_by structural a

theorem Statement.same_iff (a b : Statement) : a.same b = true ↔ a = b := by
  cases a with
  | query q => cases b <;> simp [Statement.same, q.same_iff]
  | insert i => cases b <;> simp [Statement.same, i.same_iff]
  | other pieces => cases b <;> simp [Statement.same, samePieces_iff pieces]
termination_by structural a

end

instance : DecidableEq Expr := fun a b => decidable_of_iff _ (a.same_iff b)

instance : DecidableEq Statement := fun a b => decidable_of_iff _ (a.same_iff b)

end RowScope.Sql
