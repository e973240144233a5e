/-
What a walk comes to.

A walk changes bodies where they stand in a query, and a body may be a set operation
whose operands hold the SELECTs; what is wanted is a statement about SELECTs.  So the
effect of a visitor is described by two plain things: a revision, and for each INSERT
the refusal it meets with, if it does.  A visitor that is so described (`Visitor.DescribedBy`)
walks a tree to the revised tree, unless an INSERT of the tree is refused, and then the
walk ends with the refusal of the first one in post-order (`Statement.walk_result`).

The invariant behind it is that revising the parts of an INSERT does not change whether
and why it is refused.  A refusal read off the tree as it was before the walk is
therefore the one met with in the middle of it.
-/
import Mathlib.Tactic.Common
import RowScope.Proofs.Enforcement.Outcome
import RowScope.Proofs.Sql.Revision

namespace RowScope.Sql

open Enforcement (Outcome Unsupported settle)

/-! ### Bodies in two steps -/

/-- Changes the SELECTs of a body that belong to its own query. -/
def Body.onSelects (f : Select → Select) : Body → Body
  | .select s => .select (f s)
  | .setOperation op left right => .setOperation op (left.onSelects f) (right.onSelects f)
  | .query q => .query q
  | .values rows => .values rows
  | .statement s => .statement s
  | .table text => .table text
termination_by structural b => b

/-- Revises what is inside the SELECTs that belong to a body's own query, but not these. -/
def Body.reviseParts (w : Revision) : Body → Body
  | .select s => .select (s.reviseParts w)
  | .setOperation op left right => .setOperation op (left.reviseParts w) (right.reviseParts w)
  | .query q => .query (q.revise w)
  | .values rows => .values (revisePieces w rows)
  | .statement s => .statement (s.revise w)
  | .table text => .table text
termination_by structural b => b

theorem Body.onSelects_reviseParts (w : Revision) (b : Body) :
    (b.reviseParts w).onSelects w.select = b.revise w := by
  cases b with
  | setOperation _ left right =>
    simp only [Body.reviseParts, Body.onSelects, Body.revise, left.onSelects_reviseParts,
      right.onSelects_reviseParts]
  | _ => simp only [Body.reviseParts, Body.onSelects, Body.revise]
termination_by structural b

/-! ### Described visitors -/

/-- What a node is refused for. -/
def refusalAt (refuse : Insert → Option Unsupported) : Node → Option Unsupported
  | .select _ => none
  | .insert i => refuse i

/-- A visitor that revises, and refuses some INSERTs. -/
structure Visitor.DescribedBy (v : Visitor Outcome) (w : Revision)
    (refuse : Insert → Option Unsupported) : Prop where
  /-- No body is refused. -/
  body : ∀ b, (v.body b).result = .ok (b.onSelects w.select)
  insert : ∀ i, (v.insert i).result = settle (refuse i) (w.insert i)
  /-- What is inside an INSERT has no say in its refusal. -/
  refuse_reviseParts : ∀ i, refuse (i.reviseParts w) = refuse i

section Walk

set_option linter.unusedSectionVars false

variable {v : Visitor Outcome} {w : Revision} {refuse : Insert → Option Unsupported}
variable (h : v.DescribedBy w refuse)
include h

mutual

theorem Expr.walk_result : ∀ e : Expr,
    (e.walk v).result = settle (e.nodes.findSome? (refusalAt refuse)) (e.revise w)
  | .ident _ => by simp [Expr.walk, Expr.nodes, Expr.revise]
  | .path _ => by simp [Expr.walk, Expr.nodes, Expr.revise]
  | .value _ => by simp [Expr.walk, Expr.nodes, Expr.revise]
  | .nested e => by simp [Expr.walk, Expr.nodes, Expr.revise, e.walk_result]
  | .subquery q => by simp [Expr.walk, Expr.nodes, Expr.revise, q.walk_result]
  | .unary _ e => by simp [Expr.walk, Expr.nodes, Expr.revise, e.walk_result]
  | .binary left _ right => by
    simp [Expr.walk, Expr.nodes, Expr.revise, left.walk_result, right.walk_result,
      List.findSome?_append]
  | .call _ arguments withinGroup filter window => by
    simp [Expr.walk, Expr.nodes, Expr.revise, pieces_walk_result arguments,
      pieces_walk_result withinGroup, pieces_walk_result filter, pieces_walk_result window,
      List.findSome?_append]
  | .access root chain => by
    simp [Expr.walk, Expr.nodes, Expr.revise, root.walk_result, pieces_walk_result chain,
      List.findSome?_append]
  | .trim _ what e => by
    simp [Expr.walk, Expr.nodes, Expr.revise, what.walk_result, e.walk_result,
      List.findSome?_append]
  | .phrase pieces => by simp [Expr.walk, Expr.nodes, Expr.revise, pieces_walk_result pieces]
termination_by structural e => e

theorem Piece.walk_result : ∀ p : Piece,
    (p.walk v).result = settle (p.nodes.findSome? (refusalAt refuse)) (p.revise w)
  | .text _ => by simp [Piece.walk, Piece.nodes, Piece.revise]
  | .expr e => by simp [Piece.walk, Piece.nodes, Piece.revise, e.walk_result]
  | .query q => by simp [Piece.walk, Piece.nodes, Piece.revise, q.walk_result]
  | .statement s => by simp [Piece.walk, Piece.nodes, Piece.revise, s.walk_result]
  | .relation r => by simp [Piece.walk, Piece.nodes, Piece.revise, r.walk_result]
  | .crossed front back => by
    simp [Piece.walk, Piece.nodes, Piece.revise, pieces_walk_result front,
      pieces_walk_result back, List.findSome?_append]
termination_by structural p => p

theorem pieces_walk_result : ∀ ps : List Piece,
    (walkPieces v ps).result
      = settle ((nodesOfPieces ps).findSome? (refusalAt refuse)) (revisePieces w ps)
  | [] => by simp [walkPieces, nodesOfPieces, revisePieces]
  | p :: rest => by
    simp [walkPieces, nodesOfPieces, revisePieces, p.walk_result, pieces_walk_result rest,
      List.findSome?_append]
termination_by structural ps => ps

theorem items_walk_result : ∀ items : List (List Piece),
    (walkItems v items).result
      = settle ((nodesOfItems items).findSome? (refusalAt refuse)) (reviseItems w items)
  | [] => by simp [walkItems, nodesOfItems, reviseItems]
  | item :: rest => by
    simp [walkItems, nodesOfItems, reviseItems, pieces_walk_result item, items_walk_result rest,
      List.findSome?_append]
termination_by structural items => items

theorem Query.walk_result : ∀ q : Query,
    (q.walk v).result = settle (q.nodes.findSome? (refusalAt refuse)) (q.revise w)
  | ⟨preamble, body, tail⟩ => by
    simp [Query.walk, Query.nodes, Query.revise, pieces_walk_result preamble, body.walk_result,
      pieces_walk_result tail, h.body, Body.onSelects_reviseParts, List.findSome?_append]
termination_by structural q => q

theorem Body.walk_result : ∀ b : Body,
    (b.walk v).result = settle (b.nodes.findSome? (refusalAt refuse)) (b.reviseParts w)
  | .select s => by
    simp [Body.walk, Body.nodes, Body.reviseParts, s.walk_result, refusalAt, List.findSome?_append]
  | .setOperation _ left right => by
    simp [Body.walk, Body.nodes, Body.reviseParts, left.walk_result, right.walk_result,
      List.findSome?_append]
  | .query q => by simp [Body.walk, Body.nodes, Body.reviseParts, q.walk_result]
  | .values rows => by simp [Body.walk, Body.nodes, Body.reviseParts, pieces_walk_result rows]
  | .statement s => by simp [Body.walk, Body.nodes, Body.reviseParts, s.walk_result]
  | .table _ => by simp [Body.walk, Body.nodes, Body.reviseParts]
termination_by structural b => b

theorem Select.walk_result : ∀ s : Select,
    (s.walk v).result = settle (s.inner.findSome? (refusalAt refuse)) (s.reviseParts w)
  | ⟨_, quantifier, projection, _, sources, prefilter, filter, tail⟩ => by
    simp [Select.walk, Select.inner, Select.reviseParts, pieces_walk_result quantifier,
      items_walk_result projection, sources_walk_result sources, pieces_walk_result prefilter,
      filter_walk_result filter, pieces_walk_result tail, List.findSome?_append]
termination_by structural s => s

theorem filter_walk_result : ∀ f : Option Expr,
    (walkFilter v f).result
      = settle ((nodesOfFilter f).findSome? (refusalAt refuse)) (reviseFilter w f)
  | none => by simp [walkFilter, nodesOfFilter, reviseFilter]
  | some e => by simp [walkFilter, nodesOfFilter, reviseFilter, e.walk_result]
termination_by structural f => f

theorem Source.walk_result : ∀ s : Source,
    (s.walk v).result = settle (s.nodes.findSome? (refusalAt refuse)) (s.revise w)
  | ⟨relation, joins⟩ => by
    simp [Source.walk, Source.nodes, Source.revise, relation.walk_result, pieces_walk_result joins,
      List.findSome?_append]
termination_by structural s => s

theorem sources_walk_result : ∀ ss : List Source,
    (walkSources v ss).result
      = settle ((nodesOfSources ss).findSome? (refusalAt refuse)) (reviseSources w ss)
  | [] => by simp [walkSources, nodesOfSources, reviseSources]
  | s :: rest => by
    simp [walkSources, nodesOfSources, reviseSources, s.walk_result, sources_walk_result rest,
      List.findSome?_append]
termination_by structural ss => ss

theorem Relation.walk_result : ∀ r : Relation,
    (r.walk v).result = settle (r.nodes.findSome? (refusalAt refuse)) (r.revise w)
  | .table _ arguments suffix _ hints => by
    simp [Relation.walk, Relation.nodes, Relation.revise, pieces_walk_result arguments,
      pieces_walk_result suffix, pieces_walk_result hints, List.findSome?_append]
  | .derived _ q _ => by simp [Relation.walk, Relation.nodes, Relation.revise, q.walk_result]
  | .rows call _ => by
    simp [Relation.walk, Relation.nodes, Relation.revise, pieces_walk_result call]
  | .joined source _ => by
    simp [Relation.walk, Relation.nodes, Relation.revise, source.walk_result]
termination_by structural r => r

theorem Insert.walk_result : ∀ i : Insert,
    (i.walk v).result = settle (i.inner.findSome? (refusalAt refuse)) (i.reviseParts w)
  | ⟨_, target, _, _, source, stead, partitions, conflict, returning⟩ => by
    simp [Insert.walk, Insert.inner, Insert.reviseParts, target.walk_result,
      rows_walk_result source, pieces_walk_result stead, pieces_walk_result partitions,
      conflict.walk_result, pieces_walk_result returning, List.findSome?_append]
termination_by structural i => i

theorem rows_walk_result : ∀ o : Option Query,
    (walkRows v o).result
      = settle ((nodesOfRows o).findSome? (refusalAt refuse)) (reviseRows w o)
  | none => by simp [walkRows, nodesOfRows, reviseRows]
  | some q => by simp [walkRows, nodesOfRows, reviseRows, q.walk_result]
termination_by structural o => o

theorem Target.walk_result : ∀ t : Target,
    (t.walk v).result = settle (t.nodes.findSome? (refusalAt refuse)) (t.revise w)
  | .table _ => by simp [Target.walk, Target.nodes, Target.revise]
  | .function call => by simp [Target.walk, Target.nodes, Target.revise, pieces_walk_result call]
termination_by structural t => t

theorem OnClause.walk_result : ∀ c : OnClause,
    (c.walk v).result = settle (c.nodes.findSome? (refusalAt refuse)) (c.revise w)
  | .absent => by simp [OnClause.walk, OnClause.nodes, OnClause.revise]
  | .conflict _ action => by
    simp [OnClause.walk, OnClause.nodes, OnClause.revise, pieces_walk_result action]
  | .duplicateKey assignments => by
    simp [OnClause.walk, OnClause.nodes, OnClause.revise, pieces_walk_result assignments]
termination_by structural c => c

theorem Statement.walk_result : ∀ s : Statement,
    (s.walk v).result = settle (s.nodes.findSome? (refusalAt refuse)) (s.revise w)
  | .query q => by simp [Statement.walk, Statement.nodes, Statement.revise, q.walk_result]
  | .insert i => by
    simp [Statement.walk, Statement.nodes, Statement.revise, i.walk_result, h.insert,
      h.refuse_reviseParts, refusalAt, List.findSome?_append]
  | .other pieces => by
    simp [Statement.walk, Statement.nodes, Statement.revise, pieces_walk_result pieces]
termination_by structural s => s

end

end Walk

end RowScope.Sql
