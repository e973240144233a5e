/-
What is left of a tree without its filters and its conflict targets.

The skeleton of a tree has no filter at any SELECT and no columns in the target of any ON
CONFLICT clause, at whatever depth; all else is in it as it stands.  Two trees with the
same skeleton are therefore the same but for filters and for columns of conflict targets.
A target that is a constraint is kept: nothing is to be put in its place.

A revision that keeps the skeleton of each node that it changes keeps that of a whole tree
(`skeleton_revise`).  Of the filter of a SELECT nothing is left at all, and what a revision
does to the nodes inside it needs no care; so the proof follows the definition.
-/
import Mathlib.Tactic.Common
import RowScope.Proofs.Sql.Revision

namespace RowScope.Sql

/-! ### Skeletons -/

mutual

/-- The skeleton of an expression. -/
def Expr.skeleton : Expr → Expr
  | .ident name => .ident name
  | .path names => .path names
  | .value v => .value v
  | .nested e => .nested e.skeleton
  | .subquery q => .subquery q.skeleton
  | .unary op e => .unary op e.skeleton
  | .binary left op right => .binary left.skeleton op right.skeleton
  | .call name arguments withinGroup filter window =>
    .call name (skeletonPieces arguments) (skeletonPieces withinGroup) (skeletonPieces filter)
      (skeletonPieces window)
  | .access root chain => .access root.skeleton (skeletonPieces chain)
  | .trim side what e => .trim side what.skeleton e.skeleton
  | .phrase pieces => .phrase (skeletonPieces pieces)
termination_by structural e => e

/-- The skeleton of a piece of a phrase. -/
def Piece.skeleton : Piece → Piece
  | .text s => .text s
  | .expr e => .expr e.skeleton
  | .query q => .query q.skeleton
  | .statement s => .statement s.skeleton
  | .relation r => .relation r.skeleton
  | .crossed front back => .crossed (skeletonPieces front) (skeletonPieces back)
termination_by structural p => p

/-- The skeleton of a phrase. -/
def skeletonPieces : List Piece → List Piece
  | [] => []
  | p :: rest => p.skeleton :: skeletonPieces rest
termination_by structural ps => ps

/-- The skeletons of a list of phrases. -/
def skeletonItems : List (List Piece) → List (List Piece)
  | [] => []
  | item :: rest => skeletonPieces item :: skeletonItems rest
termination_by structural items => items

/-- The skeleton of a query. -/
def Query.skeleton : Query → Query
  | ⟨preamble, body, tail⟩ => ⟨skeletonPieces preamble, body.skeleton, skeletonPieces tail⟩
termination_by structural q => q

/-- The skeleton of a body. -/
def Body.skeleton : Body → Body
  | .select s => .select s.skeleton
  | .setOperation op left right => .setOperation op left.skeleton right.skeleton
  | .query q => .query q.skeleton
  | .values rows => .values (skeletonPieces rows)
  | .statement s => .statement s.skeleton
  | .table text => .table text
termination_by structural b => b

/-- The skeleton of a SELECT: it has no filter. -/
def Select.skeleton : Select → Select
  | ⟨flavor, quantifier, projection, into, sources, prefilter, _, tail⟩ =>
    ⟨flavor, skeletonPieces quantifier, skeletonItems projection, into, skeletonSources sources,
      skeletonPieces prefilter, none, skeletonPieces tail⟩
termination_by structural s => s

/-- The skeleton of a FROM item. -/
def Source.skeleton : Source → Source
  | ⟨relation, joins⟩ => ⟨relation.skeleton, skeletonPieces joins⟩
termination_by structural s => s

/-- The skeletons of a FROM list. -/
def skeletonSources : List Source → List Source
  | [] => []
  | s :: rest => s.skeleton :: skeletonSources rest
termination_by structural ss => ss

/-- The skeleton of a relation. -/
def Relation.skeleton : Relation → Relation
  | .table name arguments suffix aliased hints =>
    .table name (skeletonPieces arguments) (skeletonPieces suffix) aliased (skeletonPieces hints)
  | .derived lateral q aliased => .derived lateral q.skeleton aliased
  | .rows call aliased => .rows (skeletonPieces call) aliased
  | .joined source aliased => .joined source.skeleton aliased
termination_by structural r => r

/-- The skeleton of an INSERT. -/
def Insert.skeleton : Insert → Insert
  | ⟨verb, target, aliased, columns, source, stead, partitions, conflict, returning⟩ =>
    ⟨verb, target.skeleton, aliased, columns, skeletonRows source, skeletonPieces stead,
      skeletonPieces partitions, conflict.skeleton, skeletonPieces returning⟩
termination_by structural i => i

/-- The skeleton of the rows of an INSERT. -/
def skeletonRows : Option Query → Option Query
  | none => none
  | some q => some q.skeleton
termination_by structural o => o

/-- The skeleton of an INSERT's target. -/
def Target.skeleton : Target → Target
  | .table name => .table name
  | .function call => .function (skeletonPieces call)
termination_by structural t => t

/-- The skeleton of an ON clause: its target has no columns. -/
def OnClause.skeleton : OnClause → OnClause
  | .absent => .absent
  | .conflict none action => .conflict none (skeletonPieces action)
  | .conflict (some (.columns _)) action => .conflict none (skeletonPieces action)
  | .conflict (some (.constraint name)) action =>
    .conflict (some (.constraint name)) (skeletonPieces action)
  | .duplicateKey assignments => .duplicateKey (skeletonPieces assignments)
termination_by structural c => c

/-- The skeleton of a statement. -/
def Statement.skeleton : Statement → Statement
  | .query q => .query q.skeleton
  | .insert i => .insert i.skeleton
  | .other pieces => .other (skeletonPieces pieces)
termination_by structural s => s

end

/-! ### Revisions that keep skeletons -/

/-- A revision that keeps the skeleton of every node. -/
structure Revision.KeepsSkeletons (w : Revision) : Prop where
  select : ∀ s, (w.select s).skeleton = s.skeleton
  insert : ∀ i, (w.insert i).skeleton = i.skeleton

section SkeletonRevise

set_option linter.unusedSectionVars false

variable {w : Revision} (hw : w.KeepsSkeletons)
include hw

mutual

theorem Expr.skeleton_revise : ∀ e : Expr, (e.revise w).skeleton = e.skeleton
  | .ident _ => by simp only [Expr.revise]
  | .path _ => by simp only [Expr.revise]
  | .value _ => by simp only [Expr.revise]
  | .nested e => by simp only [Expr.revise, Expr.skeleton, e.skeleton_revise]
  | .subquery q => by simp only [Expr.revise, Expr.skeleton, q.skeleton_revise]
  | .unary _ e => by simp only [Expr.revise, Expr.skeleton, e.skeleton_revise]
  | .binary left _ right => by
    simp only [Expr.revise, Expr.skeleton, left.skeleton_revise, right.skeleton_revise]
  | .call _ arguments withinGroup filter window => by
    simp only [Expr.revise, Expr.skeleton, pieces_skeleton_revise arguments,
      pieces_skeleton_revise withinGroup, pieces_skeleton_revise filter,
      pieces_skeleton_revise window]
  | .access root chain => by
    simp only [Expr.revise, Expr.skeleton, root.skeleton_revise, pieces_skeleton_revise chain]
  | .trim _ what e => by
    simp only [Expr.revise, Expr.skeleton, what.skeleton_revise, e.skeleton_revise]
  | .phrase pieces => by
    simp only [Expr.revise, Expr.skeleton, pieces_skeleton_revise pieces]
termination_by structural e => e

theorem Piece.skeleton_revise : ∀ p : Piece, (p.revise w).skeleton = p.skeleton
  | .text _ => by simp only [Piece.revise]
  | .expr e => by simp only [Piece.revise, Piece.skeleton, e.skeleton_revise]
  | .query q => by simp only [Piece.revise, Piece.skeleton, q.skeleton_revise]
  | .statement s => by simp only [Piece.revise, Piece.skeleton, s.skeleton_revise]
  | .relation r => by simp only [Piece.revise, Piece.skeleton, r.skeleton_revise]
  | .crossed front back => by
    simp only [Piece.revise, Piece.skeleton, pieces_skeleton_revise front,
      pieces_skeleton_revise back]
termination_by structural p => p

theorem pieces_skeleton_revise : ∀ ps : List Piece,
    skeletonPieces (revisePieces w ps) = skeletonPieces ps
  | [] => by simp only [revisePieces]
  | p :: rest => by
    simp only [revisePieces, skeletonPieces, p.skeleton_revise, pieces_skeleton_revise rest]
termination_by structural ps => ps

theorem items_skeleton_revise : ∀ items : List (List Piece),
    skeletonItems (reviseItems w items) = skeletonItems items
  | [] => by simp only [reviseItems]
  | item :: rest => by
    simp only [reviseItems, skeletonItems, pieces_skeleton_revise item,
      items_skeleton_revise rest]
termination_by structural items => items

theorem Query.skeleton_revise : ∀ q : Query, (q.revise w).skeleton = q.skeleton
  | ⟨preamble, body, tail⟩ => by
    simp only [Query.revise, Query.skeleton, pieces_skeleton_revise preamble,
      body.skeleton_revise, pieces_skeleton_revise tail]
termination_by structural q => q

theorem Body.skeleton_revise : ∀ b : Body, (b.revise w).skeleton = b.skeleton
  | .select s => by simp only [Body.revise, Body.skeleton, hw.select, s.skeleton_reviseParts]
  | .setOperation _ left right => by
    simp only [Body.revise, Body.skeleton, left.skeleton_revise, right.skeleton_revise]
  | .query q => by simp only [Body.revise, Body.skeleton, q.skeleton_revise]
  | .values rows => by simp only [Body.revise, Body.skeleton, pieces_skeleton_revise rows]
  | .statement s => by simp only [Body.revise, Body.skeleton, s.skeleton_revise]
  | .table _ => by simp only [Body.revise]
termination_by structural b => b

theorem Select.skeleton_reviseParts : ∀ s : Select, (s.reviseParts w).skeleton = s.skeleton
  | ⟨_, quantifier, projection, _, sources, prefilter, _, tail⟩ => by
    simp only [Select.reviseParts, Select.skeleton, pieces_skeleton_revise quantifier,
      items_skeleton_revise projection, sources_skeleton_revise sources,
      pieces_skeleton_revise prefilter, pieces_skeleton_revise tail]
termination_by structural s => s

theorem Source.skeleton_revise : ∀ s : Source, (s.revise w).skeleton = s.skeleton
  | ⟨relation, joins⟩ => by
    simp only [Source.revise, Source.skeleton, relation.skeleton_revise,
      pieces_skeleton_revise joins]
termination_by structural s => s

theorem sources_skeleton_revise : ∀ ss : List Source,
    skeletonSources (reviseSources w ss) = skeletonSources ss
  | [] => by simp only [reviseSources]
  | s :: rest => by
    simp only [reviseSources, skeletonSources, s.skeleton_revise, sources_skeleton_revise rest]
termination_by structural ss => ss

theorem Relation.skeleton_revise : ∀ r : Relation, (r.revise w).skeleton = r.skeleton
  | .table _ arguments suffix _ hints => by
    simp only [Relation.revise, Relation.skeleton, pieces_skeleton_revise arguments,
      pieces_skeleton_revise suffix, pieces_skeleton_revise hints]
  | .derived _ q _ => by simp only [Relation.revise, Relation.skeleton, q.skeleton_revise]
  | .rows call _ => by
    simp only [Relation.revise, Relation.skeleton, pieces_skeleton_revise call]
  | .joined source _ => by
    simp only [Relation.revise, Relation.skeleton, source.skeleton_revise]
termination_by structural r => r

theorem Insert.skeleton_reviseParts : ∀ i : Insert, (i.reviseParts w).skeleton = i.skeleton
  | ⟨_, target, _, _, source, stead, partitions, conflict, returning⟩ => by
    simp only [Insert.reviseParts, Insert.skeleton, target.skeleton_revise,
      rows_skeleton_revise source, pieces_skeleton_revise stead,
      pieces_skeleton_revise partitions, conflict.skeleton_revise,
      pieces_skeleton_revise returning]
termination_by structural i => i

theorem rows_skeleton_revise : ∀ o : Option Query,
    skeletonRows (reviseRows w o) = skeletonRows o
  | none => by simp only [reviseRows]
  | some q => by simp only [reviseRows, skeletonRows, q.skeleton_revise]
termination_by structural o => o

theorem Target.skeleton_revise : ∀ t : Target, (t.revise w).skeleton = t.skeleton
  | .table _ => by simp only [Target.revise]
  | .function call => by
    simp only [Target.revise, Target.skeleton, pieces_skeleton_revise call]
termination_by structural t => t

theorem OnClause.skeleton_revise : ∀ c : OnClause, (c.revise w).skeleton = c.skeleton
  | .absent => by simp only [OnClause.revise]
  | .conflict none action => by
    simp only [OnClause.revise, OnClause.skeleton, pieces_skeleton_revise action]
  | .conflict (some (.columns _)) action => by
    simp only [OnClause.revise, OnClause.skeleton, pieces_skeleton_revise action]
  | .conflict (some (.constraint _)) action => by
    simp only [OnClause.revise, OnClause.skeleton, pieces_skeleton_revise action]
  | .duplicateKey assignments => by
    simp only [OnClause.revise, OnClause.skeleton, pieces_skeleton_revise assignments]
termination_by structural c => c

theorem Statement.skeleton_revise : ∀ s : Statement, (s.revise w).skeleton = s.skeleton
  | .query q => by simp only [Statement.revise, Statement.skeleton, q.skeleton_revise]
  | .insert i => by
    simp only [Statement.revise, Statement.skeleton, hw.insert, i.skeleton_reviseParts]
  | .other pieces => by
    simp only [Statement.revise, Statement.skeleton, pieces_skeleton_revise pieces]
termination_by structural s => s

end

end SkeletonRevise

end RowScope.Sql
