/-
Revisions: every SELECT and every INSERT of a tree is changed, children first.

A revision is the plain way to say what enforcing a rule does.  It has one function for
SELECTs and one for INSERTs, and it applies them wherever such a node stands; nothing
depends on the query or the set operation that a SELECT is part of.  Three facts carry
everything that is said about whole trees.

  * The nodes of a revised tree are the nodes of the tree, each revised (`nodes_revise`),
    as long as the two functions leave the nodes inside a node alone.
  * Two revisions, one after the other, are one (`revise_revise`), as long as the first
    one does not care whether the second has been at the parts of a node already.
  * A revision keeps what a node is called and what shape it has; these are the small
    lemmas beside the definitions.
-/
import Mathlib.Tactic.Common
import RowScope.Proofs.Sql.Nodes

namespace RowScope.Sql

/-- What becomes of the nodes of a tree; the nodes inside a node are left to themselves. -/
structure Revision where
  select : Select → Select
  insert : Insert → Insert
  inner_select : ∀ s, (select s).inner = s.inner
  inner_insert : ∀ i, (insert i).inner = i.inner

/-! ### Revised trees -/

section Revise

variable (w : Revision)

mutual

/-- Revises an expression. -/
def Expr.revise : Expr → Expr
  | .ident name => .ident name
  | .path names => .path names
  | .value v => .value v
  | .nested e => .nested e.revise
  | .subquery q => .subquery q.revise
  | .unary op e => .unary op e.revise
  | .binary left op right => .binary left.revise op right.revise
  | .call name arguments withinGroup filter window =>
    .call name (revisePieces arguments) (revisePieces withinGroup) (revisePieces filter)
      (revisePieces window)
  | .access root chain => .access root.revise (revisePieces chain)
  | .trim side what e => .trim side what.revise e.revise
  | .phrase pieces => .phrase (revisePieces pieces)
termination_by structural e => e

/-- Revises a piece of a phrase. -/
def Piece.revise : Piece → Piece
  | .text s => .text s
  | .expr e => .expr e.revise
  | .query q => .query q.revise
  | .statement s => .statement s.revise
  | .relation r => .relation r.revise
  | .crossed front back => .crossed (revisePieces front) (revisePieces back)
termination_by structural p => p

/-- Revises a phrase. -/
def revisePieces : List Piece → List Piece
  | [] => []
  | p :: rest => p.revise :: revisePieces rest
termination_by structural ps => ps

/-- Revises a list of phrases. -/
def reviseItems : List (List Piece) → List (List Piece)
  | [] => []
  | item :: rest => revisePieces item :: reviseItems rest
termination_by structural items => items

/-- Revises a query. -/
def Query.revise : Query → Query
  | ⟨preamble, body, tail⟩ => ⟨revisePieces preamble, body.revise, revisePieces tail⟩
termination_by structural q => q

/-- Revises a body. -/
def Body.revise : Body → Body
  | .select s => .select (w.select s.reviseParts)
  | .setOperation op left right => .setOperation op left.revise right.revise
  | .query q => .query q.revise
  | .values rows => .values (revisePieces rows)
  | .statement s => .statement s.revise
  | .table text => .table text
termination_by structural b => b

/-- Revises what is inside a SELECT, but not the SELECT itself. -/
def Select.reviseParts : Select → Select
  | ⟨flavor, quantifier, projection, into, sources, prefilter, filter, tail⟩ =>
    ⟨flavor, revisePieces quantifier, reviseItems projection, into, reviseSources sources,
      revisePieces prefilter, reviseFilter filter, revisePieces tail⟩
termination_by structural s => s

/-- Revises a filter. -/
def reviseFilter : Option Expr → Option Expr
  | none => none
  | some e => some e.revise
termination_by structural f => f

/-- Revises a FROM item. -/
def Source.revise : Source → Source
  | ⟨relation, joins⟩ => ⟨relation.revise, revisePieces joins⟩
termination_by structural s => s

/-- Revises a FROM list. -/
def reviseSources : List Source → List Source
  | [] => []
  | s :: rest => s.revise :: reviseSources rest
termination_by structural ss => ss

/-- Revises a relation. -/
def Relation.revise : Relation → Relation
  | .table name arguments suffix aliased hints =>
    .table name (revisePieces arguments) (revisePieces suffix) aliased (revisePieces hints)
  | .derived lateral q aliased => .derived lateral q.revise aliased
  | .rows call aliased => .rows (revisePieces call) aliased
  | .joined source aliased => .joined source.revise aliased
termination_by structural r => r

/-- Revises what is inside an INSERT, but not the INSERT itself. -/
def Insert.reviseParts : Insert → Insert
  | ⟨verb, target, aliased, columns, source, stead, partitions, conflict, returning⟩ =>
    ⟨verb, target.revise, aliased, columns, reviseRows source, revisePieces stead,
      revisePieces partitions, conflict.revise, revisePieces returning⟩
termination_by structural i => i

/-- Revises the rows of an INSERT. -/
def reviseRows : Option Query → Option Query
  | none => none
  | some q => some q.revise
termination_by structural o => o

/-- Revises an INSERT's target. -/
def Target.revise : Target → Target
  | .table name => .table name
  | .function call => .function (revisePieces call)
termination_by structural t => t

/-- Revises an ON clause. -/
def OnClause.revise : OnClause → OnClause
  | .absent => .absent
  | .conflict target action => .conflict target (revisePieces action)
  | .duplicateKey assignments => .duplicateKey (revisePieces assignments)
termination_by structural c => c

/-- Revises a statement. -/
def Statement.revise : Statement → Statement
  | .query q => .query q.revise
  | .insert i => .insert (w.insert i.reviseParts)
  | .other pieces => .other (revisePieces pieces)
termination_by structural s => s

end

/-- Revises a node: first what is inside it, then the node itself. -/
def Node.revise : Node → Node
  | .select s => .select (w.select (s.reviseParts w))
  | .insert i => .insert (w.insert (i.reviseParts w))

end Revise

/-! ### The nodes of a revised tree -/

section NodesRevise

variable (w : Revision)

mutual

theorem Expr.nodes_revise : ∀ e : Expr, (e.revise w).nodes = e.nodes.map (Node.revise w)
  | .ident _ => by simp only [Expr.revise, Expr.nodes, List.map_nil]
  | .path _ => by simp only [Expr.revise, Expr.nodes, List.map_nil]
  | .value _ => by simp only [Expr.revise, Expr.nodes, List.map_nil]
  | .nested e => by simp only [Expr.revise, Expr.nodes, e.nodes_revise]
  | .subquery q => by simp only [Expr.revise, Expr.nodes, q.nodes_revise]
  | .unary _ e => by simp only [Expr.revise, Expr.nodes, e.nodes_revise]
  | .binary left _ right => by
    simp only [Expr.revise, Expr.nodes, List.map_append, left.nodes_revise, right.nodes_revise]
  | .call _ arguments withinGroup filter window => by
    simp only [Expr.revise, Expr.nodes, List.map_append, pieces_nodes_revise arguments,
      pieces_nodes_revise withinGroup, pieces_nodes_revise filter, pieces_nodes_revise window]
  | .access root chain => by
    simp only [Expr.revise, Expr.nodes, List.map_append, root.nodes_revise,
      pieces_nodes_revise chain]
  | .trim _ what e => by
    simp only [Expr.revise, Expr.nodes, List.map_append, what.nodes_revise, e.nodes_revise]
  | .phrase pieces => by simp only [Expr.revise, Expr.nodes, pieces_nodes_revise pieces]
termination_by structural e => e

theorem Piece.nodes_revise : ∀ p : Piece, (p.revise w).nodes = p.nodes.map (Node.revise w)
  | .text _ => by simp only [Piece.revise, Piece.nodes, List.map_nil]
  | .expr e => by simp only [Piece.revise, Piece.nodes, e.nodes_revise]
  | .query q => by simp only [Piece.revise, Piece.nodes, q.nodes_revise]
  | .statement s => by simp only [Piece.revise, Piece.nodes, s.nodes_revise]
  | .relation r => by simp only [Piece.revise, Piece.nodes, r.nodes_revise]
  | .crossed front back => by
    simp only [Piece.revise, Piece.nodes, List.map_append, pieces_nodes_revise front,
      pieces_nodes_revise back]
termination_by structural p => p

theorem pieces_nodes_revise : ∀ ps : List Piece,
    nodesOfPieces (revisePieces w ps) = (nodesOfPieces ps).map (Node.revise w)
  | [] => by simp only [revisePieces, nodesOfPieces, List.map_nil]
  | p :: rest => by
    simp only [revisePieces, nodesOfPieces, List.map_append, p.nodes_revise,
      pieces_nodes_revise rest]
termination_by structural ps => ps

theorem items_nodes_revise : ∀ items : List (List Piece),
    nodesOfItems (reviseItems w items) = (nodesOfItems items).map (Node.revise w)
  | [] => by simp only [reviseItems, nodesOfItems, List.map_nil]
  | item :: rest => by
    simp only [reviseItems, nodesOfItems, List.map_append, pieces_nodes_revise item,
      items_nodes_revise rest]
termination_by structural items => items

theorem Query.nodes_revise : ∀ q : Query, (q.revise w).nodes = q.nodes.map (Node.revise w)
  | ⟨preamble, body, tail⟩ => by
    simp only [Query.revise, Query.nodes, List.map_append, pieces_nodes_revise preamble,
      body.nodes_revise, pieces_nodes_revise tail]
termination_by structural q => q

theorem Body.nodes_revise : ∀ b : Body, (b.revise w).nodes = b.nodes.map (Node.revise w)
  | .select s => by
    simp only [Body.revise, Body.nodes, List.map_append, List.map_cons, List.map_nil,
      Node.revise, w.inner_select, s.inner_reviseParts]
  | .setOperation _ left right => by
    simp only [Body.revise, Body.nodes, List.map_append, left.nodes_revise, right.nodes_revise]
  | .query q => by simp only [Body.revise, Body.nodes, q.nodes_revise]
  | .values rows => by simp only [Body.revise, Body.nodes, pieces_nodes_revise rows]
  | .statement s => by simp only [Body.revise, Body.nodes, s.nodes_revise]
  | .table _ => by simp only [Body.revise, Body.nodes, List.map_nil]
termination_by structural b => b

theorem Select.inner_reviseParts : ∀ s : Select,
    (s.reviseParts w).inner = s.inner.map (Node.revise w)
  | ⟨_, quantifier, projection, _, sources, prefilter, filter, tail⟩ => by
    simp only [Select.reviseParts, Select.inner, List.map_append, pieces_nodes_revise quantifier,
      items_nodes_revise projection, sources_nodes_revise sources,
      pieces_nodes_revise prefilter, filter_nodes_revise filter, pieces_nodes_revise tail]
termination_by structural s => s

theorem filter_nodes_revise : ∀ f : Option Expr,
    nodesOfFilter (reviseFilter w f) = (nodesOfFilter f).map (Node.revise w)
  | none => by simp only [reviseFilter, nodesOfFilter, List.map_nil]
  | some e => by simp only [reviseFilter, nodesOfFilter, e.nodes_revise]
termination_by structural f => f

theorem Source.nodes_revise : ∀ s : Source, (s.revise w).nodes = s.nodes.map (Node.revise w)
  | ⟨relation, joins⟩ => by
    simp only [Source.revise, Source.nodes, List.map_append, relation.nodes_revise,
      pieces_nodes_revise joins]
termination_by structural s => s

theorem sources_nodes_revise : ∀ ss : List Source,
    nodesOfSources (reviseSources w ss) = (nodesOfSources ss).map (Node.revise w)
  | [] => by simp only [reviseSources, nodesOfSources, List.map_nil]
  | s :: rest => by
    simp only [reviseSources, nodesOfSources, List.map_append, s.nodes_revise,
      sources_nodes_revise rest]
termination_by structural ss => ss

theorem Relation.nodes_revise : ∀ r : Relation,
    (r.revise w).nodes = r.nodes.map (Node.revise w)
  | .table _ arguments suffix _ hints => by
    simp only [Relation.revise, Relation.nodes, List.map_append, pieces_nodes_revise arguments,
      pieces_nodes_revise suffix, pieces_nodes_revise hints]
  | .derived _ q _ => by simp only [Relation.revise, Relation.nodes, q.nodes_revise]
  | .rows call _ => by simp only [Relation.revise, Relation.nodes, pieces_nodes_revise call]
  | .joined source _ => by simp only [Relation.revise, Relation.nodes, source.nodes_revise]
termination_by structural r => r

theorem Insert.inner_reviseParts : ∀ i : Insert,
    (i.reviseParts w).inner = i.inner.map (Node.revise w)
  | ⟨_, target, _, _, source, stead, partitions, conflict, returning⟩ => by
    simp only [Insert.reviseParts, Insert.inner, List.map_append, target.nodes_revise,
      rows_nodes_revise source, pieces_nodes_revise stead, pieces_nodes_revise partitions,
      conflict.nodes_revise, pieces_nodes_revise returning]
termination_by structural i => i

theorem rows_nodes_revise : ∀ o : Option Query,
    nodesOfRows (reviseRows w o) = (nodesOfRows o).map (Node.revise w)
  | none => by simp only [reviseRows, nodesOfRows, List.map_nil]
  | some q => by simp only [reviseRows, nodesOfRows, q.nodes_revise]
termination_by structural o => o

theorem Target.nodes_revise : ∀ t : Target, (t.revise w).nodes = t.nodes.map (Node.revise w)
  | .table _ => by simp only [Target.revise, Target.nodes, List.map_nil]
  | .function call => by simp only [Target.revise, Target.nodes, pieces_nodes_revise call]
termination_by structural t => t

theorem OnClause.nodes_revise : ∀ c : OnClause,
    (c.revise w).nodes = c.nodes.map (Node.revise w)
  | .absent => by simp only [OnClause.revise, OnClause.nodes, List.map_nil]
  | .conflict _ action => by
    simp only [OnClause.revise, OnClause.nodes, pieces_nodes_revise action]
  | .duplicateKey assignments => by
    simp only [OnClause.revise, OnClause.nodes, pieces_nodes_revise assignments]
termination_by structural c => c

theorem Statement.nodes_revise : ∀ s : Statement,
    (s.revise w).nodes = s.nodes.map (Node.revise w)
  | .query q => by simp only [Statement.revise, Statement.nodes, q.nodes_revise]
  | .insert i => by
    simp only [Statement.revise, Statement.nodes, List.map_append, List.map_cons, List.map_nil,
      Node.revise, w.inner_insert, i.inner_reviseParts]
  | .other pieces => by
    simp only [Statement.revise, Statement.nodes, pieces_nodes_revise pieces]
termination_by structural s => s

end

/-- The SELECTs of a revised statement are those of the statement, each revised. -/
theorem Statement.selects_revise (s : Statement) :
    (s.revise w).selects = s.selects.map fun b => w.select (b.reviseParts w) := by
  simp only [Statement.selects, s.nodes_revise, List.filterMap_map, List.map_filterMap]
  congr 1
  funext n
  cases n <;> rfl

theorem Statement.inserts_revise (s : Statement) :
    (s.revise w).inserts = s.inserts.map fun i => w.insert (i.reviseParts w) := by
  simp only [Statement.inserts, s.nodes_revise, List.filterMap_map, List.map_filterMap]
  congr 1
  funext n
  cases n <;> rfl

end NodesRevise

/-! ### One revision after another -/

namespace Revision

/-- One revision, and then another one at the same node. -/
def andThen (w w' : Revision) : Revision where
  select s := w'.select (w.select s)
  insert i := w'.insert (w.insert i)
  inner_select s := by rw [w'.inner_select, w.inner_select]
  inner_insert i := by rw [w'.inner_insert, w.inner_insert]

/-- The revision that leaves every node as it is. -/
def idle : Revision where
  select := id
  insert := id
  inner_select _ := rfl
  inner_insert _ := rfl

/--
A revision that acts on a node in the same way before and after anything has been done to
the parts of the node.
-/
structure Steady (w : Revision) : Prop where
  select : ∀ (w' : Revision) (s : Select),
    (w.select s).reviseParts w' = w.select (s.reviseParts w')
  insert : ∀ (w' : Revision) (i : Insert),
    (w.insert i).reviseParts w' = w.insert (i.reviseParts w')

theorem steady_idle : Steady idle := ⟨fun _ _ => rfl, fun _ _ => rfl⟩

theorem Steady.andThen {w w' : Revision} (h : w.Steady) (h' : w'.Steady) :
    (w.andThen w').Steady where
  select v s := by simp only [Revision.andThen, h'.select, h.select]
  insert v i := by simp only [Revision.andThen, h'.insert, h.insert]

end Revision

section ReviseRevise

set_option linter.unusedSectionVars false

variable {w : Revision} (hw : w.Steady) (w' : Revision)
include hw

-- The first revision has to be steady: where it acts on a node, the second one has not
-- been at the parts of the node, and in the joint revision it has.
mutual

theorem Expr.revise_revise : ∀ e : Expr, (e.revise w).revise w' = e.revise (w.andThen w')
  | .ident _ => by simp only [Expr.revise]
  | .path _ => by simp only [Expr.revise]
  | .value _ => by simp only [Expr.revise]
  | .nested e => by simp only [Expr.revise, e.revise_revise]
  | .subquery q => by simp only [Expr.revise, q.revise_revise]
  | .unary _ e => by simp only [Expr.revise, e.revise_revise]
  | .binary left _ right => by
    simp only [Expr.revise, left.revise_revise, right.revise_revise]
  | .call _ arguments withinGroup filter window => by
    simp only [Expr.revise, pieces_revise_revise arguments, pieces_revise_revise withinGroup,
      pieces_revise_revise filter, pieces_revise_revise window]
  | .access root chain => by
    simp only [Expr.revise, root.revise_revise, pieces_revise_revise chain]
  | .trim _ what e => by simp only [Expr.revise, what.revise_revise, e.revise_revise]
  | .phrase pieces => by simp only [Expr.revise, pieces_revise_revise pieces]
termination_by structural e => e

theorem Piece.revise_revise : ∀ p : Piece, (p.revise w).revise w' = p.revise (w.andThen w')
  | .text _ => by simp only [Piece.revise]
  | .expr e => by simp only [Piece.revise, e.revise_revise]
  | .query q => by simp only [Piece.revise, q.revise_revise]
  | .statement s => by simp only [Piece.revise, s.revise_revise]
  | .relation r => by simp only [Piece.revise, r.revise_revise]
  | .crossed front back => by
    simp only [Piece.revise, pieces_revise_revise front, pieces_revise_revise back]
termination_by structural p => p

theorem pieces_revise_revise : ∀ ps : List Piece,
    revisePieces w' (revisePieces w ps) = revisePieces (w.andThen w') ps
  | [] => by simp only [revisePieces]
  | p :: rest => by simp only [revisePieces, p.revise_revise, pieces_revise_revise rest]
termination_by structural ps => ps

theorem items_revise_revise : ∀ items : List (List Piece),
    reviseItems w' (reviseItems w items) = reviseItems (w.andThen w') items
  | [] => by simp only [reviseItems]
  | item :: rest => by
    simp only [reviseItems, pieces_revise_revise item, items_revise_revise rest]
termination_by structural items => items

theorem Query.revise_revise : ∀ q : Query, (q.revise w).revise w' = q.revise (w.andThen w')
  | ⟨preamble, body, tail⟩ => by
    simp only [Query.revise, pieces_revise_revise preamble, body.revise_revise,
      pieces_revise_revise tail]
termination_by structural q => q

theorem Body.revise_revise : ∀ b : Body, (b.revise w).revise w' = b.revise (w.andThen w')
  | .select s => by
    simp only [Body.revise, hw.select, s.reviseParts_reviseParts, Revision.andThen]
  | .setOperation _ left right => by
    simp only [Body.revise, left.revise_revise, right.revise_revise]
  | .query q => by simp only [Body.revise, q.revise_revise]
  | .values rows => by simp only [Body.revise, pieces_revise_revise rows]
  | .statement s => by simp only [Body.revise, s.revise_revise]
  | .table _ => by simp only [Body.revise]
termination_by structural b => b

theorem Select.reviseParts_reviseParts : ∀ s : Select,
    (s.reviseParts w).reviseParts w' = s.reviseParts (w.andThen w')
  | ⟨_, quantifier, projection, _, sources, prefilter, filter, tail⟩ => by
    simp only [Select.reviseParts, pieces_revise_revise quantifier,
      items_revise_revise projection, sources_revise_revise sources,
      pieces_revise_revise prefilter, filter_revise_revise filter, pieces_revise_revise tail]
termination_by structural s => s

theorem filter_revise_revise : ∀ f : Option Expr,
    reviseFilter w' (reviseFilter w f) = reviseFilter (w.andThen w') f
  | none => by simp only [reviseFilter]
  | some e => by simp only [reviseFilter, e.revise_revise]
termination_by structural f => f

theorem Source.revise_revise : ∀ s : Source,
    (s.revise w).revise w' = s.revise (w.andThen w')
  | ⟨relation, joins⟩ => by
    simp only [Source.revise, relation.revise_revise, pieces_revise_revise joins]
termination_by structural s => s

theorem sources_revise_revise : ∀ ss : List Source,
    reviseSources w' (reviseSources w ss) = reviseSources (w.andThen w') ss
  | [] => by simp only [reviseSources]
  | s :: rest => by simp only [reviseSources, s.revise_revise, sources_revise_revise rest]
termination_by structural ss => ss

theorem Relation.revise_revise : ∀ r : Relation,
    (r.revise w).revise w' = r.revise (w.andThen w')
  | .table _ arguments suffix _ hints => by
    simp only [Relation.revise, pieces_revise_revise arguments, pieces_revise_revise suffix,
      pieces_revise_revise hints]
  | .derived _ q _ => by simp only [Relation.revise, q.revise_revise]
  | .rows call _ => by simp only [Relation.revise, pieces_revise_revise call]
  | .joined source _ => by simp only [Relation.revise, source.revise_revise]
termination_by structural r => r

theorem Insert.reviseParts_reviseParts : ∀ i : Insert,
    (i.reviseParts w).reviseParts w' = i.reviseParts (w.andThen w')
  | ⟨_, target, _, _, source, stead, partitions, conflict, returning⟩ => by
    simp only [Insert.reviseParts, target.revise_revise, rows_revise_revise source,
      pieces_revise_revise stead, pieces_revise_revise partitions, conflict.revise_revise,
      pieces_revise_revise returning]
termination_by structural i => i

theorem rows_revise_revise : ∀ o : Option Query,
    reviseRows w' (reviseRows w o) = reviseRows (w.andThen w') o
  | none => by simp only [reviseRows]
  | some q => by simp only [reviseRows, q.revise_revise]
termination_by structural o => o

theorem Target.revise_revise : ∀ t : Target,
    (t.revise w).revise w' = t.revise (w.andThen w')
  | .table _ => by simp only [Target.revise]
  | .function call => by simp only [Target.revise, pieces_revise_revise call]
termination_by structural t => t

theorem OnClause.revise_revise : ∀ c : OnClause,
    (c.revise w).revise w' = c.revise (w.andThen w')
  | .absent => by simp only [OnClause.revise]
  | .conflict _ action => by simp only [OnClause.revise, pieces_revise_revise action]
  | .duplicateKey assignments => by
    simp only [OnClause.revise, pieces_revise_revise assignments]
termination_by structural c => c

theorem Statement.revise_revise : ∀ s : Statement,
    (s.revise w).revise w' = s.revise (w.andThen w')
  | .query q => by simp only [Statement.revise, q.revise_revise]
  | .insert i => by
    simp only [Statement.revise, hw.insert, i.reviseParts_reviseParts, Revision.andThen]
  | .other pieces => by simp only [Statement.revise, pieces_revise_revise pieces]
termination_by structural s => s

end

end ReviseRevise

/-! ### Trees that a revision leaves as they are -/

/-- A revision that changes nothing at a node. -/
def Revision.Fixes (w : Revision) : Node → Prop
  | .select s => w.select s = s
  | .insert i => w.insert i = i

section Fixed

variable {w : Revision}

mutual

theorem Expr.revise_of_fixed : ∀ e : Expr, (∀ n ∈ e.nodes, w.Fixes n) → e.revise w = e
  | .ident _, _ => by simp only [Expr.revise]
  | .path _, _ => by simp only [Expr.revise]
  | .value _, _ => by simp only [Expr.revise]
  | .nested e, h => by
    simp only [Expr.nodes] at h
    simp only [Expr.revise, e.revise_of_fixed h]
  | .subquery q, h => by
    simp only [Expr.nodes] at h
    simp only [Expr.revise, q.revise_of_fixed h]
  | .unary _ e, h => by
    simp only [Expr.nodes] at h
    simp only [Expr.revise, e.revise_of_fixed h]
  | .binary left _ right, h => by
    simp only [Expr.nodes, List.forall_mem_append] at h
    obtain ⟨hl, hr⟩ := h
    simp only [Expr.revise, left.revise_of_fixed hl, right.revise_of_fixed hr]
  | .call _ arguments withinGroup filter window, h => by
    simp only [Expr.nodes, List.forall_mem_append] at h
    obtain ⟨⟨⟨ha, hf⟩, ho⟩, hg⟩ := h
    simp only [Expr.revise, pieces_revise_of_fixed arguments ha,
      pieces_revise_of_fixed withinGroup hg, pieces_revise_of_fixed filter hf,
      pieces_revise_of_fixed window ho]
  | .access root chain, h => by
    simp only [Expr.nodes, List.forall_mem_append] at h
    obtain ⟨hr, hc⟩ := h
    simp only [Expr.revise, root.revise_of_fixed hr, pieces_revise_of_fixed chain hc]
  | .trim _ what e, h => by
    simp only [Expr.nodes, List.forall_mem_append] at h
    obtain ⟨he, hw⟩ := h
    simp only [Expr.revise, what.revise_of_fixed hw, e.revise_of_fixed he]
  | .phrase pieces, h => by
    simp only [Expr.nodes] at h
    simp only [Expr.revise, pieces_revise_of_fixed pieces h]
termination_by structural e => e

theorem Piece.revise_of_fixed : ∀ p : Piece, (∀ n ∈ p.nodes, w.Fixes n) → p.revise w = p
  | .text _, _ => by simp only [Piece.revise]
  | .expr e, h => by
    simp only [Piece.nodes] at h
    simp only [Piece.revise, e.revise_of_fixed h]
  | .query q, h => by
    simp only [Piece.nodes] at h
    simp only [Piece.revise, q.revise_of_fixed h]
  | .statement s, h => by
    simp only [Piece.nodes] at h
    simp only [Piece.revise, s.revise_of_fixed h]
  | .relation r, h => by
    simp only [Piece.nodes] at h
    simp only [Piece.revise, r.revise_of_fixed h]
  | .crossed front back, h => by
    simp only [Piece.nodes, List.forall_mem_append] at h
    obtain ⟨he, hl⟩ := h
    simp only [Piece.revise, pieces_revise_of_fixed front hl, pieces_revise_of_fixed back he]
termination_by structural p => p

theorem pieces_revise_of_fixed : ∀ ps : List Piece, (∀ n ∈ nodesOfPieces ps, w.Fixes n) →
    revisePieces w ps = ps
  | [], _ => by simp only [revisePieces]
  | p :: rest, h => by
    simp only [nodesOfPieces, List.forall_mem_append] at h
    obtain ⟨hp, hr⟩ := h
    simp only [revisePieces, p.revise_of_fixed hp, pieces_revise_of_fixed rest hr]
termination_by structural ps => ps

theorem items_revise_of_fixed : ∀ items : List (List Piece),
    (∀ n ∈ nodesOfItems items, w.Fixes n) → reviseItems w items = items
  | [], _ => by simp only [reviseItems]
  | item :: rest, h => by
    simp only [nodesOfItems, List.forall_mem_append] at h
    obtain ⟨hi, hr⟩ := h
    simp only [reviseItems, pieces_revise_of_fixed item hi, items_revise_of_fixed rest hr]
termination_by structural items => items

theorem Query.revise_of_fixed : ∀ q : Query, (∀ n ∈ q.nodes, w.Fixes n) → q.revise w = q
  | ⟨preamble, body, tail⟩, h => by
    simp only [Query.nodes, List.forall_mem_append] at h
    obtain ⟨⟨hp, hb⟩, ht⟩ := h
    simp only [Query.revise, pieces_revise_of_fixed preamble hp, body.revise_of_fixed hb,
      pieces_revise_of_fixed tail ht]
termination_by structural q => q

theorem Body.revise_of_fixed : ∀ b : Body, (∀ n ∈ b.nodes, w.Fixes n) → b.revise w = b
  | .select s, h => by
    simp only [Body.nodes, List.forall_mem_append, List.forall_mem_singleton] at h
    obtain ⟨hi, hs⟩ := h
    simp only [Revision.Fixes] at hs
    simp only [Body.revise, s.reviseParts_of_fixed hi, hs]
  | .setOperation _ left right, h => by
    simp only [Body.nodes, List.forall_mem_append] at h
    obtain ⟨hl, hr⟩ := h
    simp only [Body.revise, left.revise_of_fixed hl, right.revise_of_fixed hr]
  | .query q, h => by
    simp only [Body.nodes] at h
    simp only [Body.revise, q.revise_of_fixed h]
  | .values rows, h => by
    simp only [Body.nodes] at h
    simp only [Body.revise, pieces_revise_of_fixed rows h]
  | .statement s, h => by
    simp only [Body.nodes] at h
    simp only [Body.revise, s.revise_of_fixed h]
  | .table _, _ => by simp only [Body.revise]
termination_by structural b => b

theorem Select.reviseParts_of_fixed : ∀ s : Select, (∀ n ∈ s.inner, w.Fixes n) →
    s.reviseParts w = s
  | ⟨_, quantifier, projection, _, sources, prefilter, filter, tail⟩, h => by
    simp only [Select.inner, List.forall_mem_append] at h
    obtain ⟨⟨⟨⟨⟨hq, hp⟩, hs⟩, hw⟩, hf⟩, ht⟩ := h
    simp only [Select.reviseParts, pieces_revise_of_fixed quantifier hq,
      items_revise_of_fixed projection hp, sources_revise_of_fixed sources hs,
      pieces_revise_of_fixed prefilter hw, filter_revise_of_fixed filter hf,
      pieces_revise_of_fixed tail ht]
termination_by structural s => s

theorem filter_revise_of_fixed : ∀ f : Option Expr, (∀ n ∈ nodesOfFilter f, w.Fixes n) →
    reviseFilter w f = f
  | none, _ => by simp only [reviseFilter]
  | some e, h => by
    simp only [nodesOfFilter] at h
    simp only [reviseFilter, e.revise_of_fixed h]
termination_by structural f => f

theorem Source.revise_of_fixed : ∀ s : Source, (∀ n ∈ s.nodes, w.Fixes n) → s.revise w = s
  | ⟨relation, joins⟩, h => by
    simp only [Source.nodes, List.forall_mem_append] at h
    obtain ⟨hr, hj⟩ := h
    simp only [Source.revise, relation.revise_of_fixed hr, pieces_revise_of_fixed joins hj]
termination_by structural s => s

theorem sources_revise_of_fixed : ∀ ss : List Source, (∀ n ∈ nodesOfSources ss, w.Fixes n) →
    reviseSources w ss = ss
  | [], _ => by simp only [reviseSources]
  | s :: rest, h => by
    simp only [nodesOfSources, List.forall_mem_append] at h
    obtain ⟨hs, hr⟩ := h
    simp only [reviseSources, s.revise_of_fixed hs, sources_revise_of_fixed rest hr]
termination_by structural ss => ss

theorem Relation.revise_of_fixed : ∀ r : Relation, (∀ n ∈ r.nodes, w.Fixes n) →
    r.revise w = r
  | .table _ arguments suffix _ hints, h => by
    simp only [Relation.nodes, List.forall_mem_append] at h
    obtain ⟨⟨ha, hs⟩, hh⟩ := h
    simp only [Relation.revise, pieces_revise_of_fixed arguments ha,
      pieces_revise_of_fixed suffix hs, pieces_revise_of_fixed hints hh]
  | .derived _ q _, h => by
    simp only [Relation.nodes] at h
    simp only [Relation.revise, q.revise_of_fixed h]
  | .rows call _, h => by
    simp only [Relation.nodes] at h
    simp only [Relation.revise, pieces_revise_of_fixed call h]
  | .joined source _, h => by
    simp only [Relation.nodes] at h
    simp only [Relation.revise, source.revise_of_fixed h]
termination_by structural r => r

theorem Insert.reviseParts_of_fixed : ∀ i : Insert, (∀ n ∈ i.inner, w.Fixes n) →
    i.reviseParts w = i
  | ⟨_, target, _, _, source, stead, partitions, conflict, returning⟩, h => by
    simp only [Insert.inner, List.forall_mem_append] at h
    obtain ⟨⟨⟨⟨⟨ht, hs⟩, hd⟩, hp⟩, hc⟩, hr⟩ := h
    simp only [Insert.reviseParts, target.revise_of_fixed ht, rows_revise_of_fixed source hs,
      pieces_revise_of_fixed stead hd, pieces_revise_of_fixed partitions hp,
      conflict.revise_of_fixed hc, pieces_revise_of_fixed returning hr]
termination_by structural i => i

theorem rows_revise_of_fixed : ∀ o : Option Query, (∀ n ∈ nodesOfRows o, w.Fixes n) →
    reviseRows w o = o
  | none, _ => by simp only [reviseRows]
  | some q, h => by
    simp only [nodesOfRows] at h
    simp only [reviseRows, q.revise_of_fixed h]
termination_by structural o => o

theorem Target.revise_of_fixed : ∀ t : Target, (∀ n ∈ t.nodes, w.Fixes n) → t.revise w = t
  | .table _, _ => by simp only [Target.revise]
  | .function call, h => by
    simp only [Target.nodes] at h
    simp only [Target.revise, pieces_revise_of_fixed call h]
termination_by structural t => t

theorem OnClause.revise_of_fixed : ∀ c : OnClause, (∀ n ∈ c.nodes, w.Fixes n) →
    c.revise w = c
  | .absent, _ => by simp only [OnClause.revise]
  | .conflict _ action, h => by
    simp only [OnClause.nodes] at h
    simp only [OnClause.revise, pieces_revise_of_fixed action h]
  | .duplicateKey assignments, h => by
    simp only [OnClause.nodes] at h
    simp only [OnClause.revise, pieces_revise_of_fixed assignments h]
termination_by structural c => c

theorem Statement.revise_of_fixed : ∀ s : Statement, (∀ n ∈ s.nodes, w.Fixes n) →
    s.revise w = s
  | .query q, h => by
    simp only [Statement.nodes] at h
    simp only [Statement.revise, q.revise_of_fixed h]
  | .insert i, h => by
    simp only [Statement.nodes, List.forall_mem_append, List.forall_mem_singleton] at h
    obtain ⟨hp, hi⟩ := h
    simp only [Revision.Fixes] at hi
    simp only [Statement.revise, i.reviseParts_of_fixed hp, hi]
  | .other pieces, h => by
    simp only [Statement.nodes] at h
    simp only [Statement.revise, pieces_revise_of_fixed pieces h]
termination_by structural s => s

end

end Fixed

theorem Revision.idle_fixes (n : Node) : idle.Fixes n := by
  cases n <;> rfl

/-- The idle revision keeps a SELECT. -/
@[simp] theorem Select.reviseParts_idle (s : Select) : s.reviseParts .idle = s :=
  s.reviseParts_of_fixed fun n _ => Revision.idle_fixes n

/-- The idle revision keeps a phrase. -/
@[simp] theorem pieces_revise_idle (ps : List Piece) : revisePieces .idle ps = ps :=
  pieces_revise_of_fixed ps fun n _ => Revision.idle_fixes n

/-- The idle revision keeps a statement. -/
@[simp] theorem Statement.revise_idle (s : Statement) : s.revise .idle = s :=
  s.revise_of_fixed fun n _ => Revision.idle_fixes n

end RowScope.Sql
