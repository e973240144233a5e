/-
The nodes of a tree that enforcing a rule may change.

`nodes` lists every SELECT and every INSERT of a tree, however deep it stands, and so is
the reading of "at any depth" that the statements about whole trees rest on.  It knows
nothing of queries, bodies or set operations: a SELECT is listed because it is there.
The list is in post-order, a node behind the nodes inside it, and it takes the parts of
a node in the order in which a walk visits them.

A node that is listed brings the nodes inside it with it (`nodes_closed`).
-/
import Mathlib.Tactic.Common
import RowScope.Sql.Tree.Walk

namespace RowScope.Sql

/-- A node that may be changed. -/
inductive Node where
  | select (s : Select)
  | insert (i : Insert)

namespace Node

/-- The SELECT that a node is. -/
def select? : Node → Option Select
  | select s => some s
  | insert _ => none

/-- The INSERT that a node is. -/
def insert? : Node → Option Insert
  | select _ => none
  | insert i => some i

end Node

/-! ### Enumeration -/

mutual

/-- The nodes of an expression. -/
def Expr.nodes : Expr → List Node
  | .ident _ => []
  | .path _ => []
  | .value _ => []
  | .nested e => e.nodes
  | .subquery q => q.nodes
  | .unary _ e => e.nodes
  | .binary left _ right => left.nodes ++ right.nodes
  | .call _ arguments withinGroup filter window =>
    nodesOfPieces arguments ++ nodesOfPieces filter ++ nodesOfPieces window
      ++ nodesOfPieces withinGroup
  | .access root chain => root.nodes ++ nodesOfPieces chain
  | .trim _ what e => e.nodes ++ what.nodes
  | .phrase pieces => nodesOfPieces pieces
termination_by structural e => e

/-- The nodes of a piece of a phrase. -/
def Piece.nodes : Piece → List Node
  | .text _ => []
  | .expr e => e.nodes
  | .query q => q.nodes
  | .statement s => s.nodes
  | .relation r => r.nodes
  | .crossed front back => nodesOfPieces back ++ nodesOfPieces front
termination_by structural p => p

/-- The nodes of a phrase. -/
def nodesOfPieces : List Piece → List Node
  | [] => []
  | p :: rest => p.nodes ++ nodesOfPieces rest
termination_by structural ps => ps

/-- The nodes of a list of phrases. -/
def nodesOfItems : List (List Piece) → List Node
  | [] => []
  | item :: rest => nodesOfPieces item ++ nodesOfItems rest
termination_by structural items => items

/-- The nodes of a query. -/
def Query.nodes : Query → List Node
  | ⟨preamble, body, tail⟩ => nodesOfPieces preamble ++ body.nodes ++ nodesOfPieces tail
termination_by structural q => q

/-- The nodes of a body. -/
def Body.nodes : Body → List Node
  | .select s => s.inner ++ [.select s]
  | .setOperation _ left right => left.nodes ++ right.nodes
  | .query q => q.nodes
  | .values rows => nodesOfPieces rows
  | .statement s => s.nodes
  | .table _ => []
termination_by structural b => b

/-- The nodes inside a SELECT. -/
def Select.inner : Select → List Node
  | ⟨_, quantifier, projection, _, sources, prefilter, filter, tail⟩ =>
    nodesOfPieces quantifier ++ nodesOfItems projection ++ nodesOfSources sources
      ++ nodesOfPieces prefilter ++ nodesOfFilter filter ++ nodesOfPieces tail
termination_by structural s => s

/-- The nodes of a filter. -/
def nodesOfFilter : Option Expr → List Node
  | none => []
  | some e => e.nodes
termination_by structural f => f

/-- The nodes of a FROM item. -/
def Source.nodes : Source → List Node
  | ⟨relation, joins⟩ => relation.nodes ++ nodesOfPieces joins
termination_by structural s => s

/-- The nodes of a FROM list. -/
def nodesOfSources : List Source → List Node
  | [] => []
  | s :: rest => s.nodes ++ nodesOfSources rest
termination_by structural ss => ss

/-- The nodes of a relation. -/
def Relation.nodes : Relation → List Node
  | .table _ arguments suffix _ hints =>
    nodesOfPieces arguments ++ nodesOfPieces suffix ++ nodesOfPieces hints
  | .derived _ q _ => q.nodes
  | .rows call _ => nodesOfPieces call
  | .joined source _ => source.nodes
termination_by structural r => r

/-- The nodes inside an INSERT. -/
def Insert.inner : Insert → List Node
  | ⟨_, target, _, _, source, stead, partitions, conflict, returning⟩ =>
    target.nodes ++ nodesOfRows source ++ nodesOfPieces stead ++ nodesOfPieces partitions
      ++ conflict.nodes ++ nodesOfPieces returning
termination_by structural i => i

/-- The nodes of the rows of an INSERT. -/
def nodesOfRows : Option Query → List Node
  | none => []
  | some q => q.nodes
termination_by structural o => o

/-- The nodes of an INSERT's target. -/
def Target.nodes : Target → List Node
  | .table _ => []
  | .function call => nodesOfPieces call
termination_by structural t => t

/-- The nodes of an ON clause. -/
def OnClause.nodes : OnClause → List Node
  | .absent => []
  | .conflict _ action => nodesOfPieces action
  | .duplicateKey assignments => nodesOfPieces assignments
termination_by structural c => c

/-- The nodes of a statement. -/
def Statement.nodes : Statement → List Node
  | .query q => q.nodes
  | .insert i => i.inner ++ [.insert i]
  | .other pieces => nodesOfPieces pieces
termination_by structural s => s

end

/-- The SELECTs of a statement. -/
def Statement.selects (s : Statement) : List Select := s.nodes.filterMap Node.select?

/-- The INSERTs of a statement, each behind those inside it. -/
def Statement.inserts (s : Statement) : List Insert := s.nodes.filterMap Node.insert?

theorem Statement.mem_selects {s : Statement} {b : Select} :
    b ∈ s.selects ↔ Node.select b ∈ s.nodes := by
  rw [Statement.selects, List.mem_filterMap]
  constructor
  · rintro ⟨n, hn, hsel⟩
    cases n with
    | select b' =>
      cases hsel
      exact hn
    | insert i => cases hsel
  · exact fun hb => ⟨.select b, hb, rfl⟩

theorem Statement.mem_inserts {s : Statement} {i : Insert} :
    i ∈ s.inserts ↔ Node.insert i ∈ s.nodes := by
  rw [Statement.inserts, List.mem_filterMap]
  constructor
  · rintro ⟨n, hn, hins⟩
    cases n with
    | select b => cases hins
    | insert i' =>
      cases hins
      exact hn
  · exact fun hi => ⟨.insert i, hi, rfl⟩

theorem OnClause.nodes_subset_inner (i : Insert) : ∀ n ∈ i.conflict.nodes, n ∈ i.inner := by
  obtain ⟨verb, target, aliased, columns, source, stead, partitions, conflict, returning⟩ := i
  intro n hn
  simp only [Insert.inner, List.mem_append]
  exact Or.inl (Or.inr hn)

/-! ### Nodes inside nodes -/

/-- The nodes inside a node. -/
def Node.inner : Node → List Node
  | select s => s.inner
  | insert i => i.inner

/-- With a node, the nodes inside it are in the list as well. -/
def Closed (ns : List Node) : Prop := ∀ n ∈ ns, ∀ m ∈ n.inner, m ∈ ns

theorem closed_nil : Closed [] := by simp [Closed]

theorem closed_append {ms ns : List Node} (hm : Closed ms) (hn : Closed ns) :
    Closed (ms ++ ns) := by
  intro n hmem k hk
  rcases List.mem_append.mp hmem with h | h
  · exact List.mem_append_left _ (hm n h k hk)
  · exact List.mem_append_right _ (hn n h k hk)

/-- A closed list stays closed when the node around all of it is put behind it. -/
theorem closed_snoc {n : Node} (h : Closed n.inner) : Closed (n.inner ++ [n]) := by
  intro m hmem k hk
  rcases List.mem_append.mp hmem with hm | hm
  · exact List.mem_append_left _ (h m hm k hk)
  · rw [List.mem_singleton.mp hm] at hk
    exact List.mem_append_left _ hk

mutual

theorem Expr.nodes_closed : ∀ e : Expr, Closed e.nodes
  | .ident _ => by simp only [Expr.nodes, closed_nil]
  | .path _ => by simp only [Expr.nodes, closed_nil]
  | .value _ => by simp only [Expr.nodes, closed_nil]
  | .nested e => by simp only [Expr.nodes, e.nodes_closed]
  | .subquery q => by simp only [Expr.nodes, q.nodes_closed]
  | .unary _ e => by simp only [Expr.nodes, e.nodes_closed]
  | .binary left _ right => by
    simp only [Expr.nodes, closed_append, left.nodes_closed, right.nodes_closed]
  | .call _ arguments withinGroup filter window => by
    simp only [Expr.nodes]
    refine closed_append (closed_append (closed_append ?_ ?_) ?_) ?_
    exacts [pieces_closed arguments, pieces_closed filter, pieces_closed window,
      pieces_closed withinGroup]
  | .access root chain => by
    simp only [Expr.nodes, closed_append, root.nodes_closed, pieces_closed chain]
  | .trim _ what e => by simp only [Expr.nodes, closed_append, what.nodes_closed, e.nodes_closed]
  | .phrase pieces => by simp only [Expr.nodes, pieces_closed pieces]
termination_by structural e => e

theorem Piece.nodes_closed : ∀ p : Piece, Closed p.nodes
  | .text _ => by simp only [Piece.nodes, closed_nil]
  | .expr e => by simp only [Piece.nodes, e.nodes_closed]
  | .query q => by simp only [Piece.nodes, q.nodes_closed]
  | .statement s => by simp only [Piece.nodes, s.nodes_closed]
  | .relation r => by simp only [Piece.nodes, r.nodes_closed]
  | .crossed front back => by
    simp only [Piece.nodes, closed_append, pieces_closed front, pieces_closed back]
termination_by structural p => p

theorem pieces_closed : ∀ ps : List Piece, Closed (nodesOfPieces ps)
  | [] => by simp only [nodesOfPieces, closed_nil]
  | p :: rest => by simp only [nodesOfPieces, closed_append, p.nodes_closed, pieces_closed rest]
termination_by structural ps => ps

theorem items_closed : ∀ items : List (List Piece), Closed (nodesOfItems items)
  | [] => by simp only [nodesOfItems, closed_nil]
  | item :: rest => by
    simp only [nodesOfItems, closed_append, pieces_closed item, items_closed rest]
termination_by structural items => items

theorem Query.nodes_closed : ∀ q : Query, Closed q.nodes
  | ⟨preamble, body, tail⟩ => by
    simp only [Query.nodes, closed_append, pieces_closed preamble, body.nodes_closed,
      pieces_closed tail]
termination_by structural q => q

theorem Body.nodes_closed : ∀ b : Body, Closed b.nodes
  | .select s => by
    simp only [Body.nodes]
    exact closed_snoc (n := .select s) s.inner_closed
  | .setOperation _ left right => by
    simp only [Body.nodes, closed_append, left.nodes_closed, right.nodes_closed]
  | .query q => by simp only [Body.nodes, q.nodes_closed]
  | .values rows => by simp only [Body.nodes, pieces_closed rows]
  | .statement s => by simp only [Body.nodes, s.nodes_closed]
  | .table _ => by simp only [Body.nodes, closed_nil]
termination_by structural b => b

theorem Select.inner_closed : ∀ s : Select, Closed s.inner
  | ⟨_, quantifier, projection, _, sources, prefilter, filter, tail⟩ => by
    simp only [Select.inner]
    refine closed_append (closed_append (closed_append (closed_append (closed_append
      ?_ ?_) ?_) ?_) ?_) ?_
    exacts [pieces_closed quantifier, items_closed projection, sources_closed sources,
      pieces_closed prefilter, filter_closed filter, pieces_closed tail]
termination_by structural s => s

theorem filter_closed : ∀ f : Option Expr, Closed (nodesOfFilter f)
  | none => by simp only [nodesOfFilter, closed_nil]
  | some e => by simp only [nodesOfFilter, e.nodes_closed]
termination_by structural f => f

theorem Source.nodes_closed : ∀ s : Source, Closed s.nodes
  | ⟨relation, joins⟩ => by
    simp only [Source.nodes, closed_append, relation.nodes_closed, pieces_closed joins]
termination_by structural s => s

theorem sources_closed : ∀ ss : List Source, Closed (nodesOfSources ss)
  | [] => by simp only [nodesOfSources, closed_nil]
  | s :: rest => by simp only [nodesOfSources, closed_append, s.nodes_closed, sources_closed rest]
termination_by structural ss => ss

theorem Relation.nodes_closed : ∀ r : Relation, Closed r.nodes
  | .table _ arguments suffix _ hints => by
    simp only [Relation.nodes, closed_append, pieces_closed arguments, pieces_closed suffix,
      pieces_closed hints]
  | .derived _ q _ => by simp only [Relation.nodes, q.nodes_closed]
  | .rows call _ => by simp only [Relation.nodes, pieces_closed call]
  | .joined source _ => by simp only [Relation.nodes, source.nodes_closed]
termination_by structural r => r

theorem Insert.inner_closed : ∀ i : Insert, Closed i.inner
  | ⟨_, target, _, _, source, stead, partitions, conflict, returning⟩ => by
    simp only [Insert.inner]
    refine closed_append (closed_append (closed_append (closed_append (closed_append
      ?_ ?_) ?_) ?_) ?_) ?_
    exacts [target.nodes_closed, rows_closed source, pieces_closed stead,
      pieces_closed partitions, conflict.nodes_closed, pieces_closed returning]
termination_by structural i => i

theorem rows_closed : ∀ o : Option Query, Closed (nodesOfRows o)
  | none => by simp only [nodesOfRows, closed_nil]
  | some q => by simp only [nodesOfRows, q.nodes_closed]
termination_by structural o => o

theorem Target.nodes_closed : ∀ t : Target, Closed t.nodes
  | .table _ => by simp only [Target.nodes, closed_nil]
  | .function call => by simp only [Target.nodes, pieces_closed call]
termination_by structural t => t

theorem OnClause.nodes_closed : ∀ c : OnClause, Closed c.nodes
  | .absent => by simp only [OnClause.nodes, closed_nil]
  | .conflict _ action => by simp only [OnClause.nodes, pieces_closed action]
  | .duplicateKey assignments => by simp only [OnClause.nodes, pieces_closed assignments]
termination_by structural c => c

theorem Statement.nodes_closed : ∀ s : Statement, Closed s.nodes
  | .query q => by simp only [Statement.nodes, q.nodes_closed]
  | .insert i => by
    simp only [Statement.nodes]
    exact closed_snoc (n := .insert i) i.inner_closed
  | .other pieces => by simp only [Statement.nodes, pieces_closed pieces]
termination_by structural s => s

end

end RowScope.Sql
