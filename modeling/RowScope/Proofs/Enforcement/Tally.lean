/-
What the events of a walk come to.

The events of a walk are those of its visitor, at the bodies of queries and at INSERTs.  They
do not come in the order in which the nodes are listed, for a body is changed behind all that
follows it in its query, so it is not their order that is described but their weight.  Give
each kind of event a weight of its own: the events of a walk weigh as much as those that the
visitor would record at each node by itself (`Statement.walk_yields`).

A node is weighed with its parts revised, since that is how the visitor finds it.
-/
import Mathlib.Algebra.BigOperators.Group.List.Basic
import Mathlib.Algebra.GroupWithZero.Nat
import RowScope.Proofs.Enforcement.Walk

namespace RowScope

open Sql Enforcement

/-- How much events weigh together. -/
def Enforcement.weigh (μ : Event → Nat) (events : List Event) : Nat := (events.map μ).sum

namespace Sql

/-- A node whose parts have been revised. -/
def Node.reviseParts (w : Revision) : Node → Node
  | .select s => .select (s.reviseParts w)
  | .insert i => .insert (i.reviseParts w)

/-- How much nodes weigh, each with its parts revised. -/
def load (w : Revision) (weight : Node → Nat) (ns : List Node) : Nat :=
  (ns.map fun n => weight (n.reviseParts w)).sum

/-- The SELECTs of a body that belong to its own query. -/
def Body.ownSelects : Body → List Select
  | .select s => [s]
  | .setOperation _ left right => left.ownSelects ++ right.ownSelects
  | .query _ | .values _ | .statement _ | .table _ => []
termination_by structural b => b

/-- What the events of a visitor weigh at the nodes that it changes. -/
structure Visitor.Weighs (v : Visitor Outcome) (μ : Event → Nat) (weight : Node → Nat) : Prop where
  body : ∀ b, weigh μ (v.body b).events = (b.ownSelects.map fun s => weight (.select s)).sum
  insert : ∀ i, weigh μ (v.insert i).events = weight (.insert i)

section Weights

variable {μ : Event → Nat} {w : Revision} {weight : Node → Nat}

@[simp] theorem weigh_nil : weigh μ [] = 0 := rfl

@[simp] theorem weigh_append (xs ys : List Event) :
    weigh μ (xs ++ ys) = weigh μ xs + weigh μ ys := by
  rw [weigh, List.map_append, List.sum_append]
  rfl

theorem weigh_eq_zero {events : List Event} (h : ∀ e ∈ events, μ e = 0) : weigh μ events = 0 := by
  refine List.sum_eq_zero fun k hk => ?_
  obtain ⟨e, he, rfl⟩ := List.mem_map.mp hk
  exact h e he

@[simp] theorem load_nil : load w weight [] = 0 := rfl

@[simp] theorem load_append (ms ns : List Node) :
    load w weight (ms ++ ns) = load w weight ms + load w weight ns := by
  rw [load, List.map_append, List.sum_append]
  rfl

end Weights

/-! ### Outcomes with their weight -/

/-- An outcome that succeeds, with what its events weigh. -/
structure Yields {α : Type} (μ : Event → Nat) (x : Outcome α) (a : α) (k : Nat) : Prop where
  result : x.result = .ok a
  weight : weigh μ x.events = k

namespace Yields

variable {α β : Type} {μ : Event → Nat}

protected theorem pure (a : α) : Yields μ (pure a) a 0 := ⟨rfl, rfl⟩

protected theorem bind {x : Outcome α} {f : α → Outcome β} {a : α} {b : β} {k l : Nat}
    (hx : Yields μ x a k) (hf : Yields μ (f a) b l) : Yields μ (x >>= f) b (k + l) where
  result := by rw [Outcome.result_bind, hx.result, ok_bind, hf.result]
  weight := by rw [Outcome.events_bind_of_ok hx.result, weigh_append, hx.weight, hf.weight]

protected theorem map {x : Outcome α} {a : α} {k : Nat} (hx : Yields μ x a k) (f : α → β) :
    Yields μ (x >>= fun a => pure (f a)) (f a) k := by
  refine Yields.bind (a := a) (l := 0) hx ?_
  exact .pure (f a)

end Yields

/-! ### Walks -/

section Walk

set_option linter.unusedSectionVars false

variable {v : Visitor Outcome} {w : Revision} {refuse : Insert → Option Unsupported}
variable {μ : Event → Nat} {weight : Node → Nat}
variable (h : v.DescribedBy w refuse) (hv : v.Weighs μ weight)
include h hv

mutual

theorem Expr.walk_yields : ∀ e : Expr, (∀ n ∈ e.nodes, refusalAt refuse n = none) →
    Yields μ (e.walk v) (e.revise w) (load w weight e.nodes)
  | .ident _, _ => by
    simp only [Expr.walk, Expr.nodes, Expr.revise, load_nil]
    exact .pure _
  | .path _, _ => by
    simp only [Expr.walk, Expr.nodes, Expr.revise, load_nil]
    exact .pure _
  | .value _, _ => by
    simp only [Expr.walk, Expr.nodes, Expr.revise, load_nil]
    exact .pure _
  | .nested e, hn => by
    simp only [Expr.walk, Expr.nodes, Expr.revise] at hn ⊢
    exact (e.walk_yields hn).map _
  | .subquery q, hn => by
    simp only [Expr.walk, Expr.nodes, Expr.revise] at hn ⊢
    exact (q.walk_yields hn).map _
  | .unary _ e, hn => by
    simp only [Expr.walk, Expr.nodes, Expr.revise] at hn ⊢
    exact (e.walk_yields hn).map _
  | .binary left _ right, hn => by
    simp only [Expr.walk, Expr.nodes, Expr.revise, List.forall_mem_append, load_append] at hn ⊢
    exact (left.walk_yields hn.1).bind ((right.walk_yields hn.2).map _)
  | .call _ arguments withinGroup filter window, hn => by
    simp only [Expr.walk, Expr.nodes, Expr.revise, List.forall_mem_append, load_append,
      Nat.add_assoc] at hn ⊢
    obtain ⟨⟨⟨harguments, hfilter⟩, hwindow⟩, hwithin⟩ := hn
    exact (pieces_walk_yields arguments harguments).bind <|
      (pieces_walk_yields filter hfilter).bind <| (pieces_walk_yields window hwindow).bind <|
      (pieces_walk_yields withinGroup hwithin).map _
  | .access root chain, hn => by
    simp only [Expr.walk, Expr.nodes, Expr.revise, List.forall_mem_append, load_append] at hn ⊢
    exact (root.walk_yields hn.1).bind ((pieces_walk_yields chain hn.2).map _)
  | .trim _ what e, hn => by
    simp only [Expr.walk, Expr.nodes, Expr.revise, List.forall_mem_append, load_append] at hn ⊢
    exact (e.walk_yields hn.1).bind ((what.walk_yields hn.2).map _)
  | .phrase pieces, hn => by
    simp only [Expr.walk, Expr.nodes, Expr.revise] at hn ⊢
    exact (pieces_walk_yields pieces hn).map _
termination_by structural e => e

theorem Piece.walk_yields : ∀ p : Piece, (∀ n ∈ p.nodes, refusalAt refuse n = none) →
    Yields μ (p.walk v) (p.revise w) (load w weight p.nodes)
  | .text _, _ => by
    simp only [Piece.walk, Piece.nodes, Piece.revise, load_nil]
    exact .pure _
  | .expr e, hn => by
    simp only [Piece.walk, Piece.nodes, Piece.revise] at hn ⊢
    exact (e.walk_yields hn).map _
  | .query q, hn => by
    simp only [Piece.walk, Piece.nodes, Piece.revise] at hn ⊢
    exact (q.walk_yields hn).map _
  | .statement s, hn => by
    simp only [Piece.walk, Piece.nodes, Piece.revise] at hn ⊢
    exact (s.walk_yields hn).map _
  | .relation r, hn => by
    simp only [Piece.walk, Piece.nodes, Piece.revise] at hn ⊢
    exact (r.walk_yields hn).map _
  | .crossed front back, hn => by
    simp only [Piece.walk, Piece.nodes, Piece.revise, List.forall_mem_append, load_append] at hn ⊢
    exact (pieces_walk_yields back hn.1).bind ((pieces_walk_yields front hn.2).map _)
termination_by structural p => p

theorem pieces_walk_yields : ∀ ps : List Piece,
    (∀ n ∈ nodesOfPieces ps, refusalAt refuse n = none) →
    Yields μ (walkPieces v ps) (revisePieces w ps) (load w weight (nodesOfPieces ps))
  | [], _ => by
    simp only [walkPieces, nodesOfPieces, revisePieces, load_nil]
    exact .pure _
  | p :: rest, hn => by
    simp only [walkPieces, nodesOfPieces, revisePieces, List.forall_mem_append,
      load_append] at hn ⊢
    exact (p.walk_yields hn.1).bind ((pieces_walk_yields rest hn.2).map _)
termination_by structural ps => ps

theorem items_walk_yields : ∀ items : List (List Piece),
    (∀ n ∈ nodesOfItems items, refusalAt refuse n = none) →
    Yields μ (walkItems v items) (reviseItems w items) (load w weight (nodesOfItems items))
  | [], _ => by
    simp only [walkItems, nodesOfItems, reviseItems, load_nil]
    exact .pure _
  | item :: rest, hn => by
    simp only [walkItems, nodesOfItems, reviseItems, List.forall_mem_append, load_append] at hn ⊢
    exact (pieces_walk_yields item hn.1).bind ((items_walk_yields rest hn.2).map _)
termination_by structural items => items

theorem Query.walk_yields : ∀ q : Query, (∀ n ∈ q.nodes, refusalAt refuse n = none) →
    Yields μ (q.walk v) (q.revise w) (load w weight q.nodes)
  | ⟨preamble, body, tail⟩, hn => by
    simp only [Query.walk, Query.nodes, Query.revise, List.forall_mem_append, load_append] at hn ⊢
    obtain ⟨k, hbody, hk⟩ := body.walk_yields hn.1.2
    have hchanged : Yields μ (v.body (body.reviseParts w)) (body.revise w)
        ((body.reviseParts w).ownSelects.map fun s => weight (.select s)).sum :=
      ⟨by rw [h.body, Body.onSelects_reviseParts], hv.body _⟩
    rw [← hk, Nat.add_assoc, Nat.add_assoc, Nat.add_comm _ (load w weight (nodesOfPieces tail))]
    exact (pieces_walk_yields preamble hn.1.1).bind <| hbody.bind <|
      (pieces_walk_yields tail hn.2).bind <| hchanged.map _
termination_by structural q => q

/-- What the SELECTs of a body weigh is left to the query that the body belongs to. -/
theorem Body.walk_yields : ∀ b : Body, (∀ n ∈ b.nodes, refusalAt refuse n = none) →
    ∃ k, Yields μ (b.walk v) (b.reviseParts w) k ∧
      k + ((b.reviseParts w).ownSelects.map fun s => weight (.select s)).sum
        = load w weight b.nodes
  | .select s, hn => by
    simp only [Body.walk, Body.nodes, Body.reviseParts, Body.ownSelects, List.forall_mem_append,
      load_append] at hn ⊢
    exact ⟨_, (s.walk_yields hn.1).map _, by simp [load, Node.reviseParts]⟩
  | .setOperation _ left right, hn => by
    simp only [Body.walk, Body.nodes, Body.reviseParts, Body.ownSelects, List.forall_mem_append,
      load_append, List.map_append, List.sum_append] at hn ⊢
    obtain ⟨k, hleft, hk⟩ := left.walk_yields hn.1
    obtain ⟨l, hright, hl⟩ := right.walk_yields hn.2
    exact ⟨k + l, hleft.bind (hright.map _), by omega⟩
  | .query q, hn => by
    simp only [Body.walk, Body.nodes, Body.reviseParts, Body.ownSelects] at hn ⊢
    exact ⟨_, (q.walk_yields hn).map _, rfl⟩
  | .values rows, hn => by
    simp only [Body.walk, Body.nodes, Body.reviseParts, Body.ownSelects] at hn ⊢
    exact ⟨_, (pieces_walk_yields rows hn).map _, rfl⟩
  | .statement s, hn => by
    simp only [Body.walk, Body.nodes, Body.reviseParts, Body.ownSelects] at hn ⊢
    exact ⟨_, (s.walk_yields hn).map _, rfl⟩
  | .table _, _ => by
    simp only [Body.walk, Body.nodes, Body.reviseParts, Body.ownSelects]
    exact ⟨0, .pure _, rfl⟩
termination_by structural b => b

theorem Select.walk_yields : ∀ s : Select, (∀ n ∈ s.inner, refusalAt refuse n = none) →
    Yields μ (s.walk v) (s.reviseParts w) (load w weight s.inner)
  | ⟨_, quantifier, projection, _, sources, prefilter, filter, tail⟩, hn => by
    simp only [Select.walk, Select.inner, Select.reviseParts, List.forall_mem_append, load_append,
      Nat.add_assoc] at hn ⊢
    obtain ⟨⟨⟨⟨⟨hquantifier, hprojection⟩, hsources⟩, hprefilter⟩, hfilter⟩, htail⟩ := hn
    exact (pieces_walk_yields quantifier hquantifier).bind <|
      (items_walk_yields projection hprojection).bind <|
      (sources_walk_yields sources hsources).bind <|
      (pieces_walk_yields prefilter hprefilter).bind <| (filter_walk_yields filter hfilter).bind <|
      (pieces_walk_yields tail htail).map _
termination_by structural s => s

theorem filter_walk_yields : ∀ f : Option Expr,
    (∀ n ∈ nodesOfFilter f, refusalAt refuse n = none) →
    Yields μ (walkFilter v f) (reviseFilter w f) (load w weight (nodesOfFilter f))
  | none, _ => by
    simp only [walkFilter, nodesOfFilter, reviseFilter, load_nil]
    exact .pure _
  | some e, hn => by
    simp only [walkFilter, nodesOfFilter, reviseFilter] at hn ⊢
    exact (e.walk_yields hn).map _
termination_by structural f => f

theorem Source.walk_yields : ∀ s : Source, (∀ n ∈ s.nodes, refusalAt refuse n = none) →
    Yields μ (s.walk v) (s.revise w) (load w weight s.nodes)
  | ⟨relation, joins⟩, hn => by
    simp only [Source.walk, Source.nodes, Source.revise, List.forall_mem_append,
      load_append] at hn ⊢
    exact (relation.walk_yields hn.1).bind ((pieces_walk_yields joins hn.2).map _)
termination_by structural s => s

theorem sources_walk_yields : ∀ ss : List Source,
    (∀ n ∈ nodesOfSources ss, refusalAt refuse n = none) →
    Yields μ (walkSources v ss) (reviseSources w ss) (load w weight (nodesOfSources ss))
  | [], _ => by
    simp only [walkSources, nodesOfSources, reviseSources, load_nil]
    exact .pure _
  | s :: rest, hn => by
    simp only [walkSources, nodesOfSources, reviseSources, List.forall_mem_append,
      load_append] at hn ⊢
    exact (s.walk_yields hn.1).bind ((sources_walk_yields rest hn.2).map _)
termination_by structural ss => ss

theorem Relation.walk_yields : ∀ r : Relation, (∀ n ∈ r.nodes, refusalAt refuse n = none) →
    Yields μ (r.walk v) (r.revise w) (load w weight r.nodes)
  | .table _ arguments suffix _ hints, hn => by
    simp only [Relation.walk, Relation.nodes, Relation.revise, List.forall_mem_append, load_append,
      Nat.add_assoc] at hn ⊢
    exact (pieces_walk_yields arguments hn.1.1).bind <|
      (pieces_walk_yields suffix hn.1.2).bind <| (pieces_walk_yields hints hn.2).map _
  | .derived _ q _, hn => by
    simp only [Relation.walk, Relation.nodes, Relation.revise] at hn ⊢
    exact (q.walk_yields hn).map _
  | .rows call _, hn => by
    simp only [Relation.walk, Relation.nodes, Relation.revise] at hn ⊢
    exact (pieces_walk_yields call hn).map _
  | .joined source _, hn => by
    simp only [Relation.walk, Relation.nodes, Relation.revise] at hn ⊢
    exact (source.walk_yields hn).map _
termination_by structural r => r

theorem Insert.walk_yields : ∀ i : Insert, (∀ n ∈ i.inner, refusalAt refuse n = none) →
    Yields μ (i.walk v) (i.reviseParts w) (load w weight i.inner)
  | ⟨_, target, _, _, source, stead, partitions, conflict, returning⟩, hn => by
    simp only [Insert.walk, Insert.inner, Insert.reviseParts, List.forall_mem_append, load_append,
      Nat.add_assoc] at hn ⊢
    obtain ⟨⟨⟨⟨⟨htarget, hsource⟩, hstead⟩, hpartitions⟩, hconflict⟩, hreturning⟩ := hn
    exact (target.walk_yields htarget).bind <| (rows_walk_yields source hsource).bind <|
      (pieces_walk_yields stead hstead).bind <| (pieces_walk_yields partitions hpartitions).bind <|
      (conflict.walk_yields hconflict).bind <| (pieces_walk_yields returning hreturning).map _
termination_by structural i => i

theorem rows_walk_yields : ∀ o : Option Query,
    (∀ n ∈ nodesOfRows o, refusalAt refuse n = none) →
    Yields μ (walkRows v o) (reviseRows w o) (load w weight (nodesOfRows o))
  | none, _ => by
    simp only [walkRows, nodesOfRows, reviseRows, load_nil]
    exact .pure _
  | some q, hn => by
    simp only [walkRows, nodesOfRows, reviseRows] at hn ⊢
    exact (q.walk_yields hn).map _
termination_by structural o => o

theorem Target.walk_yields : ∀ t : Target, (∀ n ∈ t.nodes, refusalAt refuse n = none) →
    Yields μ (t.walk v) (t.revise w) (load w weight t.nodes)
  | .table _, _ => by
    simp only [Target.walk, Target.nodes, Target.revise, load_nil]
    exact .pure _
  | .function call, hn => by
    simp only [Target.walk, Target.nodes, Target.revise] at hn ⊢
    exact (pieces_walk_yields call hn).map _
termination_by structural t => t

theorem OnClause.walk_yields : ∀ c : OnClause, (∀ n ∈ c.nodes, refusalAt refuse n = none) →
    Yields μ (c.walk v) (c.revise w) (load w weight c.nodes)
  | .absent, _ => by
    simp only [OnClause.walk, OnClause.nodes, OnClause.revise, load_nil]
    exact .pure _
  | .conflict _ action, hn => by
    simp only [OnClause.walk, OnClause.nodes, OnClause.revise] at hn ⊢
    exact (pieces_walk_yields action hn).map _
  | .duplicateKey assignments, hn => by
    simp only [OnClause.walk, OnClause.nodes, OnClause.revise] at hn ⊢
    exact (pieces_walk_yields assignments hn).map _
termination_by structural c => c

/-- Where no INSERT is refused, the events of a walk weigh what those of its nodes weigh. -/
theorem Statement.walk_yields : ∀ s : Statement, (∀ n ∈ s.nodes, refusalAt refuse n = none) →
    Yields μ (s.walk v) (s.revise w) (load w weight s.nodes)
  | .query q, hn => by
    simp only [Statement.walk, Statement.nodes, Statement.revise] at hn ⊢
    exact (q.walk_yields hn).map _
  | .insert i, hn => by
    simp only [Statement.walk, Statement.nodes, Statement.revise, List.forall_mem_append,
      load_append] at hn ⊢
    have hrefuse : refuse i = none := hn.2 _ List.mem_cons_self
    have hinsert : Yields μ (v.insert (i.reviseParts w)) (w.insert (i.reviseParts w))
        (load w weight [.insert i]) := by
      refine ⟨?_, ?_⟩
      · rw [h.insert, h.refuse_reviseParts, hrefuse, settle_none]
      · simp [hv.insert, load, Node.reviseParts]
    exact (i.walk_yields hn.1).bind (hinsert.map _)
  | .other pieces, hn => by
    simp only [Statement.walk, Statement.nodes, Statement.revise] at hn ⊢
    exact (pieces_walk_yields pieces hn).map _
termination_by structural s => s

end

end Walk

end Sql

end RowScope
