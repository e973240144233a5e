/-
Bottom-up changes of a tree.

A walk visits every node and changes two kinds of them, once all their parts have been
changed: the body of each query, and each INSERT.  The parts of a node are visited in a
fixed order, which is not always the order in which they are printed; it decides the
order of effects and nothing else.

Bodies are changed where they stand in a query.  The operands of a set operation are no
queries, so whoever changes a body has to look after them.
-/
import RowScope.Sql.Tree

namespace RowScope.Sql

/-- What a walk does with the nodes it changes. -/
structure Visitor (m : Type → Type) where
  body : Body → m Body
  insert : Insert → m Insert

variable {m : Type → Type} [Monad m] (v : Visitor m)

mutual

/-- Walks an expression. -/
def Expr.walk : Expr → m Expr
  | .ident name => pure (.ident name)
  | .path names => pure (.path names)
  | .value x => pure (.value x)
  | .nested e => do return .nested (← e.walk)
  | .subquery q => do return .subquery (← q.walk)
  | .unary op e => do return .unary op (← e.walk)
  | .binary left op right => do
    let left ← left.walk
    let right ← right.walk
    return .binary left op right
  | .call name arguments withinGroup filter window => do
    let arguments ← walkPieces arguments
    let filter ← walkPieces filter
    let window ← walkPieces window
    let withinGroup ← walkPieces withinGroup
    return .call name arguments withinGroup filter window
  | .access root chain => do
    let root ← root.walk
    let chain ← walkPieces chain
    return .access root chain
  | .trim side what e => do
    let e ← e.walk
    let what ← what.walk
    return .trim side what e
  | .phrase pieces => do return .phrase (← walkPieces pieces)
termination_by structural e => e

/-- Walks a piece of a phrase. -/
def Piece.walk : Piece → m Piece
  | .text s => pure (.text s)
  | .expr e => do return .expr (← e.walk)
  | .query q => do return .query (← q.walk)
  | .statement s => do return .statement (← s.walk)
  | .relation r => do return .relation (← r.walk)
  | .crossed front back => do
    let back ← walkPieces back
    let front ← walkPieces front
    return .crossed front back
termination_by structural p => p

/-- Walks a phrase. -/
def walkPieces : List Piece → m (List Piece)
  | [] => pure []
  | p :: rest => do
    let p ← p.walk
    let rest ← walkPieces rest
    return p :: rest
termination_by structural ps => ps

/-- Walks a list of phrases. -/
def walkItems : List (List Piece) → m (List (List Piece))
  | [] => pure []
  | item :: rest => do
    let item ← walkPieces item
    let rest ← walkItems rest
    return item :: rest
termination_by structural items => items

/-- Walks a query, then changes its body. -/
def Query.walk : Query → m Query
  | ⟨preamble, body, tail⟩ => do
    let preamble ← walkPieces preamble
    let body ← body.walk
    let tail ← walkPieces tail
    let body ← v.body body
    return ⟨preamble, body, tail⟩
termination_by structural q => q

/-- Walks a body without changing the body itself. -/
def Body.walk : Body → m Body
  | .select s => do return .select (← s.walk)
  | .setOperation op left right => do
    let left ← left.walk
    let right ← right.walk
    return .setOperation op left right
  | .query q => do return .query (← q.walk)
  | .values rows => do return .values (← walkPieces rows)
  | .statement s => do return .statement (← s.walk)
  | .table text => pure (.table text)
termination_by structural b => b

/-- Walks a SELECT. -/
def Select.walk : Select → m Select
  | ⟨flavor, quantifier, projection, into, sources, prefilter, filter, tail⟩ => do
    let quantifier ← walkPieces quantifier
    let projection ← walkItems projection
    let sources ← walkSources sources
    let prefilter ← walkPieces prefilter
    let filter ← walkFilter filter
    let tail ← walkPieces tail
    return ⟨flavor, quantifier, projection, into, sources, prefilter, filter, tail⟩
termination_by structural s => s

/-- Walks a filter. -/
def walkFilter : Option Expr → m (Option Expr)
  | none => pure none
  | some e => do return some (← e.walk)
termination_by structural f => f

/-- Walks a FROM item. -/
def Source.walk : Source → m Source
  | ⟨relation, joins⟩ => do
    let relation ← relation.walk
    let joins ← walkPieces joins
    return ⟨relation, joins⟩
termination_by structural s => s

/-- Walks a FROM list. -/
def walkSources : List Source → m (List Source)
  | [] => pure []
  | s :: rest => do
    let s ← s.walk
    let rest ← walkSources rest
    return s :: rest
termination_by structural ss => ss

/-- Walks a relation. -/
def Relation.walk : Relation → m Relation
  | .table name arguments suffix aliased hints => do
    let arguments ← walkPieces arguments
    let suffix ← walkPieces suffix
    let hints ← walkPieces hints
    return .table name arguments suffix aliased hints
  | .derived lateral q aliased => do return .derived lateral (← q.walk) aliased
  | .rows call aliased => do return .rows (← walkPieces call) aliased
  | .joined source aliased => do return .joined (← source.walk) aliased
termination_by structural r => r

/-- Walks an INSERT without changing the INSERT itself. -/
def Insert.walk : Insert → m Insert
  | ⟨verb, target, aliased, columns, source, stead, partitions, conflict, returning⟩ => do
    let target ← target.walk
    let source ← walkRows source
    let stead ← walkPieces stead
    let partitions ← walkPieces partitions
    let conflict ← conflict.walk
    let returning ← walkPieces returning
    return ⟨verb, target, aliased, columns, source, stead, partitions, conflict, returning⟩
termination_by structural i => i

/-- Walks the rows of an INSERT. -/
def walkRows : Option Query → m (Option Query)
  | none => pure none
  | some q => do return some (← q.walk)
termination_by structural o => o

/-- Walks an INSERT's target. -/
def Target.walk : Target → m Target
  | .table name => pure (.table name)
  | .function call => do return .function (← walkPieces call)
termination_by structural t => t

/-- Walks an ON clause. -/
def OnClause.walk : OnClause → m OnClause
  | .absent => pure .absent
  | .conflict target action => do return .conflict target (← walkPieces action)
  | .duplicateKey assignments => do return .duplicateKey (← walkPieces assignments)
termination_by structural c => c

/-- Walks a statement; an INSERT is changed after its parts. -/
def Statement.walk : Statement → m Statement
  | .query q => do return .query (← q.walk)
  | .insert i => do
    let i ← i.walk
    return .insert (← v.insert i)
  | .other pieces => do return .other (← walkPieces pieces)
termination_by structural s => s

end

end RowScope.Sql
