/-
Equality of trees, decided part by part.
-/
import RowScope.Sql.Tree

namespace RowScope.Sql

mutual

/-- Whether two expressions are equal. -/
def Expr.same : Expr → Expr → Bool
  | .ident a, .ident b => a == b
  | .path a, .path b => a == b
  | .value a, .value b => a == b
  | .nested a, .nested b => a.same b
  | .subquery a, .subquery b => a.same b
  | .unary op a, .unary op' b => op == op' && a.same b
  | .binary l op r, .binary l' op' r' => l.same l' && op == op' && r.same r'
  | .call n a w f o, .call n' a' w' f' o' =>
    n == n' && samePieces a a' && samePieces w w' && samePieces f f' && samePieces o o'
  | .access a chain, .access b chain' => a.same b && samePieces chain chain'
  | .trim side what e, .trim side' what' e' => side == side' && what.same what' && e.same e'
  | .phrase a, .phrase b => samePieces a b
  | _, _ => false
termination_by structural e => e

/-- Whether two pieces are equal. -/
def Piece.same : Piece → Piece → Bool
  | .text a, .text b => a == b
  | .expr a, .expr b => a.same b
  | .query a, .query b => a.same b
  | .statement a, .statement b => a.same b
  | .relation a, .relation b => a.same b
  | .crossed l e, .crossed l' e' => samePieces l l' && samePieces e e'
  | _, _ => false
termination_by structural p => p

/-- Whether two phrases are equal. -/
def samePieces : List Piece → List Piece → Bool
  | [], [] => true
  | p :: ps, q :: qs => p.same q && samePieces ps qs
  | _, _ => false
termination_by structural ps => ps

/-- Whether two lists of phrases are equal. -/
def sameItems : List (List Piece) → List (List Piece) → Bool
  | [], [] => true
  | p :: ps, q :: qs => samePieces p q && sameItems ps qs
  | _, _ => false
termination_by structural ps => ps

/-- Whether two queries are equal. -/
def Query.same : Query → Query → Bool
  | ⟨p, b, t⟩, ⟨p', b', t'⟩ => samePieces p p' && b.same b' && samePieces t t'
termination_by structural q => q

/-- Whether two bodies are equal. -/
def Body.same : Body → Body → Bool
  | .select a, .select b => a.same b
  | .setOperation op l r, .setOperation op' l' r' => op == op' && l.same l' && r.same r'
  | .query a, .query b => a.same b
  | .values a, .values b => samePieces a b
  | .statement a, .statement b => a.same b
  | .table a, .table b => a == b
  | _, _ => false
termination_by structural b => b

/-- Whether two SELECTs are equal. -/
def Select.same : Select → Select → Bool
  | ⟨flavor, quantifier, projection, into, sources, prefilter, filter, tail⟩,
    ⟨flavor', quantifier', projection', into', sources', prefilter', filter', tail'⟩ =>
    flavor == flavor' && samePieces quantifier quantifier' && sameItems projection projection'
      && into == into' && sameSources sources sources' && samePieces prefilter prefilter'
      && sameFilters filter filter' && samePieces tail tail'
termination_by structural s => s

/-- Whether two filters are equal. -/
def sameFilters : Option Expr → Option Expr → Bool
  | none, none => true
  | some a, some b => a.same b
  | _, _ => false
termination_by structural f => f

/-- Whether two FROM items are equal. -/
def Source.same : Source → Source → Bool
  | ⟨r, j⟩, ⟨r', j'⟩ => r.same r' && samePieces j j'
termination_by structural s => s

/-- Whether two FROM lists are equal. -/
def sameSources : List Source → List Source → Bool
  | [], [] => true
  | s :: ss, t :: ts => s.same t && sameSources ss ts
  | _, _ => false
termination_by structural ss => ss

/-- Whether two relations are equal. -/
def Relation.same : Relation → Relation → Bool
  | .table n a s al h, .table n' a' s' al' h' =>
    n == n' && samePieces a a' && samePieces s s' && al == al' && samePieces h h'
  | .derived lat q al, .derived lat' q' al' => lat == lat' && q.same q' && al == al'
  | .rows c al, .rows c' al' => samePieces c c' && al == al'
  | .joined s al, .joined s' al' => s.same s' && al == al'
  | _, _ => false
termination_by structural r => r

/-- Whether two INSERTs are equal. -/
def Insert.same : Insert → Insert → Bool
  | ⟨verb, target, aliased, columns, source, stead, partitions, conflict, returning⟩,
    ⟨verb', target', aliased', columns', source', stead', partitions', conflict', returning'⟩ =>
    verb == verb' && target.same target' && aliased == aliased' && columns == columns'
      && sameRows source source' && samePieces stead stead' && samePieces partitions partitions'
      && conflict.same conflict' && samePieces returning returning'
termination_by structural i => i

/-- Whether the rows of two INSERTs are equal. -/
def sameRows : Option Query → Option Query → Bool
  | none, none => true
  | some a, some b => a.same b
  | _, _ => false
termination_by structural o => o

/-- Whether two targets are equal. -/
def Target.same : Target → Target → Bool
  | .table a, .table b => a == b
  | .function a, .function b => samePieces a b
  | _, _ => false
termination_by structural t => t

/-- Whether two ON clauses are equal. -/
def OnClause.same : OnClause → OnClause → Bool
  | .absent, .absent => true
  | .conflict t a, .conflict t' a' => t == t' && samePieces a a'
  | .duplicateKey a, .duplicateKey b => samePieces a b
  | _, _ => false
termination_by structural c => c

/-- Whether two statements are equal. -/
def Statement.same : Statement → Statement → Bool
  | .query a, .query b => a.same b
  | .insert a, .insert b => a.same b
  | .other a, .other b => samePieces a b
  | _, _ => false
termination_by structural s => s

end

end RowScope.Sql
