/-
The tree of a statement.

The nodes that enforcing a rule reads or changes have types of their own: queries and their
bodies, the FROM items and the filter of a SELECT, the target and the conflict clause
of an INSERT, and the expressions built by operators.  Everything else is a *phrase*:
the pieces of its text in the order in which they are printed, a piece being either
plain text or a subtree.  Nothing but printing and descending ever looks into a
phrase, and for both the order of the pieces is all that matters.

The order in which the parts of a construct are visited is that of their kinds and not of
their text, which may spell the same parts in more than one order.  Where the two orders
differ, there is a constructor with a field per part: the clauses of a function call and
the operands of `TRIM` have one of their own, and all others share `Piece.crossed`.
-/
import RowScope.Sql.Value

namespace RowScope.Sql

/-- A binary operator.  Those that decide how a filter groups have a name of their own. -/
inductive BinaryOp where
  | and
  | or
  | xor
  | eq
  | other (symbol : String)
deriving DecidableEq, Repr, Inhabited

/-- One part of a dotted name: an identifier, or a call that computes one. -/
inductive NamePart where
  | ident (i : Ident)
  | computed (text : String)
deriving DecidableEq, Repr, Inhabited

/-- The alias of a FROM item, with `AS` if it was written. -/
structure Alias where
  explicit : Bool
  name : Ident
  columns : String
deriving DecidableEq, Repr, Inhabited

/-- Which of `SELECT` and `FROM` comes first, and whether `SELECT` is there at all. -/
inductive Flavor where
  | standard
  | fromFirst
  | fromOnly
deriving DecidableEq, Repr, Inhabited

/-- What an `ON CONFLICT` clause names: columns, or a constraint. -/
inductive ConflictTarget where
  | columns (names : List Ident)
  | constraint (name : String)
deriving DecidableEq, Repr, Inhabited

mutual

/-- An expression. -/
inductive Expr where
  | ident (name : Ident)
  /-- A dotted identifier of two or more parts. -/
  | path (names : List Ident)
  | value (v : Value)
  /-- An expression in parentheses. -/
  | nested (e : Expr)
  /-- A query in parentheses. -/
  | subquery (q : Query)
  /-- An operator in front of its operand; the text holds the blank, if one is printed. -/
  | unary (op : String) (e : Expr)
  | binary (left : Expr) (op : BinaryOp) (right : Expr)
  /-- A function call; the window is visited before the ordered-set clause printed ahead of it. -/
  | call (name : String) (arguments withinGroup filter window : List Piece)
  /-- A field or element access. -/
  | access (root : Expr) (chain : List Piece)
  /-- `TRIM(what FROM e)`; the second operand is visited first. -/
  | trim (side : String) (what : Expr) (e : Expr)
  /-- Any other expression. -/
  | phrase (pieces : List Piece)

/-- A part of a phrase. -/
inductive Piece where
  | text (s : String)
  | expr (e : Expr)
  | query (q : Query)
  | statement (s : Statement)
  | relation (r : Relation)
  /-- Two runs of pieces: `front` is printed ahead of `back`, and visited behind it. -/
  | crossed (front back : List Piece)

/-- A query: the WITH clause, the body, and what follows the body (ORDER BY, LIMIT, ...). -/
structure Query where
  preamble : List Piece
  body : Body
  tail : List Piece

/-- The body of a query. -/
inductive Body where
  | select (s : Select)
  /-- `UNION`, `EXCEPT` or `INTERSECT`, with their `ALL` or `DISTINCT`. -/
  | setOperation (op : String) (left right : Body)
  /-- A query in parentheses. -/
  | query (q : Query)
  | values (rows : List Piece)
  /-- An INSERT, UPDATE, DELETE or MERGE standing where a query may. -/
  | statement (s : Statement)
  /-- `TABLE t`. -/
  | table (text : String)

/-- A SELECT.  `quantifier` is what stands before the projection, `tail` what follows the filter. -/
structure Select where
  flavor : Flavor
  quantifier : List Piece
  projection : List (List Piece)
  into : String
  sources : List Source
  prefilter : List Piece
  filter : Option Expr
  tail : List Piece

/-- A FROM item: a relation and the joins that hang on it. -/
structure Source where
  relation : Relation
  joins : List Piece

/-- What a FROM item reads from. -/
inductive Relation where
  /--
  A named table.  The arguments, with their parentheses, turn it into a table-valued
  function; `suffix` is printed before the alias and `hints` after it.
  -/
  | table (name : List NamePart) (arguments : List Piece) (suffix : List Piece)
      (aliased : Option Alias) (hints : List Piece)
  /-- A query in parentheses. -/
  | derived (lateral : Bool) (q : Query) (aliased : Option Alias)
  /-- A call that yields rows, written `LATERAL f(..)`, `TABLE(f(..))` or `UNNEST(..)`. -/
  | rows (call : List Piece) (aliased : Option Alias)
  /-- A join in parentheses. -/
  | joined (source : Source) (aliased : Option Alias)

/-- An INSERT.  `verb` is all that is printed up to the target. -/
structure Insert where
  verb : String
  target : Target
  aliased : Option Ident
  columns : List Ident
  source : Option Query
  /-- What stands in the place of a source: assignments, a format, or `DEFAULT VALUES`. -/
  stead : List Piece
  /-- A PARTITION clause, printed before the source and visited after it. -/
  partitions : List Piece
  conflict : OnClause
  returning : List Piece

/-- What an INSERT writes into. -/
inductive Target where
  | table (name : List NamePart)
  | function (call : List Piece)

/-- The ON clause of an INSERT. -/
inductive OnClause where
  | absent
  | conflict (target : Option ConflictTarget) (action : List Piece)
  | duplicateKey (assignments : List Piece)

/-- A statement. -/
inductive Statement where
  | query (q : Query)
  | insert (i : Insert)
  /-- Any other statement. -/
  | other (pieces : List Piece)

end

/-- A run of printed pieces. -/
abbrev Phrase := List Piece

instance : Inhabited Expr := ⟨.phrase []⟩
instance : Inhabited Piece := ⟨.text ""⟩
instance : Inhabited Body := ⟨.table ""⟩
instance : Inhabited Query := ⟨⟨[], default, []⟩⟩
instance : Inhabited Statement := ⟨.other []⟩
instance : Inhabited Relation := ⟨.rows [] none⟩

instance : Coe String Piece := ⟨.text⟩
instance : Coe Expr Piece := ⟨.expr⟩
instance : Coe Query Piece := ⟨.query⟩
instance : Coe Statement Piece := ⟨.statement⟩
instance : Coe Relation Piece := ⟨.relation⟩

namespace Phrase

/-- Phrases one after the other, with a text between any two. -/
def separated (separator : String) : List Phrase → Phrase
  | [] => []
  | [p] => p
  | p :: q :: rest => p ++ (.text separator :: separated separator (q :: rest))

/-- A comma-separated list. -/
def list (ps : List Phrase) : Phrase := separated ", " ps

/-- A comma-separated list of expressions. -/
def exprs (es : List Expr) : Phrase := list (es.map fun e => [.expr e])

/-- A phrase between parentheses. -/
def parens (p : Phrase) : Phrase := .text "(" :: (p ++ [.text ")"])

end Phrase

end RowScope.Sql
