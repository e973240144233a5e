/-
Rules: which tables are meant, and what their discriminator columns must hold.

The columns of a rule are fixed, or worked out anew for each part of a
statement that the rule is applied to.
-/
import RowScope.Column.Name
import RowScope.Pattern.Table
import RowScope.Sql.Tree

namespace RowScope

/-- Discriminator columns with their values, in order. -/
abbrev Columns := List (Sql.Ident × Sql.Value)

namespace Columns

/-- Adds a column at the end. -/
def push (cs : Columns) (name : String) (v : Sql.Value) : Columns := cs ++ [(Column.ident name, v)]

/-- The columns with the given names and values. -/
def ofPairs (pairs : List (String × Sql.Value)) : Columns :=
  pairs.map fun (name, v) => (Column.ident name, v)

/-- The identifiers of the columns. -/
def idents (cs : Columns) : List Sql.Ident := cs.map Prod.fst

end Columns

/-- The part of a statement that columns are worked out for. -/
inductive Subject where
  | select (s : Sql.Select)
  | insert (i : Sql.Insert)

/-- The columns of a rule. -/
inductive Mapping where
  | constant (columns : Columns)
  | derived (derive : Subject → Columns)

instance : Inhabited Mapping := ⟨.constant []⟩

/-- The columns for a subject. -/
def Mapping.columnsFor : Mapping → Subject → Columns
  | .constant columns, _ => columns
  | .derived derive, subject => derive subject

/-- A rule. -/
structure Rule where
  pattern : Pattern.Table
  mapping : Mapping
deriving Inhabited

end RowScope
