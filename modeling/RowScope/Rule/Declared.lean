/-
Rules as a configuration declares them.

A declared rule names its columns by text and gives them plain values; the rule that is
enforced has identifiers and literals in their place.
-/
import RowScope.Column.Value
import RowScope.Rule.Basic

namespace RowScope

/-- Columns as declared, in order; a name may come up more than once. -/
abbrev DeclaredColumns := List (String × Column.Value)

namespace DeclaredColumns

/-- The identifiers and literals of declared columns. -/
def toColumns (cs : DeclaredColumns) : Columns :=
  Columns.ofPairs (cs.map fun (name, v) => (name, v.toSql))

/-- Whether two declarations say the same. -/
def equals : DeclaredColumns → DeclaredColumns → Bool
  | [], [] => true
  | (a, v) :: cs, (b, w) :: ds => a == b && v.equals w && equals cs ds
  | _, _ => false

end DeclaredColumns

/-- A rule as declared. -/
structure DeclaredRule where
  table : Pattern.Matcher
  schema : Option Pattern.Matcher
  columns : DeclaredColumns
deriving Inhabited

namespace DeclaredRule

/-- Which tables the rule applies to. -/
def pattern (d : DeclaredRule) : Pattern.Table := ⟨d.table, d.schema⟩

/-- The rule that is declared. -/
def toRule (d : DeclaredRule) : Rule := ⟨d.pattern, .constant d.columns.toColumns⟩

end DeclaredRule

/-- A configuration. -/
structure Config where
  /-- An INSERT that cannot be discriminated is an error. -/
  strict : Bool := true
  rules : List DeclaredRule := []
deriving Inhabited

end RowScope
