/-
Patterns for tables: a matcher for the name of the table, and perhaps one for its schema.
-/
import RowScope.Pattern.Matcher

namespace RowScope.Pattern

/-- Which tables a rule applies to. -/
structure Table where
  name : Matcher
  /-- Without a schema matcher, the schema of the table does not matter. -/
  schema : Option Matcher
deriving Inhabited

namespace Table

/-- Whether a table is meant; one without a schema is never in the schema that is asked for. -/
def accepts (p : Table) (table : String) (schema : Option String) : Bool :=
  p.name.accepts table &&
    match p.schema, schema with
    | none, _ => true
    | some m, some s => m.accepts s
    | some _, none => false

/-- A pattern as messages show it. -/
def describe (p : Table) : String :=
  let schema := match p.schema with
    | none => "None"
    | some m => "Some(" ++ m.describe ++ ")"
  "TablePattern \x7B name: " ++ p.name.describe ++ ", schema: " ++ schema ++ " \x7D"

end Table

end RowScope.Pattern
