/-
Tables as statements refer to them.
-/
import RowScope.Sql.Tree

namespace RowScope.Enforcement

/-- A table named by plain identifiers. -/
structure NamedTable where
  name : String
  /-- The schema, if the name has a part ahead of the table's own. -/
  schema : Option String
  /-- All parts of the name, as written. -/
  qualifier : List Sql.Ident
deriving DecidableEq, Repr, Inhabited

namespace NamedTable

/-- The parts of a name, if all of them are identifiers. -/
def idents? : List Sql.NamePart → Option (List Sql.Ident)
  | [] => some []
  | .ident i :: rest => (idents? rest).map (i :: ·)
  | .computed _ :: _ => none

/-- The table that a dotted name refers to; its last two parts are schema and table. -/
def ofName? (name : List Sql.NamePart) : Option NamedTable := do
  let qualifier ← idents? name
  match qualifier.reverse with
  | [] => none
  | [table] => return ⟨table.value, none, qualifier⟩
  | table :: schema :: _ => return ⟨table.value, some schema.value, qualifier⟩

/-- The name that messages show, without quotes. -/
def display (t : NamedTable) : String :=
  match t.schema with
  | some schema => schema ++ "." ++ t.name
  | none => t.name

/-- The parts of the name of one of the table's columns. -/
def qualified (t : NamedTable) (column : Sql.Ident) : List Sql.Ident := t.qualifier ++ [column]

end NamedTable

end RowScope.Enforcement
