/-
Discriminating an INSERT.

The conflict target of an INSERT on a table that the rule is about has to name the
discriminator columns as well: they are added behind the columns that are there, or
become the target if there is none.  A named constraint is left as it is, and no ON
CONFLICT clause is ever added.
-/
import RowScope.Enforcement.Outcome
import RowScope.Enforcement.NamedTable
import RowScope.Rule.Basic
import RowScope.Sql.Tree.Printer

namespace RowScope.Enforcement

open Sql

/-- The construct that a body is, if it is no list of rows. -/
def constructOf? : Body → Option Construct
  | .values _ => none
  | .select _ => some .select
  | .setOperation .. => some .setOperation
  | .query _ => some .subquery
  | .statement _ | .table _ => some .other

/-- The construct that keeps an INSERT from being discriminated. -/
def unsupported? (i : Insert) : Option Construct :=
  match i.source with
  | none => some .noRows
  | some q => constructOf? q.body

/-- An ON clause whose target names further columns. -/
def extendTarget (columns : List Ident) : OnClause → OnClause
  | .conflict none action =>
    .conflict (if columns.isEmpty then none else some (.columns columns)) action
  | .conflict (some (.columns names)) action =>
    .conflict (some (.columns (names ++ columns))) action
  | c => c

/-- The events of adding columns to the target of an ON clause. -/
def targetEvents (table : String) (columns : List Ident) : OnClause → List Event
  | .conflict target _ =>
    if columns.isEmpty then []
    else match target with
      | none => [.targetSet table columns.length]
      | some (.columns _) => [.targetExtended table columns.length]
      | some (.constraint _) => [.constraintKept table]
  | _ => []

/-- Discriminates an INSERT whose target is a table that the rule is about. -/
def insertInto (r : Rule) (strict : Bool) (table : NamedTable) (i : Insert) : Outcome Insert :=
  match unsupported? i with
  | some construct =>
    if strict then .fail ⟨table.display, construct⟩
    else do
      Outcome.record [.insertLeft table.display construct]
      return i
  | none => do
    let columns := (r.mapping.columnsFor (.insert i)).idents
    Outcome.record (targetEvents table.display columns i.conflict)
    return { i with conflict := extendTarget columns i.conflict }

/-- Discriminates an INSERT. -/
def insert (r : Rule) (strict : Bool) (i : Insert) : Outcome Insert :=
  match i.target with
  | .function _ => pure i
  | .table name =>
    match NamedTable.ofName? name with
    | none => do
      Outcome.record [.insertSkipped (NamePart.renderName name)]
      return i
    | some table =>
      if r.pattern.accepts table.name table.schema then insertInto r strict table i else pure i

end RowScope.Enforcement
