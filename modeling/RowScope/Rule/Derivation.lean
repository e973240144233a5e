/-
Mappings that look at the statement they are resolved for.
-/
import RowScope.Rule.Basic
import RowScope.Sql.Tree.Printer

namespace RowScope

/-- A mapping worked out from its subject, by name. -/
inductive Derivation where
  /-- One column for an INSERT that returns rows, another one for everything else. -/
  | insertReturning
  /-- Whether a SELECT has a filter. -/
  | selectFiltered
  /-- How many items a SELECT reads from and projects; for an INSERT, its own columns. -/
  | counts
  /-- The text of the filter of a SELECT. -/
  | filterText
deriving DecidableEq, Repr, Inhabited

namespace Derivation

open Sql in
/-- The columns for a subject. -/
def columns : Derivation → Subject → Columns
  | insertReturning, .insert i =>
    if i.returning.isEmpty then Columns.ofPairs [("tenant_id", .placeholder "$1")]
    else Columns.ofPairs [("region", .placeholder "$1")]
  | insertReturning, .select _ => Columns.ofPairs [("tenant_id", .placeholder "$1")]
  | selectFiltered, .select s => Columns.ofPairs [("filtered", .boolean s.filter.isSome)]
  | selectFiltered, .insert _ => []
  | counts, .select s =>
    Columns.ofPairs [("from_items", .number (toString s.sources.length) false),
      ("projected", .number (toString s.projection.length) false)]
  | counts, .insert i => i.columns.map fun c => (c, .number "0" false)
  | filterText, .select s =>
    Columns.ofPairs [("seen", .text (match s.filter with | some e => e.render | none => "-"))]
  | filterText, .insert _ => Columns.ofPairs [("Seen", .text "-")]

/-- The mapping itself. -/
def mapping (d : Derivation) : Mapping := .derived d.columns

end Derivation

end RowScope
