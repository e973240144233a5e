/-
Discriminating a SELECT.

Each table of the FROM list that the rule is about gets an equality per column, in the
order of the list and then of the columns.  The equalities are put in front of the
filter, joined by AND; a filter that binds looser than AND is set in parentheses first.

A table counts only if it stands in the list itself and has no alias: what is joined to
an item, and what an alias renames, is left alone.
-/
import RowScope.Enforcement.Outcome
import RowScope.Enforcement.NamedTable
import RowScope.Rule.Basic
import RowScope.Sql.Tree.Printer

namespace RowScope.Enforcement

open Sql

/-! ### Filters -/

/-- `left = right`. -/
def equation (left right : Expr) : Expr := .binary left .eq right

/-- `left AND right`. -/
def both (left right : Expr) : Expr := .binary left .and right

/-- A filter as an operand of AND. -/
def asOperand : Expr → Expr
  | .binary left .or right => .nested (.binary left .or right)
  | .binary left .xor right => .nested (.binary left .xor right)
  | e => e

/-- Several conditions joined by AND, from the left. -/
def conjunction : List Expr → Option Expr
  | [] => none
  | e :: es => some (es.foldl both e)

/-- A filter with conditions put in front of it. -/
def narrow (conditions : List Expr) (filter : Option Expr) : Option Expr :=
  if conditions.isEmpty then filter
  else conjunction (conditions ++ (filter.map asOperand).toList)

/-! ### Tables -/

/-- The table that a FROM item reads from under its own name. -/
def tableOf? : Source → Option NamedTable
  | ⟨.table name _ _ none _, _⟩ => NamedTable.ofName? name
  | _ => none

/-- Whether a rule is about a table. -/
def concerns (r : Rule) (t : NamedTable) : Bool := r.pattern.accepts t.name t.schema

/-- The tables of a FROM list that a rule is about. -/
def tablesOf (r : Rule) (sources : List Source) : List NamedTable :=
  (sources.filterMap tableOf?).filter (concerns r)

/-- The conditions on the columns of one table. -/
def conditionsOn (columns : Columns) (t : NamedTable) : List Expr :=
  columns.map fun (column, v) => equation (.path (t.qualified column)) (.value v)

/-- The events that one FROM item gives rise to. -/
def sourceEvents (r : Rule) (columns : Columns) (s : Source) : List Event :=
  match s with
  | ⟨.table name _ _ (some aliased) _, _⟩ =>
    [.aliasSkipped (NamePart.renderName name) aliased.name.render]
  | _ => ((tableOf? s).toList.filter (concerns r)).map fun t =>
    .selectDiscriminated t.display columns.length

/-! ### SELECT -/

/-- The conditions a rule imposes on a SELECT. -/
def conditions (r : Rule) (s : Select) : List Expr :=
  (tablesOf r s.sources).flatMap (conditionsOn (r.mapping.columnsFor (.select s)))

/-- A SELECT with the conditions of a rule. -/
def discriminate (r : Rule) (s : Select) : Select :=
  { s with filter := narrow (conditions r s) s.filter }

/-- Discriminates a SELECT. -/
def select (r : Rule) (s : Select) : Outcome Select := do
  Outcome.record (s.sources.flatMap (sourceEvents r (r.mapping.columnsFor (.select s))))
  return discriminate r s

/-- Discriminates a SELECT, or the operands of a set operation; other bodies hold no filter. -/
def body (r : Rule) : Body → Outcome Body
  | .select s => do return .select (← select r s)
  | .setOperation op left right => do
    let left ← body r left
    let right ← body r right
    return .setOperation op left right
  | .query q => pure (.query q)
  | .values rows => pure (.values rows)
  | .statement s => pure (.statement s)
  | .table text => pure (.table text)
termination_by structural b => b

end RowScope.Enforcement
