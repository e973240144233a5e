/-
The table that a name stands for, read off its identifiers.

A pattern covers a name or it does not, and that is all the enforcement ever asks of a
table besides its text: the last identifier is the table's own name, the one ahead of it
the schema's, and whatever comes before them does not count.
-/
import Mathlib.Tactic.Common
import RowScope.Enforcement.NamedTable
import RowScope.Pattern.Table
import RowScope.Sql.Tree

namespace RowScope

open Sql

/-- The identifier that a part of a name is. -/
def Sql.NamePart.ident? : NamePart → Option Ident
  | .ident i => some i
  | .computed _ => none

/--
Whether a pattern accepts the table of a name: the last identifier is the table's own, the
one ahead of it the schema's.
-/
def Pattern.Table.covers (p : Pattern.Table) (name : List Ident) : Bool :=
  match name.getLast? with
  | none => false
  | some table => p.accepts table.value (name.dropLast.getLast?.map Ident.value)

/--
The text that messages have for a name: its last identifier, behind the schema's if there
is one.
-/
def tableText (name : List Ident) : String :=
  match name.getLast?, name.dropLast.getLast? with
  | none, _ => ""
  | some table, none => table.value
  | some table, some schema => schema.value ++ "." ++ table.value

namespace Enforcement

/-- The table whose name consists of the given identifiers. -/
def NamedTable.ofIdents? (qualifier : List Ident) : Option NamedTable :=
  match qualifier.reverse with
  | [] => none
  | [table] => some ⟨table.value, none, qualifier⟩
  | table :: schema :: _ => some ⟨table.value, some schema.value, qualifier⟩

theorem idents?_eq_mapM : ∀ name : List NamePart,
    NamedTable.idents? name = name.mapM NamePart.ident?
  | [] => rfl
  | .ident i :: rest => by
    simp only [NamedTable.idents?, List.mapM_cons, NamePart.ident?, idents?_eq_mapM rest]
    cases rest.mapM NamePart.ident? <;> rfl
  | .computed _ :: _ => rfl

theorem ofName?_eq (name : List NamePart) :
    NamedTable.ofName? name = (name.mapM NamePart.ident?).bind NamedTable.ofIdents? := by
  rw [← idents?_eq_mapM]
  rfl

/-- A name of no identifiers is the only one that no table has. -/
theorem ofIdents?_cases (q : List Ident) :
    (q = [] ∧ NamedTable.ofIdents? q = none) ∨
    ∃ t, NamedTable.ofIdents? q = some t ∧ t.qualifier = q ∧ t.display = tableText q ∧
      ∀ p : Pattern.Table, p.accepts t.name t.schema = p.covers q := by
  rcases List.eq_nil_or_concat q with rfl | ⟨front, table, rfl⟩
  · exact Or.inl ⟨rfl, rfl⟩
  · right
    rcases List.eq_nil_or_concat front with rfl | ⟨front, schema, rfl⟩
    · exact ⟨_, rfl, rfl, rfl, fun p => rfl⟩
    · refine ⟨⟨table.value, some schema.value, _⟩, ?_, rfl, ?_, fun p => ?_⟩
      · simp [NamedTable.ofIdents?]
      · simp [NamedTable.display, tableText]
      · simp [Pattern.Table.covers]

end Enforcement

end RowScope
