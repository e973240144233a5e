/-
The INSERTs that a rule cannot discriminate.

Whether an INSERT is refused, and with which words, hangs on three things: its target is
a name of identifiers, the rule's pattern covers that name, and its source is no list of
rows.  `Pattern.Table.refusal?` says so, and the enforcement agrees with it
(`insert_result`).

None of the three is ever changed.  A revision of what is inside an INSERT keeps the
name of the target and the shape of the source (`refusal?_reviseParts`), and a rule
itself writes nothing but the conflict target (`refusal?_extended`), so what speaks
against an INSERT is the same before all rules and after any number of them.
-/
import Mathlib.Tactic.Common
import RowScope.Enforcement.Insert
import RowScope.Proofs.Enforcement.NamedTable
import RowScope.Proofs.Enforcement.Outcome
import RowScope.Proofs.Sql.Revision

namespace RowScope

open Sql Enforcement

/-! ### What is refused -/

/-- What an INSERT has in the place of a list of rows, if it has none. -/
def Sql.Insert.unlisted? (i : Insert) : Option Construct :=
  match i.source.map Query.body with
  | none => some .noRows
  | some (.values _) => none
  | some (.select _) => some .select
  | some (.setOperation _ _ _) => some .setOperation
  | some (.query _) => some .subquery
  | some (.statement _) => some .other
  | some (.table _) => some .other

/-- The name of the table that an INSERT writes into, if it is no more than identifiers. -/
def Sql.Insert.plainTarget? (i : Insert) : Option (List Ident) :=
  match i.target with
  | .table name => name.mapM NamePart.ident?
  | .function _ => none

/-- What speaks against discriminating an INSERT. -/
def Pattern.Table.refusal? (p : Pattern.Table) (i : Insert) : Option Unsupported :=
  match i.plainTarget?, i.unlisted? with
  | some name, some construct =>
    if p.covers name then some ⟨tableText name, construct⟩ else none
  | _, _ => none

namespace Enforcement

/-- An INSERT with the columns of a rule in its conflict target. -/
def extended (r : Rule) (i : Insert) : Insert :=
  match i.plainTarget?, i.unlisted? with
  | some name, none =>
    if r.pattern.covers name then
      { i with conflict := extendTarget (r.mapping.columnsFor (.insert i)).idents i.conflict }
    else i
  | _, _ => i

theorem unsupported?_eq (i : Insert) : unsupported? i = i.unlisted? := by
  unfold unsupported? Insert.unlisted?
  cases i.source with
  | none => rfl
  | some q => cases hb : q.body <;> simp only [Option.map_some, constructOf?, hb]

theorem insertInto_result (r : Rule) (strict : Bool) (t : NamedTable) (i : Insert) :
    (insertInto r strict t i).result
      = settle (if strict then i.unlisted?.map (⟨t.display, ·⟩) else none)
          (if i.unlisted?.isNone then
            { i with conflict := extendTarget (r.mapping.columnsFor (.insert i)).idents i.conflict }
          else i) := by
  unfold insertInto
  rw [unsupported?_eq]
  cases i.unlisted? <;> cases strict <;> simp

/-- An INSERT is refused as the rule says, and else gets its conflict target. -/
theorem insert_result (r : Rule) (strict : Bool) (i : Insert) :
    (insert r strict i).result
      = settle (if strict then r.pattern.refusal? i else none) (extended r i) := by
  unfold insert
  cases htarget : i.target with
  | function call => simp [Pattern.Table.refusal?, extended, Insert.plainTarget?, htarget]
  | table name =>
    have hplain : i.plainTarget? = name.mapM NamePart.ident? := by
      simp only [Insert.plainTarget?, htarget]
    simp only [ofName?_eq, ← hplain, Pattern.Table.refusal?, extended]
    cases i.plainTarget? with
    | none => simp
    | some q =>
      rcases ofIdents?_cases q with ⟨rfl, hnone⟩ | ⟨t, ht, -, htext, hcovers⟩
      · cases i.unlisted? <;> simp [hnone, Pattern.Table.covers]
      · simp only [Option.bind_some, ht, hcovers r.pattern]
        by_cases hr : r.pattern.covers q = true
        · rw [if_pos hr, insertInto_result, htext]
          cases i.unlisted? <;> simp [hr]
        · rw [if_neg hr]
          cases i.unlisted? <;> simp [hr]

/-! ### What is never changed -/

@[simp] theorem plainTarget?_reviseParts (w : Revision) (i : Insert) :
    (i.reviseParts w).plainTarget? = i.plainTarget? := by
  obtain ⟨verb, target, aliased, columns, source, stead, partitions, conflict, returning⟩ := i
  cases target <;> simp only [Insert.reviseParts, Insert.plainTarget?, Target.revise]

@[simp] theorem unlisted?_reviseParts (w : Revision) (i : Insert) :
    (i.reviseParts w).unlisted? = i.unlisted? := by
  obtain ⟨verb, target, aliased, columns, source, stead, partitions, conflict, returning⟩ := i
  cases source with
  | none => simp only [Insert.reviseParts, reviseRows, Insert.unlisted?, Option.map_none]
  | some q =>
    obtain ⟨preamble, body, tail⟩ := q
    cases body <;> simp only [Insert.reviseParts, reviseRows, Query.revise, Body.revise,
      Insert.unlisted?, Option.map_some]

theorem conflict_reviseParts (w : Revision) (i : Insert) :
    (i.reviseParts w).conflict = i.conflict.revise w := by
  obtain ⟨verb, target, aliased, columns, source, stead, partitions, conflict, returning⟩ := i
  simp only [Insert.reviseParts]

theorem plainTarget?_extended (r : Rule) (i : Insert) :
    (extended r i).plainTarget? = i.plainTarget? := by
  unfold extended
  split
  · split <;> rfl
  · rfl

theorem unlisted?_extended (r : Rule) (i : Insert) :
    (extended r i).unlisted? = i.unlisted? := by
  unfold extended
  split
  · split <;> rfl
  · rfl

/-- What is inside an INSERT has no say in whether it is refused. -/
theorem refusal?_reviseParts (p : Pattern.Table) (w : Revision) (i : Insert) :
    p.refusal? (i.reviseParts w) = p.refusal? i := by
  simp only [Pattern.Table.refusal?, plainTarget?_reviseParts, unlisted?_reviseParts]

/-- What a rule does to an INSERT has no say in it either. -/
theorem refusal?_extended (p : Pattern.Table) (r : Rule) (i : Insert) :
    p.refusal? (extended r i) = p.refusal? i := by
  simp only [Pattern.Table.refusal?, plainTarget?_extended, unlisted?_extended]

/-! ### The change of an INSERT -/

theorem nodes_extendTarget (columns : List Ident) (c : OnClause) :
    (extendTarget columns c).nodes = c.nodes := by
  unfold extendTarget
  split <;> simp only [OnClause.nodes]

theorem inner_extended (r : Rule) (i : Insert) : (extended r i).inner = i.inner := by
  obtain ⟨verb, target, aliased, columns, source, stead, partitions, conflict, returning⟩ := i
  unfold extended
  split
  · split
    · simp only [Insert.inner, nodes_extendTarget]
    · rfl
  · rfl

theorem extendTarget_revise (columns : List Ident) (w : Revision) (c : OnClause) :
    (extendTarget columns c).revise w = extendTarget columns (c.revise w) := by
  rcases c with _ | ⟨_ | (_ | _), _⟩ | _ <;> simp only [extendTarget, OnClause.revise]

/-- With fixed columns an INSERT can be extended before its parts are revised or after. -/
theorem extended_reviseParts {r : Rule} {columns : Columns} (hr : r.mapping = .constant columns)
    (w : Revision) (i : Insert) :
    (extended r i).reviseParts w = extended r (i.reviseParts w) := by
  simp only [extended, plainTarget?_reviseParts, unlisted?_reviseParts, hr, Mapping.columnsFor]
  obtain ⟨verb, target, aliased, columns, source, stead, partitions, conflict, returning⟩ := i
  split
  · split
    · simp only [Insert.reviseParts, extendTarget_revise]
    · rfl
  · rfl

end Enforcement

end RowScope
