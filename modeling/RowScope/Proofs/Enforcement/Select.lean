/-
The filter that a SELECT gets.

What a rule imposes on a SELECT is said here once more, from the FROM list alone and
without the tables and events the enforcement works with: the names that stand in the
list themselves and have no alias, those of them the rule is about, an equality per name
and column, and the filter behind them, in parentheses if OR or XOR is its operator.
`conditions_eq` and `narrow_eq` say that the enforcement comes to the same.

The conditions are equations of a path and a literal, so no node is inside them, and
revising them changes nothing.  That is what makes the change of a SELECT a revision
(`inner_discriminate`) and, where the columns are fixed, a steady one
(`discriminate_reviseParts`): it sees nothing but the names of the FROM list.
-/
import Mathlib.Tactic.Common
import RowScope.Enforcement.Select
import RowScope.Proofs.Enforcement.NamedTable
import RowScope.Proofs.Sql.Bare

namespace RowScope.Sql

/-- An operand of AND: in parentheses if its own operator is OR or XOR. -/
def Expr.grouped (e : Expr) : Expr := if e.Loose then .nested e else e

/--
The name of the table that a FROM item itself is, if it has no alias and is no more than
identifiers.
-/
def Source.plainName? : Source → Option (List Ident)
  | ⟨.table name _ _ none _, _⟩ => name.mapM NamePart.ident?
  | _ => none

end RowScope.Sql

namespace RowScope

open Sql Enforcement

/-! ### What a rule imposes -/

/-- The equalities that a rule imposes on a SELECT, by FROM item and then by column. -/
def Rule.equalities (r : Rule) (s : Select) : List Expr :=
  ((s.sources.filterMap Source.plainName?).filter r.pattern.covers).flatMap fun name =>
    (r.mapping.columnsFor (.select s)).map fun (column, v) =>
      .binary (.path (name ++ [column])) .eq (.value v)

/-- A SELECT that demands some equalities, ahead of what it demands already. -/
def Sql.Select.restrict (s : Select) : List Expr → Select
  | [] => s
  | p :: ps =>
    { s with
      filter := some ((ps ++ (s.filter.map Expr.grouped).toList).foldl (.binary · .and ·) p) }

namespace Enforcement

theorem tableOf?_eq (s : Source) :
    tableOf? s = s.plainName?.bind NamedTable.ofIdents? := by
  obtain ⟨relation, joins⟩ := s
  cases relation with
  | table name _ _ aliased _ =>
    cases aliased with
    | none => exact ofName?_eq name
    | some _ => rfl
  | derived => rfl
  | rows => rfl
  | joined => rfl

/-- The conditions of a rule are its equalities. -/
theorem conditions_eq (r : Rule) (s : Select) : conditions r s = r.equalities s := by
  unfold conditions tablesOf Rule.equalities
  generalize r.mapping.columnsFor (.select s) = columns
  induction s.sources with
  | nil => rfl
  | cons item rest ih =>
    rw [List.filterMap_cons, List.filterMap_cons, tableOf?_eq]
    cases hname : item.plainName? with
    | none => exact ih
    | some q =>
      rcases ofIdents?_cases q with ⟨rfl, hnone⟩ | ⟨t, ht, hq, -, hcovers⟩
      · simpa [hnone, Pattern.Table.covers] using ih
      · simp only [Option.bind_some, ht, List.filter_cons, concerns, hcovers r.pattern]
        by_cases hr : r.pattern.covers q = true
        · simp only [hr, if_true, List.flatMap_cons, ih]
          simp [conditionsOn, equation, NamedTable.qualified, hq]
        · rw [if_neg hr, if_neg hr]
          exact ih

/-! ### The filter -/

theorem asOperand_eq (e : Expr) : asOperand e = e.grouped := by
  unfold Expr.grouped asOperand
  cases e with
  | binary left op right => cases op <;> simp [Expr.Loose, Expr.topOp?]
  | _ => simp [Expr.Loose, Expr.topOp?]

theorem narrow_nil (filter : Option Expr) : narrow [] filter = filter := rfl

theorem narrow_cons (p : Expr) (ps : List Expr) (filter : Option Expr) :
    narrow (p :: ps) filter
      = some ((ps ++ (filter.map Expr.grouped).toList).foldl (.binary · .and ·) p) := by
  have hop : asOperand = Expr.grouped := funext asOperand_eq
  have hboth : both = (.binary · .and ·) := rfl
  simp only [narrow, conjunction, hop, hboth, List.isEmpty_cons, Bool.false_eq_true, if_false,
    List.cons_append]

/-! ### Conditions have no nodes -/

theorem nodes_of_mem_equalities {r : Rule} {s : Select} {e : Expr}
    (h : e ∈ r.equalities s) : e.nodes = [] := by
  simp only [Rule.equalities, List.mem_flatMap, List.mem_map] at h
  obtain ⟨name, -, ⟨column, v⟩, -, rfl⟩ := h
  simp only [Expr.nodes, List.append_nil]

theorem revise_of_mem_equalities {r : Rule} {s : Select} {e : Expr} (w : Revision)
    (h : e ∈ r.equalities s) : e.revise w = e := by
  refine e.revise_of_fixed fun n hn => ?_
  rw [nodes_of_mem_equalities h] at hn
  exact absurd hn List.not_mem_nil

theorem grouped_of_not_loose {e : Expr} (h : ¬e.Loose) : e.grouped = e := if_neg h

/-- Nothing binds looser than AND once it is an operand of AND. -/
theorem not_loose_grouped (e : Expr) : ¬e.grouped.Loose := by
  unfold Expr.grouped
  split
  · simp [Expr.Loose, Expr.topOp?]
  · assumption

theorem nodes_grouped (e : Expr) : e.grouped.nodes = e.nodes := by
  unfold Expr.grouped
  split
  · simp only [Expr.nodes]
  · rfl

theorem grouped_revise (w : Revision) (e : Expr) : (e.revise w).grouped = e.grouped.revise w := by
  unfold Expr.grouped
  simp only [loose_revise]
  split
  · simp only [Expr.revise]
  · rfl

private theorem nodes_foldl (es : List Expr) (e : Expr) (h : ∀ p ∈ es, p.nodes = []) :
    (es.foldl (.binary · .and ·) e).nodes = e.nodes := by
  induction es generalizing e with
  | nil => rfl
  | cons p rest ih =>
    have hp : p.nodes = [] := h p List.mem_cons_self
    rw [List.foldl_cons, ih _ fun q hq => h q (List.mem_cons_of_mem p hq)]
    simp only [Expr.nodes, hp, List.append_nil]

theorem revise_foldl (w : Revision) (es : List Expr) (e : Expr) :
    (es.foldl (.binary · .and ·) e).revise w
      = (es.map (Expr.revise w)).foldl (.binary · .and ·) (e.revise w) := by
  induction es generalizing e with
  | nil => rfl
  | cons p rest ih =>
    rw [List.foldl_cons, ih, List.map_cons, List.foldl_cons]
    simp only [Expr.revise]

/-- Conditions without nodes add none to a filter. -/
theorem nodes_narrow {es : List Expr} (h : ∀ e ∈ es, e.nodes = []) (filter : Option Expr) :
    nodesOfFilter (narrow es filter) = nodesOfFilter filter := by
  cases es with
  | nil => rw [narrow_nil]
  | cons p ps =>
    have hp : p.nodes = [] := h p List.mem_cons_self
    have hps : ∀ e ∈ ps, e.nodes = [] := fun e he => h e (List.mem_cons_of_mem p he)
    rw [narrow_cons]
    cases filter with
    | none => simp [nodesOfFilter, nodes_foldl ps p hps, hp]
    | some e => simp [nodesOfFilter, Expr.nodes, nodes_foldl ps p hps, hp, nodes_grouped]

/-- Conditions that a revision leaves alone can be put in front before it or after it. -/
theorem narrow_revise {w : Revision} {es : List Expr} (h : ∀ e ∈ es, e.revise w = e)
    (filter : Option Expr) :
    reviseFilter w (narrow es filter) = narrow es (reviseFilter w filter) := by
  cases es with
  | nil => rw [narrow_nil, narrow_nil]
  | cons p ps =>
    have hp : p.revise w = p := h p List.mem_cons_self
    have hps : ps.map (Expr.revise w) = ps :=
      (List.map_congr_left fun e he => h e (List.mem_cons_of_mem p he)).trans ps.map_id
    rw [narrow_cons, narrow_cons]
    cases filter with
    | none => simp [reviseFilter, revise_foldl, hp, hps]
    | some e => simp [reviseFilter, revise_foldl, Expr.revise, hp, hps, grouped_revise]

/-! ### The change of a SELECT -/

theorem restrict_eq (s : Select) (es : List Expr) :
    s.restrict es = { s with filter := narrow es s.filter } := by
  cases es with
  | nil =>
    cases s
    rfl
  | cons p ps => rw [narrow_cons, Select.restrict]

theorem discriminate_eq (r : Rule) (s : Select) :
    discriminate r s = s.restrict (r.equalities s) := by
  rw [discriminate, conditions_eq, restrict_eq]

/-- Equalities bring no nodes into a SELECT. -/
theorem inner_discriminate (r : Rule) (s : Select) : (discriminate r s).inner = s.inner := by
  have hfilter : nodesOfFilter (narrow (r.equalities s) s.filter) = nodesOfFilter s.filter :=
    nodes_narrow (fun _ he => nodes_of_mem_equalities he) s.filter
  rw [discriminate_eq, restrict_eq]
  obtain ⟨flavor, quantifier, projection, into, sources, prefilter, filter, tail⟩ := s
  simp only [Select.inner, hfilter]

@[simp] theorem plainName?_revise (w : Revision) (s : Source) :
    (s.revise w).plainName? = s.plainName? := by
  obtain ⟨relation, joins⟩ := s
  cases relation with
  | table name _ _ aliased _ => cases aliased <;> simp only [Source.revise, Relation.revise,
      Source.plainName?]
  | derived => simp only [Source.revise, Relation.revise, Source.plainName?]
  | rows => simp only [Source.revise, Relation.revise, Source.plainName?]
  | joined => simp only [Source.revise, Relation.revise, Source.plainName?]

/-- A revision keeps the names that stand in a FROM list. -/
theorem plainNames_revise (w : Revision) (ss : List Source) :
    (reviseSources w ss).filterMap Source.plainName? = ss.filterMap Source.plainName? := by
  induction ss with
  | nil => simp only [reviseSources]
  | cons s rest ih => simp only [reviseSources, List.filterMap_cons, plainName?_revise, ih]

/-- Fixed columns make the equalities a matter of the FROM list alone. -/
theorem equalities_congr {r : Rule} {columns : Columns} (hr : r.mapping = .constant columns)
    {s s' : Select}
    (h : s.sources.filterMap Source.plainName? = s'.sources.filterMap Source.plainName?) :
    r.equalities s = r.equalities s' := by
  simp only [Rule.equalities, h, hr, Mapping.columnsFor]

theorem sources_reviseParts (w : Revision) (s : Select) :
    (s.reviseParts w).sources = reviseSources w s.sources := by
  obtain ⟨flavor, quantifier, projection, into, sources, prefilter, filter, tail⟩ := s
  simp only [Select.reviseParts]

theorem filter_reviseParts (w : Revision) (s : Select) :
    (s.reviseParts w).filter = reviseFilter w s.filter := by
  obtain ⟨flavor, quantifier, projection, into, sources, prefilter, filter, tail⟩ := s
  simp only [Select.reviseParts]

theorem equalities_reviseParts {r : Rule} {columns : Columns} (hr : r.mapping = .constant columns)
    (w : Revision) (s : Select) : r.equalities (s.reviseParts w) = r.equalities s := by
  apply equalities_congr hr
  rw [sources_reviseParts, plainNames_revise]

/-- With fixed columns a SELECT can be discriminated before its parts are revised or after. -/
theorem discriminate_reviseParts {r : Rule} {columns : Columns}
    (hr : r.mapping = .constant columns) (w : Revision) (s : Select) :
    (discriminate r s).reviseParts w = discriminate r (s.reviseParts w) := by
  have hfilter : reviseFilter w (narrow (r.equalities s) s.filter)
      = narrow (r.equalities s) (reviseFilter w s.filter) :=
    narrow_revise (fun _ he => revise_of_mem_equalities w he) s.filter
  rw [discriminate_eq, discriminate_eq, restrict_eq, restrict_eq, equalities_reviseParts hr,
    filter_reviseParts]
  obtain ⟨flavor, quantifier, projection, into, sources, prefilter, filter, tail⟩ := s
  simp only [Select.reviseParts, hfilter]

end Enforcement

end RowScope
