/-
What each FROM item has a rule impose.

The equalities for a SELECT are those for its FROM items, one item after the other, and once
the columns are known those for an item are told by the item alone (`equalities_eq_flatMap`).
Queries, joins in parentheses, calls behind LATERAL, TABLE or UNNEST and whatever has an alias
come to nothing.

A call can also be written like a table, as a name with arguments behind it, and the tree then
has a table with arguments.  Arguments are not looked at, so such a call counts as the table of
its name.  It is the one form in which something that is no table narrows a filter, and it does
so exactly if the rule has columns for the SELECT and is about that name.
-/
import Mathlib.Data.List.Flatten
import RowScope.Proofs.Policy.Grouping
import RowScope.Proofs.Sql.Grammar.Rows

namespace RowScope

open Sql Enforcement

/-! ### FROM items -/

/-- Whether a FROM item is a table under its own name: without arguments, without an alias. -/
def Sql.Source.isTable : Source → Bool
  | ⟨.table _ [] _ none _, _⟩ => true
  | _ => false

/--
The name of a call that is written like a table, with its arguments behind it, if it has no
alias and the name is no more than identifiers.
-/
def Sql.Source.call? : Source → Option (List Ident)
  | ⟨.table name (_ :: _) _ none _, _⟩ => name.mapM NamePart.ident?
  | _ => none

/-- A FROM item that is the table of a name and nothing more. -/
def Sql.Source.named (name : List Ident) : Source := ⟨.table (name.map .ident) [] [] none [], []⟩

/-- The equalities that a rule imposes for one FROM item. -/
def Rule.equalitiesFrom (r : Rule) (columns : Columns) (item : Source) : List Expr :=
  (item.plainName?.toList.filter r.pattern.covers).flatMap fun name =>
    columns.map fun (column, v) => .binary (.path (name ++ [column])) .eq (.value v)

namespace Enforcement

/-- An item with a name of its own is a table or a call that is written like one. -/
theorem plainName?_eq (item : Source) :
    item.plainName? = none ∨ item.isTable = true ∨ item.plainName? = item.call? := by
  obtain ⟨relation, joins⟩ := item
  cases relation with
  | table name arguments suffix aliased hints =>
    cases aliased with
    | some _ => exact .inl rfl
    | none =>
      cases arguments with
      | nil => exact .inr (.inl rfl)
      | cons _ _ => exact .inr (.inr rfl)
  | derived | rows | joined => exact .inl rfl

/-- A call has the name of the table that is written like it, and is no table. -/
theorem plainName?_of_call? {item : Source} {name : List Ident} (h : item.call? = some name) :
    item.plainName? = some name ∧ item.isTable = false := by
  obtain ⟨relation, joins⟩ := item
  cases relation with
  | table n arguments suffix aliased hints =>
    cases arguments with
    | nil => cases h
    | cons _ _ =>
      cases aliased with
      | some _ => cases h
      | none => exact ⟨h, rfl⟩
  | derived | rows | joined => cases h

theorem mapM_ident? (name : List Ident) :
    (name.map NamePart.ident).mapM NamePart.ident? = some name := by
  induction name with
  | nil => rfl
  | cons i rest ih =>
    rw [List.map_cons, List.mapM_cons, ih]
    rfl

theorem plainName?_of_isNamed {item : Source} (h : item.relation.isNamed = false) :
    item.plainName? = none := by
  obtain ⟨relation, joins⟩ := item
  cases relation with
  | table => cases h
  | derived | rows | joined => rfl

section Items

variable {r : Rule} {columns : Columns} {item : Source}

/-- The equalities for a SELECT, by its FROM items. -/
theorem equalities_eq_flatMap (r : Rule) (s : Select) :
    r.equalities s
      = s.sources.flatMap (r.equalitiesFrom (r.mapping.columnsFor (.select s))) := by
  unfold Rule.equalities
  generalize r.mapping.columnsFor (.select s) = columns
  induction s.sources with
  | nil => rfl
  | cons item rest ih =>
    rw [List.flatMap_cons, ← ih, Rule.equalitiesFrom, List.filterMap_cons]
    cases item.plainName? with
    | none => rfl
    | some name =>
      by_cases hcovers : r.pattern.covers name = true
      · simp [hcovers]
      · simp [hcovers]

theorem equalitiesFrom_congr {item' : Source} (h : item.plainName? = item'.plainName?) :
    r.equalitiesFrom columns item = r.equalitiesFrom columns item' := by
  unfold Rule.equalitiesFrom
  rw [h]

theorem equalitiesFrom_of_none (h : item.plainName? = none) :
    r.equalitiesFrom columns item = [] := by
  rw [Rule.equalitiesFrom, h]
  rfl

theorem equalitiesFrom_eq_nil {name : List Ident} (h : item.plainName? = some name) :
    r.equalitiesFrom columns item = [] ↔ columns = [] ∨ r.pattern.covers name = false := by
  rw [Rule.equalitiesFrom, h]
  by_cases hcovers : r.pattern.covers name = true
  · simp [hcovers]
  · simp [hcovers]

/-- A call counts as the table of its name. -/
theorem equalitiesFrom_of_call? {name : List Ident} (h : item.call? = some name) :
    r.equalitiesFrom columns item = r.equalitiesFrom columns (.named name) := by
  apply equalitiesFrom_congr
  rw [(plainName?_of_call? h).1]
  exact (mapM_ident? name).symm

/-- What is neither a table nor written like one imposes nothing. -/
theorem equalitiesFrom_of_isTable (htable : item.isTable = false) (hcall : item.call? = none) :
    r.equalitiesFrom columns item = [] := by
  apply equalitiesFrom_of_none
  rcases plainName?_eq item with hnone | hplain | heq
  · exact hnone
  · rw [htable] at hplain
    cases hplain
  · rw [heq, hcall]

/-- An item imposes nothing beyond what tables do, unless it is a call that the rule is about. -/
theorem equalitiesFrom_of_not_isTable :
    (item.isTable = false → r.equalitiesFrom columns item = [])
      ↔ columns = [] ∨ ∀ name, item.call? = some name → r.pattern.covers name = false := by
  cases hcall : item.call? with
  | none =>
    constructor
    · intro _
      right
      intro name hname
      cases hname
    · intro _ htable
      exact equalitiesFrom_of_isTable htable hcall
  | some name =>
    obtain ⟨hname, htable⟩ := plainName?_of_call? hcall
    rw [equalitiesFrom_eq_nil hname]
    simp [htable]

end Items

/-! ### Items left out -/

/-- Where what is left out of a list comes to nothing, and only there, nothing is missing. -/
theorem flatMap_filter_eq_iff {α β : Type} (f : α → List β) (p : α → Bool) (xs : List α) :
    xs.flatMap f = (xs.filter p).flatMap f ↔ ∀ x ∈ xs, p x = false → f x = [] := by
  induction xs with
  | nil => simp
  | cons x rest ih =>
    have hlength : ((rest.filter p).flatMap f).length ≤ (rest.flatMap f).length :=
      (rest.filter_sublist.flatMap f).length_le
    rw [List.forall_mem_cons, List.flatMap_cons]
    by_cases hx : p x = true
    · rw [List.filter_cons_of_pos hx, List.flatMap_cons, List.append_cancel_left_eq, ih]
      simp [hx]
    · rw [List.filter_cons_of_neg hx]
      constructor
      · intro h
        have hsum := congrArg List.length h
        rw [List.length_append] at hsum
        have hnil : f x = [] := List.length_eq_zero_iff.mp (by omega)
        rw [hnil, List.nil_append] at h
        exact ⟨fun _ => hnil, ih.mp h⟩
      · rintro ⟨hnil, hrest⟩
        rw [hnil ((Bool.not_eq_true _).mp hx), List.nil_append]
        exact ih.mpr hrest

end Enforcement

/--
The filter of a SELECT gets the equalities for its FROM items, one item after the other.  Items
that are neither tables nor calls written like one come to nothing, and neither does anything
that is read behind LATERAL, TABLE or UNNEST, in whatever dialect.  A call that is written like
a table comes to what the table of its name would.  So the tables are all that counts exactly if
the rule has no columns for the SELECT or is about none of those calls.
-/
theorem Rule.select_by_item (r : Rule) :
    (∀ s : Select, (select r s).result = .ok (s.restrict
        (s.sources.flatMap (r.equalitiesFrom (r.mapping.columnsFor (.select s)))))) ∧
    (∀ columns (item : Source), item.isTable = false → item.call? = none →
      r.equalitiesFrom columns item = []) ∧
    (∀ (level : Level) tokens item rest columns,
      Grammar.source level tokens = .ok (item, rest) →
      Grammar.opensCall level.dialect tokens = true →
      r.equalitiesFrom columns item = []) ∧
    (∀ columns (item : Source) name, item.call? = some name →
      r.equalitiesFrom columns item = r.equalitiesFrom columns (.named name)) ∧
    ∀ columns (items : List Source),
      items.flatMap (r.equalitiesFrom columns)
          = (items.filter Source.isTable).flatMap (r.equalitiesFrom columns)
        ↔ columns = [] ∨
          ∀ item ∈ items, ∀ name, item.call? = some name → r.pattern.covers name = false := by
  refine ⟨fun s => ?_, fun columns item => equalitiesFrom_of_isTable, ?_,
    fun columns item name => equalitiesFrom_of_call?, fun columns items => ?_⟩
  · rw [← equalities_eq_flatMap, ← discriminate_eq]
    simp [select]
  · intro level tokens item rest columns hread hcall
    exact equalitiesFrom_of_none (plainName?_of_isNamed (Grammar.source_isNamed hread hcall))
  · rw [flatMap_filter_eq_iff]
    simp only [equalitiesFrom_of_not_isTable]
    by_cases hcolumns : columns = []
    · simp [hcolumns]
    · simp [hcolumns]

/--
A call that is written like a table, and whose name is that of a table with a rule: the filter
gets a condition for it.
-/
theorem Rule.select_narrows_call :
    let p : Policy := ⟨[ordersRule], true⟩
    ∃ ss s t, Statement.parse .postgres "SELECT * FROM orders(1)" = .ok ss ∧ s ∈ ss ∧
      (p.enforce s).result = .ok t ∧
      t.render = "SELECT * FROM orders(1) WHERE orders.tenant_id = 'acme'" ∧
      ∃ b ∈ s.selects, ∃ item ∈ b.sources, item.isTable = false ∧
        ordersRule.equalitiesFrom (ordersRule.mapping.columnsFor (.select b)) item ≠ [] := by
  intro p
  obtain ⟨ss, s, t, hsql, hs, ht, hcheck⟩ := exists_enforced p .postgres
    "SELECT * FROM orders(1)"
    (fun s t => (t.render == "SELECT * FROM orders(1) WHERE orders.tenant_id = 'acme'")
      && s.selects.any fun b => b.sources.any fun item => !item.isTable
        && !(ordersRule.equalitiesFrom (ordersRule.mapping.columnsFor (.select b)) item).isEmpty)
    (by decide +kernel)
  rw [Bool.and_eq_true] at hcheck
  obtain ⟨hrender, hcall⟩ := hcheck
  obtain ⟨b, hb, hcall⟩ := List.any_eq_true.mp hcall
  obtain ⟨item, hitem, hcall⟩ := List.any_eq_true.mp hcall
  rw [Bool.and_eq_true, Bool.not_eq_true', Bool.not_eq_true', List.isEmpty_eq_false_iff] at hcall
  exact ⟨ss, s, t, hsql, hs, ht, eq_of_beq hrender, b, hb, item, hitem, hcall⟩

end RowScope
