/-
What enforcing one rule comes to.

A rule revises: each SELECT gets its equalities and each INSERT its conflict target, once
and after everything inside it.  `enforce_result` says so for a whole statement, together
with the one way in which it can end otherwise, an INSERT that is refused.

The operands of a set operation are bodies and no queries, so the walk does not stop at
them; the rule looks after them itself, in a recursion of its own (`body_result`).  Those
two recursions meet every SELECT once between them, which is what `enforce_selects` says
of the lists of all SELECTs before and after.
-/
import Mathlib.Data.List.Forall2
import RowScope.Policy
import RowScope.Proofs.Enforcement.Insert
import RowScope.Proofs.Enforcement.Select
import RowScope.Proofs.Enforcement.Walk

namespace RowScope

open Sql Enforcement

/-- What a rule makes of the nodes of a tree. -/
def Rule.revision (r : Rule) : Revision where
  select := discriminate r
  insert := extended r
  inner_select := inner_discriminate r
  inner_insert := inner_extended r

/-- What an INSERT is refused for, where refusals count. -/
def Rule.refuse (r : Rule) (strict : Bool) (i : Insert) : Option Unsupported :=
  if strict then r.pattern.refusal? i else none

namespace Enforcement

theorem body_result (r : Rule) (b : Body) :
    (body r b).result = .ok (b.onSelects (discriminate r)) := by
  cases b with
  | select s => simp [body, select, Body.onSelects]
  | setOperation _ left right =>
    simp [body, body_result r left, body_result r right, Body.onSelects]
  | _ => simp [body, Body.onSelects]
termination_by structural b

theorem refuse_reviseParts (r : Rule) (strict : Bool) (w : Revision) (i : Insert) :
    r.refuse strict (i.reviseParts w) = r.refuse strict i := by
  unfold Rule.refuse
  rw [refusal?_reviseParts]

/-- A rule keeps what any rule has against an INSERT. -/
theorem refuse_extended (r r' : Rule) (strict : Bool) (i : Insert) :
    r.refuse strict (extended r' i) = r.refuse strict i := by
  unfold Rule.refuse
  rw [refusal?_extended]

theorem refusalAt_revise (r r' : Rule) (strict : Bool) (n : Node) :
    refusalAt (r.refuse strict) (n.revise r'.revision) = refusalAt (r.refuse strict) n := by
  cases n with
  | select s => rfl
  | insert i => exact (refuse_extended r r' strict _).trans (refuse_reviseParts r strict _ i)

theorem visitor_describedBy (r : Rule) (strict : Bool) :
    (r.visitor strict).DescribedBy r.revision (r.refuse strict) where
  body := body_result r
  insert := insert_result r strict
  refuse_reviseParts := refuse_reviseParts r strict r.revision

/-- The first node that is refused is the first INSERT that is. -/
theorem findSome?_refusalAt (refuse : Insert → Option Unsupported) (ns : List Node) :
    ns.findSome? (refusalAt refuse) = (ns.filterMap Node.insert?).findSome? refuse := by
  induction ns with
  | nil => rfl
  | cons n rest ih =>
    cases n with
    | select s =>
      rw [List.findSome?_cons, List.filterMap_cons]
      exact ih
    | insert i =>
      rw [List.findSome?_cons, List.filterMap_cons]
      simp only [refusalAt, Node.insert?, List.findSome?_cons, ih]

/-- Enforcing a rule revises the statement, unless an INSERT of it is refused. -/
theorem enforce_result (r : Rule) (strict : Bool) (s : Statement) :
    (r.enforce strict s).result
      = settle (s.inserts.findSome? (r.refuse strict)) (s.revise r.revision) := by
  rw [Rule.enforce, Statement.walk_result (visitor_describedBy r strict), findSome?_refusalAt]
  rfl

/-! ### What is inside a node of a statement -/

/-- Where no INSERT of a statement is refused, none inside a node of it is. -/
theorem refusalAt_of_mem {refuse : Insert → Option Unsupported} {s : Statement}
    (h : s.inserts.findSome? refuse = none) {n : Node} (hn : n ∈ s.nodes) :
    ∀ m ∈ n.inner, refusalAt refuse m = none := by
  rw [Statement.inserts, ← findSome?_refusalAt, List.findSome?_eq_none_iff] at h
  exact fun m hm => h m (s.nodes_closed n hn m hm)

/-- Where no INSERT of a statement is refused, none inside one of its SELECTs is. -/
theorem refusalAt_inner {refuse : Insert → Option Unsupported} {s : Statement}
    (h : s.inserts.findSome? refuse = none) {b : Select} (hb : b ∈ s.selects) :
    ∀ n ∈ b.inner, refusalAt refuse n = none :=
  refusalAt_of_mem h (Statement.mem_selects.mp hb)

end Enforcement

/--
Every SELECT of a statement is discriminated once.  Each of them, in whatever query, set
operation or expression it stands, becomes the SELECT that the walk makes of its parts,
with the equalities of the rule for it ahead of its own filter and nothing else changed.
-/
theorem Rule.enforce_selects {r : Rule} {strict : Bool} {s t : Statement}
    (h : (r.enforce strict s).result = .ok t) :
    List.Forall₂ (fun before after => ∃ inner,
        (before.walk (r.visitor strict)).result = .ok inner ∧
        after = inner.restrict (r.equalities inner))
      s.selects t.selects := by
  rw [enforce_result, settle_eq_ok] at h
  obtain ⟨hnone, rfl⟩ := h
  rw [Statement.selects_revise, List.forall₂_map_right_iff, List.forall₂_same]
  intro b hb
  have hinner : b.inner.findSome? (refusalAt (r.refuse strict)) = none :=
    List.findSome?_eq_none_iff.mpr (refusalAt_inner hnone hb)
  refine ⟨b.reviseParts r.revision, ?_, discriminate_eq r _⟩
  rw [Select.walk_result (visitor_describedBy r strict), hinner, settle_none]

/-- A rule for the table `orders`, with one fixed column. -/
def ordersRule : Rule :=
  ⟨⟨.exact "orders", none⟩, .constant [(.bare "tenant_id", .text "acme")]⟩

/-- `SELECT * FROM orders`, with a filter. -/
def fromOrders (filter : Option Expr) : Select :=
  ⟨.standard, [], [[.text "*"]], "", [⟨.table [.ident (.bare "orders")] [] [] none [], []⟩], [],
    filter, []⟩

/-- A subquery in one operand of a UNION, below an OR: three SELECTs, all of them discriminated. -/
theorem Rule.enforce_selects_union :
    let within : Expr := .subquery ⟨[], .select (fromOrders none), []⟩
    let filter : Expr := .binary (.ident (.bare "open")) .or (.unary "EXISTS " within)
    let union : Statement := .query
      ⟨[], .setOperation "UNION" (.select (fromOrders (some filter))) (.select (fromOrders none)),
        []⟩
    ∃ t, (ordersRule.enforce true union).result = .ok t ∧
      List.Forall₂ (fun before after => ∃ inner,
          (before.walk (ordersRule.visitor true)).result = .ok inner ∧
          after = inner.restrict (ordersRule.equalities inner))
        union.selects t.selects :=
  ⟨_, rfl, Rule.enforce_selects rfl⟩

end RowScope
