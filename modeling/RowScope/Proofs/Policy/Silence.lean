/-
Rules that demand nothing.

A rule whose mapping gives no column for any part of a statement has no equality to put in
front of a filter and nothing to add to a conflict target.  It leaves every node as it is, so
its pass over a statement comes to the same statement (`Rule.Undemanding.revise`).

What such a rule still has is its say in refusals.  Whether an INSERT can be discriminated is
asked before its columns are worked out, so a strict pass refuses the same INSERTs with
columns and without.  Among other rules that is all that is seen of it: the statement is the
one that the others come to, or there is none.
-/
import RowScope.Proofs.Policy.Conflict
import RowScope.Proofs.Policy.Refusal

namespace RowScope

open Sql Enforcement

/-- A rule that demands no column of any part of a statement. -/
def Rule.Undemanding (r : Rule) : Prop := ∀ subject, r.mapping.columnsFor subject = []

namespace Rule.Undemanding

variable {r : Rule} (h : r.Undemanding)
include h

/-! ### Nodes -/

theorem equalities_eq_nil (s : Select) : r.equalities s = [] := by
  unfold Rule.equalities
  rw [h (.select s)]
  exact List.flatMap_eq_nil_iff.mpr fun name _ => rfl

theorem extended_eq (i : Insert) : extended r i = i := by
  unfold extended
  split
  · rename_i name _ _
    by_cases hcovers : r.pattern.covers name = true
    · rw [if_pos hcovers, h (.insert i)]
      show { i with conflict := extendTarget [] i.conflict } = i
      rw [extendTarget_nil]
      cases i
      rfl
    · rw [if_neg hcovers]
  · rfl

/-- No node is changed, whatever is inside it. -/
theorem fixes (n : Node) : r.revision.Fixes n := by
  cases n with
  | select s =>
    show discriminate r s = s
    rw [discriminate_eq, h.equalities_eq_nil, Select.restrict]
  | insert i => exact h.extended_eq i

/-! ### Passes -/

theorem revise (s : Statement) : s.revise r.revision = s :=
  s.revise_of_fixed fun n _ => h.fixes n

/-- A pass gives the statement back, unless it refuses one of its INSERTs. -/
theorem enforce_eq (strict : Bool) (s : Statement) :
    (r.enforce strict s).result = settle (s.inserts.findSome? (r.refuse strict)) s := by
  rw [enforce_result, h.revise]

/-- Among other rules it only has its say in refusals, behind that of the rules ahead of it. -/
theorem enforceRules_eq (strict : Bool) (front back : List Rule) (s : Statement) :
    (Policy.enforceRules strict (front ++ r :: back) s).result
      = settle ((front.findSome? fun r => s.inserts.findSome? (r.refuse strict)).or
          ((s.inserts.findSome? (r.refuse strict)).or
            (back.findSome? fun r => s.inserts.findSome? (r.refuse strict))))
          ((front ++ back).foldl (fun s r => s.revise r.revision) s) := by
  have hfold : (front ++ r :: back).foldl (fun s r => s.revise r.revision) s
      = (front ++ back).foldl (fun s r => s.revise r.revision) s := by
    rw [List.foldl_append, List.foldl_append, List.foldl_cons, h.revise]
  rw [Policy.enforceRules_result, hfold, List.findSome?_append, List.findSome?_cons]
  cases s.inserts.findSome? (r.refuse strict) <;> rfl

/-- A rule that refuses nothing of a statement can be left out. -/
theorem enforceRules_of_none {strict : Bool} {s : Statement}
    (hnone : s.inserts.findSome? (r.refuse strict) = none) (front back : List Rule) :
    (Policy.enforceRules strict (front ++ r :: back) s).result
      = (Policy.enforceRules strict (front ++ back) s).result := by
  rw [h.enforceRules_eq, hnone, Option.none_or, Policy.enforceRules_result, List.findSome?_append]

/-- What the rule refuses is refused, unless a rule ahead of it refuses something first. -/
theorem enforceRules_of_some {strict : Bool} {s : Statement} {u : Unsupported}
    (hsome : s.inserts.findSome? (r.refuse strict) = some u) (front back : List Rule) :
    (Policy.enforceRules strict (front ++ r :: back) s).result
      = .error ((front.findSome? fun r => s.inserts.findSome? (r.refuse strict)).getD u) := by
  rw [h.enforceRules_eq, hsome]
  cases front.findSome? fun r => s.inserts.findSome? (r.refuse strict) <;> rfl

end Rule.Undemanding

/-- A pass refuses nothing if it is not strict, or if nothing speaks against any INSERT. -/
theorem Rule.findSome?_refuse_eq_none {r : Rule} {strict : Bool} {is : List Insert}
    (h : strict = true → ∀ i ∈ is, r.pattern.refusal? i = none) :
    is.findSome? (r.refuse strict) = none := by
  refine List.findSome?_eq_none_iff.mpr fun i hi => ?_
  unfold Rule.refuse
  by_cases hstrict : strict = true
  · rw [if_pos hstrict]
    exact h hstrict i hi
  · rw [if_neg hstrict]

/--
A rule that demands nothing gives every statement back as it is, and wherever it stands among
other rules it can be left out, if the pass is not strict or no INSERT of the statement has a
target that the pattern covers and rows that are not listed.  Where there is such an INSERT, a
strict pass fails with what is refused of the first one; among other rules the policy fails,
with that or with what the rules ahead of it refuse.
-/
theorem Policy.enforce_undemanding {r : Rule} (hr : r.Undemanding) (s : Statement) :
    (∀ strict, (strict = true → ∀ i ∈ s.inserts, r.pattern.refusal? i = none) →
      (r.enforce strict s).result = .ok s ∧
      ∀ front back : List Rule, ((Policy.mk (front ++ r :: back) strict).enforce s).result
        = ((Policy.mk (front ++ back) strict).enforce s).result) ∧
    ∀ u, s.inserts.findSome? r.pattern.refusal? = some u →
      (r.enforce true s).result = .error u ∧
      ∀ front back : List Rule, ((Policy.mk (front ++ r :: back) true).enforce s).result
        = .error ((front.findSome? fun r => s.inserts.findSome? r.pattern.refusal?).getD u) := by
  constructor
  · intro strict hallowed
    have hnone := Rule.findSome?_refuse_eq_none hallowed
    constructor
    · rw [hr.enforce_eq, hnone, settle_none]
    · intro front back
      exact hr.enforceRules_of_none hnone front back
  · intro u hsome
    have hrefuse : s.inserts.findSome? (r.refuse true) = some u := hsome
    constructor
    · rw [hr.enforce_eq, hrefuse, settle_some]
    · intro front back
      exact hr.enforceRules_of_some hrefuse front back

/-- A rule for the table `orders` that is written without columns. -/
def columnlessRule : Rule := ⟨⟨.exact "orders", none⟩, .constant []⟩

/-- `INSERT INTO orders`, with a source for its rows. -/
def intoOrders (source : Option Query) (conflict : OnClause) : Statement := .insert
  ⟨"INSERT INTO ", .table [.ident (.bare "orders")], none, [], source, [], [], conflict, []⟩

/--
An upsert of listed rows, which passes between two other rules, and rows that are copied, which
are refused ahead of a rule that has columns.
-/
theorem Policy.enforce_undemanding_upsert :
    let upsert := intoOrders (some ⟨[], .values [], []⟩) (.conflict none [])
    let copied := intoOrders (some ⟨[], .select (fromOrders none), []⟩) .absent
    columnlessRule.Undemanding ∧
    (∀ i ∈ upsert.inserts, columnlessRule.pattern.refusal? i = none) ∧
    (columnlessRule.enforce true upsert).result = .ok upsert ∧
    ((Policy.mk [ordersRule, columnlessRule, ordersRule] true).enforce upsert).result
      = ((Policy.mk [ordersRule, ordersRule] true).enforce upsert).result ∧
    copied.inserts.findSome? columnlessRule.pattern.refusal? = some ⟨"orders", .select⟩ ∧
    ((Policy.mk [columnlessRule, ordersRule] true).enforce copied).result
      = .error ⟨"orders", .select⟩ := by
  intro upsert copied
  have hempty : columnlessRule.Undemanding := fun _ => rfl
  have hlisted : ∀ i ∈ upsert.inserts, columnlessRule.pattern.refusal? i = none := by
    intro i hi
    rw [List.mem_singleton.mp hi]
    rfl
  have hcopied : copied.inserts.findSome? columnlessRule.pattern.refusal?
      = some ⟨"orders", .select⟩ := rfl
  obtain ⟨hsame, hamong⟩ := (Policy.enforce_undemanding hempty upsert).1 true fun _ => hlisted
  obtain ⟨-, hrefused⟩ := (Policy.enforce_undemanding hempty copied).2 _ hcopied
  exact ⟨hempty, hlisted, hsame, hamong [ordersRule] [ordersRule], hcopied,
    hrefused [] [ordersRule]⟩

/--
A strict pass of a rule without columns that fails.  The statement is one that no rules at all
give back, and the rule that demands nothing is the only one there is.
-/
theorem Policy.undemanding_refuses :
    let rows : Query := ⟨[], .select (fromOrders none), []⟩
    let copied := intoOrders (some rows) .absent
    columnlessRule.Undemanding ∧
    (columnlessRule.enforce true copied).result = .error ⟨"orders", .select⟩ ∧
    ((Policy.mk [] true).enforce copied).result = .ok copied ∧
    ((Policy.mk [columnlessRule] true).enforce copied).result = .error ⟨"orders", .select⟩ :=
  ⟨fun _ => rfl, rfl, rfl, rfl⟩

end RowScope
