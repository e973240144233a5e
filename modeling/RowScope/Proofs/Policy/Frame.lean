/-
What enforcing a policy leaves alone.

Of a tree nothing is changed but the filters of SELECTs and the columns of conflict
targets: a rule keeps the skeleton of each node it changes (`keepsSkeletons`), so every
pass keeps that of the statement.  Nothing is asked of the columns here.  A rule that works
them out for each node sees what the rules before it have made of the node, and other
columns in one place than in another, but what it does with them is the same.

The filter of a SELECT is followed through the passes.  It stays behind all conditions, and
after the first condition it is never put in parentheses again, since an AND is ahead of it
then.  The invariant is `Framed`: the SELECT is narrowed by equalities of rules that have
been enforced, and without these it has the skeleton it had.
-/
import RowScope.Proofs.Policy.Accumulation
import RowScope.Proofs.Sql.Skeleton

namespace RowScope

open Sql Enforcement

/--
A rule that covers no table of a statement, neither one that a SELECT reads under its own
name nor one that an INSERT writes into.
-/
def Rule.Misses (r : Rule) (s : Statement) : Prop :=
  (∀ b ∈ s.selects, ∀ name ∈ b.sources.filterMap Source.plainName?,
    r.pattern.covers name = false) ∧
  ∀ i ∈ s.inserts, ∀ name ∈ i.plainTarget?, r.pattern.covers name = false

instance (r : Rule) (s : Statement) : Decidable (r.Misses s) :=
  inferInstanceAs (Decidable (_ ∧ _))

namespace Enforcement

/-! ### Skeletons -/

theorem skeleton_discriminate (r : Rule) (s : Select) :
    (discriminate r s).skeleton = s.skeleton := by
  obtain ⟨flavor, quantifier, projection, into, sources, prefilter, filter, tail⟩ := s
  simp only [discriminate, Select.skeleton]

theorem skeleton_extendTarget (columns : List Ident) (c : OnClause) :
    (extendTarget columns c).skeleton = c.skeleton := by
  rcases c with _ | ⟨_ | (names | name), action⟩ | assignments
  case conflict.none => cases columns <;> simp [extendTarget, OnClause.skeleton]
  all_goals simp only [extendTarget, OnClause.skeleton]

theorem skeleton_extended (r : Rule) (i : Insert) : (extended r i).skeleton = i.skeleton := by
  obtain ⟨verb, target, aliased, columns, source, stead, partitions, conflict, returning⟩ := i
  unfold extended
  split
  · split
    · simp only [Insert.skeleton, skeleton_extendTarget]
    · rfl
  · rfl

theorem keepsSkeletons (r : Rule) : r.revision.KeepsSkeletons where
  select := skeleton_discriminate r
  insert := skeleton_extended r

theorem skeleton_foldl (rules : List Rule) (s : Statement) :
    (rules.foldl (fun s r => s.revise r.revision) s).skeleton = s.skeleton := by
  induction rules generalizing s with
  | nil => rfl
  | cons r rest ih => rw [List.foldl_cons, ih, Statement.skeleton_revise (keepsSkeletons r)]

/-! ### Filters -/

/-- A SELECT that is narrowed by equalities of some rules, and is else what it was. -/
def Framed (rules : List Rule) (before after : Select) : Prop :=
  ∃ inner es, inner.skeleton = before.skeleton ∧
    inner.filter.map Expr.skeleton = before.filter.map Expr.skeleton ∧
    (∀ e ∈ es, ∃ r ∈ rules, ∃ b, e ∈ r.equalities b) ∧ Narrowed inner es after

theorem joins_revise (w : Revision) {f : Expr} {xs : List Expr} (h : f.Joins xs) :
    (f.revise w).Joins (xs.map (Expr.revise w)) := by
  induction h with
  | operand e => exact .operand (e.revise w)
  | and _ _ ihl ihr =>
    rw [List.map_append]
    simp only [Expr.revise]
    exact .and ihl ihr

/-- What is inside a narrowed SELECT can be revised together with the conditions. -/
theorem Narrowed.reviseParts (w : Revision) {s y : Select} {ps : List Expr}
    (h : Narrowed s ps y) :
    Narrowed (s.reviseParts w) (ps.map (Expr.revise w)) (y.reviseParts w) := by
  cases h with
  | same => exact .same
  | ahead hne hf =>
    rename_i f
    have hjoins := joins_revise w hf
    obtain ⟨flavor, quantifier, projection, into, sources, prefilter, filter, tail⟩ := s
    simp only [Select.reviseParts, reviseFilter]
    refine .ahead (by simpa using hne) ?_
    cases filter with
    | none => simpa [reviseFilter] using hjoins
    | some e => simpa [reviseFilter, grouped_revise] using hjoins

theorem Framed.refl (b : Select) : Framed [] b b :=
  ⟨b, [], rfl, rfl, fun _ he => absurd he List.not_mem_nil, .same⟩

/-- A further rule only puts more equalities in front. -/
theorem Framed.snoc {rules : List Rule} {before after : Select} (h : Framed rules before after)
    (r : Rule) :
    Framed (rules ++ [r]) before (discriminate r (after.reviseParts r.revision)) := by
  obtain ⟨inner, es, hskeleton, hfilter, hes, hnarrowed⟩ := h
  have hsame : es.map (Expr.revise r.revision) = es := by
    refine (List.map_congr_left fun e he => ?_).trans es.map_id
    obtain ⟨r', -, b, hb⟩ := hes e he
    exact revise_of_mem_equalities r.revision hb
  have hparts := hnarrowed.reviseParts r.revision
  rw [hsame] at hparts
  refine ⟨inner.reviseParts r.revision, r.equalities (after.reviseParts r.revision) ++ es, ?_, ?_,
    ?_, ?_⟩
  · rw [Select.skeleton_reviseParts (keepsSkeletons r), hskeleton]
  · rw [filter_reviseParts, ← hfilter]
    cases inner.filter with
    | none => rfl
    | some e => simp only [reviseFilter, Option.map_some, Expr.skeleton_revise (keepsSkeletons r)]
  · intro e he
    rcases List.mem_append.mp he with he | he
    · exact ⟨r, List.mem_append_right _ List.mem_cons_self, _, he⟩
    · obtain ⟨r', hr', hb⟩ := hes e he
      exact ⟨r', List.mem_append_left _ hr', hb⟩
  · rw [discriminate_eq]
    refine hparts.restrict (fun e he => ?_) _
    obtain ⟨r', -, b, hb⟩ := hes e he
    exact not_loose_of_mem_equalities hb

/-- The SELECTs of a statement after some passes, next to those before them. -/
theorem selects_framed (rules : List Rule) (s : Statement) :
    List.Forall₂ (Framed rules) s.selects
      (rules.foldl (fun s r => s.revise r.revision) s).selects := by
  induction rules using List.reverseRecOn with
  | nil => exact List.forall₂_same.mpr fun b _ => Framed.refl b
  | append_singleton front r ih =>
    rw [List.foldl_append, List.foldl_cons, List.foldl_nil, Statement.selects_revise,
      List.forall₂_map_right_iff]
    exact ih.imp fun _ _ h => h.snoc r

/-! ### Rules that are about no table of a statement -/

theorem fixes_of_misses {r : Rule} {s : Statement} (h : r.Misses s) :
    ∀ n ∈ s.nodes, r.revision.Fixes n := by
  rintro (b | i) hn
  · have hnone : r.equalities b = [] := by
      have hfilter : (b.sources.filterMap Source.plainName?).filter r.pattern.covers = [] := by
        refine List.filter_eq_nil_iff.mpr fun name hname => ?_
        simp [h.1 b (Statement.mem_selects.mpr hn) name hname]
      rw [Rule.equalities, hfilter, List.flatMap_nil]
    show discriminate r b = b
    rw [discriminate_eq, hnone, Select.restrict]
  · have hi := h.2 i (Statement.mem_inserts.mpr hn)
    show extended r i = i
    unfold extended
    cases htarget : i.plainTarget? with
    | none => rfl
    | some name =>
      have hname : r.pattern.covers name = false := hi name htarget
      cases i.unlisted? <;> simp [hname]

theorem refuse_of_misses {r : Rule} {s : Statement} (h : r.Misses s) (strict : Bool) :
    s.inserts.findSome? (r.refuse strict) = none := by
  refine List.findSome?_eq_none_iff.mpr fun i hi => ?_
  have hnone : r.pattern.refusal? i = none := by
    unfold Pattern.Table.refusal?
    cases htarget : i.plainTarget? with
    | none => rfl
    | some name =>
      have hname : r.pattern.covers name = false := h.2 i hi name htarget
      cases i.unlisted? <;> simp [hname]
  rw [Rule.refuse, hnone, ite_self]

/-- Rules that miss a statement make nothing of it. -/
theorem enforceRules_of_misses (strict : Bool) {rules : List Rule} {s : Statement}
    (h : ∀ r ∈ rules, r.Misses s) : (Policy.enforceRules strict rules s).result = .ok s := by
  induction rules with
  | nil => rfl
  | cons r rest ih =>
    have hr := h r List.mem_cons_self
    rw [Policy.enforceRules, Outcome.result_bind, enforce_result, refuse_of_misses hr strict,
      settle_none, Statement.revise_of_fixed s (fixes_of_misses hr), ok_bind]
    exact ih fun r' hr' => h r' (List.mem_cons_of_mem r hr')

end Enforcement

/--
What a policy changes and what it does not, whether its columns are fixed or worked out.
The statement it gives has the skeleton of the statement it was given.  A SELECT keeps its
filter, which may have changed inside in the same two ways, as the last operand of the new
one behind equalities that rules impose, in parentheses if it binds looser than AND and
there are any.  And a statement that all rules miss is given back as it is.
-/
theorem Policy.enforce_frame (p : Policy) (s : Statement) :
    (∀ t, (p.enforce s).result = .ok t → t.skeleton = s.skeleton ∧
      List.Forall₂ (fun before after => ∃ inner es, inner.skeleton = before.skeleton ∧
          inner.filter.map Expr.skeleton = before.filter.map Expr.skeleton ∧
          (∀ e ∈ es, ∃ r ∈ p.rules, ∃ b, e ∈ r.equalities b) ∧ Narrowed inner es after)
        s.selects t.selects) ∧
    ((∀ r ∈ p.rules, r.Misses s) → (p.enforce s).result = .ok s) := by
  refine ⟨fun t ht => ?_, fun h => enforceRules_of_misses p.strict h⟩
  rw [Policy.enforce, Policy.enforceRules_result, settle_eq_ok] at ht
  obtain ⟨-, rfl⟩ := ht
  exact ⟨skeleton_foldl p.rules s, selects_framed p.rules s⟩

/-- A rule for the table `orders` that demands as many columns as there are FROM items. -/
def derivedRule : Rule :=
  ⟨⟨.exact "orders", none⟩, .derived fun
    | .select s => s.sources.map fun _ => (.bare "tenant_id", .text "acme")
    | .insert _ => [(.bare "region", .text "eu")]⟩

/--
Columns that are worked out, at an INSERT whose action has a subquery with an OR in its
filter, and a rule that is about none of the tables.
-/
theorem Policy.enforce_frame_derived :
    let p : Policy := ⟨[derivedRule, ordersRule], true⟩
    let q : Policy := ⟨[⟨⟨.exact "users", none⟩, .constant []⟩], true⟩
    let filter : Expr := .binary (.ident (.bare "open")) .or (.ident (.bare "paid"))
    let within : Query := ⟨[], .select (fromOrders (some filter)), []⟩
    let upsert : Statement := .insert
      ⟨"INSERT INTO", .table [.ident (.bare "orders")], none, [], some ⟨[], .values [], []⟩, [], [],
        .conflict none [.query within], []⟩
    (∃ t, (p.enforce upsert).result = .ok t ∧ t.skeleton = upsert.skeleton ∧
      List.Forall₂ (fun before after => ∃ inner es, inner.skeleton = before.skeleton ∧
          inner.filter.map Expr.skeleton = before.filter.map Expr.skeleton ∧
          (∀ e ∈ es, ∃ r ∈ p.rules, ∃ b, e ∈ r.equalities b) ∧ Narrowed inner es after)
        upsert.selects t.selects) ∧
    (∀ r ∈ q.rules, r.Misses upsert) ∧ (q.enforce upsert).result = .ok upsert := by
  intro p q filter within upsert
  have hmisses : ∀ r ∈ q.rules, r.Misses upsert := by
    intro r hr
    rw [List.mem_singleton.mp hr]
    constructor
    · intro b hb name hname
      rw [List.mem_singleton.mp hb] at hname
      rw [List.mem_singleton.mp hname]
      rfl
    · intro i hi name hname
      rw [List.mem_singleton.mp hi] at hname
      cases hname
      rfl
  have hframe := (Policy.enforce_frame p upsert).1 _ rfl
  exact ⟨⟨_, rfl, hframe.1, hframe.2⟩, hmisses, (Policy.enforce_frame q upsert).2 hmisses⟩

end RowScope
