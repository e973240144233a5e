/-
What several rules add up to.

Each rule goes over what the rules before it have made of a statement, so a later one
finds filters that it has not been written for: conditions of other rules, and queries
inside the filter that have been changed already.  Neither matters as long as columns are
fixed.  A rule reads nothing but the names of a FROM list, which no rule changes, and the
condition of an earlier rule is an equality or an AND of them, which is never put in
parentheses again.  So every pass does at a node what it would have done at the node as it
was, and the passes can be done at each node one after the other (`enforce_joint`).

The filter that results is read as the operands that AND joins in it, from left to right
(`Expr.Joins`).  The invariant of the induction on the rules is that no operand binds
looser than AND: it makes the filter so far a single operand for the next rule.
-/
import Mathlib.Data.List.Forall2
import Mathlib.Data.List.Induction
import RowScope.Proofs.Policy.Refusal

namespace RowScope

open Sql Enforcement

/-! ### All rules in one pass -/

/-- A policy in one walk: at each node, its rules one after the other. -/
def Policy.visitor (p : Policy) : Visitor Outcome where
  body b := p.rules.foldlM (fun b r => Enforcement.body r b) b
  insert i := p.rules.foldlM (fun i r => Enforcement.insert r p.strict i) i

/-- What several rules make of the nodes of a tree. -/
def jointRevision (rules : List Rule) : Revision :=
  rules.foldl (fun w r => w.andThen r.revision) .idle

/-- Rules whose columns are all fixed. -/
def ConstantRules (rules : List Rule) : Prop :=
  ∀ r ∈ rules, ∃ columns, r.mapping = .constant columns

theorem constantRules_nil : ConstantRules [] := List.forall_mem_nil _

theorem constantRules_cons {r : Rule} {rules : List Rule} {columns : Columns}
    (hr : r.mapping = .constant columns) (h : ConstantRules rules) : ConstantRules (r :: rules) :=
  List.forall_mem_cons.mpr ⟨⟨columns, hr⟩, h⟩

/-! ### Filters as operands of AND -/

/-- An expression in which AND joins the operands of a list, from left to right. -/
inductive Sql.Expr.Joins : Expr → List Expr → Prop
  | operand (e : Expr) : Joins e [e]
  | and {left right : Expr} {ls rs : List Expr} (hl : Joins left ls) (hr : Joins right rs) :
      Joins (.binary left .and right) (ls ++ rs)

namespace Enforcement

theorem joins_foldl {e : Expr} {xs : List Expr} (h : e.Joins xs) (es : List Expr) :
    (es.foldl (.binary · .and ·) e).Joins (xs ++ es) := by
  induction es generalizing e xs with
  | nil =>
    rw [List.append_nil]
    exact h
  | cons x rest ih =>
    have hx : xs ++ x :: rest = xs ++ [x] ++ rest := by rw [List.append_assoc]; rfl
    rw [List.foldl_cons, hx]
    exact ih (.and h (.operand x))

/-- Conditions in front of a filter come in front of its operands. -/
theorem joins_foldl_snoc {f : Expr} {zs : List Expr} (h : f.Joins zs) (q : Expr)
    (qs : List Expr) : ((qs ++ [f]).foldl (.binary · .and ·) q).Joins (q :: qs ++ zs) := by
  rw [List.foldl_append]
  exact .and (joins_foldl (.operand q) qs) h

/-- AND is looser than no operand of its own. -/
theorem not_loose_of_joins {f : Expr} {zs : List Expr} (h : f.Joins zs)
    (hzs : ∀ z ∈ zs, ¬z.Loose) : ¬f.Loose := by
  cases h with
  | operand => exact hzs f List.mem_cons_self
  | and => simp [Expr.Loose, Expr.topOp?]

theorem not_loose_of_mem_equalities {r : Rule} {s : Select} {e : Expr}
    (h : e ∈ r.equalities s) : ¬e.Loose := by
  simp only [Rule.equalities, List.mem_flatMap, List.mem_map] at h
  obtain ⟨name, -, ⟨column, v⟩, -, rfl⟩ := h
  simp [Expr.Loose, Expr.topOp?]

/-! ### Several rules at one SELECT -/

/-- The equalities of several rules, those of the last rule first. -/
def stacked (rules : List Rule) (s : Select) : List Expr :=
  rules.reverse.flatMap fun r => r.equalities s

/-- A SELECT with conditions ahead of its filter, however AND joins them. -/
inductive Narrowed (s : Select) : List Expr → Select → Prop
  /-- Without conditions the SELECT stays what it is. -/
  | same : Narrowed s [] s
  | ahead {ps : List Expr} {f : Expr} (hps : ps ≠ [])
      (hf : f.Joins (ps ++ (s.filter.map Expr.grouped).toList)) :
      Narrowed s ps { s with filter := some f }

theorem stacked_snoc (front : List Rule) (r : Rule) (s : Select) :
    stacked (front ++ [r]) s = r.equalities s ++ stacked front s := by
  simp only [stacked, List.reverse_append, List.reverse_cons, List.reverse_nil, List.nil_append,
    List.flatMap_append, List.flatMap_cons, List.flatMap_nil, List.append_nil]

theorem Narrowed.sources {s y : Select} {ps : List Expr} (h : Narrowed s ps y) :
    y.sources = s.sources := by
  cases h <;> rfl

/-- What is ahead of a filter binds tighter than OR, so nothing is put in parentheses again. -/
theorem Narrowed.restrict {s y : Select} {ps : List Expr} (h : Narrowed s ps y)
    (hps : ∀ p ∈ ps, ¬p.Loose) (es : List Expr) : Narrowed s (es ++ ps) (y.restrict es) := by
  cases es with
  | nil => exact h
  | cons q qs =>
    cases h with
    | same =>
      rw [List.append_nil]
      exact .ahead (List.cons_ne_nil q qs) (joins_foldl (.operand q) _)
    | ahead hne hf =>
      rename_i f
      have hoperands : ∀ z ∈ ps ++ (s.filter.map Expr.grouped).toList, ¬z.Loose := by
        intro z hz
        rcases List.mem_append.mp hz with hz | hz
        · exact hps z hz
        · rw [Option.mem_toList, Option.map_eq_some_iff] at hz
          obtain ⟨e, -, rfl⟩ := hz
          exact not_loose_grouped e
      have hsame : f.grouped = f := grouped_of_not_loose (not_loose_of_joins hf hoperands)
      have hjoins : ((qs ++ [f.grouped]).foldl (.binary · .and ·) q).Joins
          (q :: qs ++ ps ++ (s.filter.map Expr.grouped).toList) := by
        rw [hsame, List.append_assoc]
        exact joins_foldl_snoc hf q qs
      exact .ahead (List.append_ne_nil_of_left_ne_nil (List.cons_ne_nil q qs) ps) hjoins

/-- Rules at one SELECT, one after the other, put the conditions of the later ones in front. -/
theorem narrowed_foldl {rules : List Rule} (h : ConstantRules rules) (s : Select) :
    Narrowed s (stacked rules s) (rules.foldl (fun s r => discriminate r s) s) := by
  induction rules using List.reverseRecOn with
  | nil => exact .same
  | append_singleton front r ih =>
    have hfront : ConstantRules front := fun r' hr' => h r' (List.mem_append_left _ hr')
    obtain ⟨columns, hr⟩ := h r (List.mem_append_right _ List.mem_cons_self)
    have hnarrowed := ih hfront
    have hequalities : r.equalities (front.foldl (fun s r => discriminate r s) s)
        = r.equalities s := equalities_congr hr (by rw [hnarrowed.sources])
    rw [List.foldl_append, List.foldl_cons, List.foldl_nil, discriminate_eq, hequalities,
      stacked_snoc]
    refine hnarrowed.restrict (fun p hp => ?_) _
    obtain ⟨r', -, hr'⟩ := List.mem_flatMap.mp hp
    exact not_loose_of_mem_equalities hr'

/-! ### Several revisions at one node -/

theorem jointRevision_select (rules : List Rule) (s : Select) :
    (jointRevision rules).select s = rules.foldl (fun s r => discriminate r s) s := by
  have hfold : ∀ w : Revision, (rules.foldl (fun w r => w.andThen r.revision) w).select s
      = rules.foldl (fun s r => discriminate r s) (w.select s) := by
    induction rules with
    | nil => exact fun w => rfl
    | cons r rest ih => exact fun w => ih _
  exact hfold .idle

theorem jointRevision_insert (rules : List Rule) (i : Insert) :
    (jointRevision rules).insert i = rules.foldl (fun i r => extended r i) i := by
  have hfold : ∀ w : Revision, (rules.foldl (fun w r => w.andThen r.revision) w).insert i
      = rules.foldl (fun i r => extended r i) (w.insert i) := by
    induction rules with
    | nil => exact fun w => rfl
    | cons r rest ih => exact fun w => ih _
  exact hfold .idle

theorem steady_revision {r : Rule} {columns : Columns} (hr : r.mapping = .constant columns) :
    r.revision.Steady where
  select w s := discriminate_reviseParts hr w s
  insert w i := extended_reviseParts hr w i

/--
Whatever two steady revisions do as one, all revisions of a list of rules do as one.
-/
theorem foldl_revise {α : Type} (revise : Revision → α → α)
    (hfuse : ∀ {w : Revision}, w.Steady → ∀ w' a,
      revise w' (revise w a) = revise (w.andThen w') a)
    {rules : List Rule} (h : ConstantRules rules) {w : Revision} (hw : w.Steady) (a : α) :
    rules.foldl (fun a r => revise r.revision a) (revise w a)
      = revise (rules.foldl (fun w r => w.andThen r.revision) w) a := by
  induction rules generalizing w with
  | nil => rfl
  | cons r rest ih =>
    obtain ⟨columns, hr⟩ := h r List.mem_cons_self
    have hrest : ConstantRules rest := fun r' hr' => h r' (List.mem_cons_of_mem r hr')
    rw [List.foldl_cons, List.foldl_cons, hfuse hw]
    exact ih hrest (hw.andThen (steady_revision hr))

/-- Passes over a statement, one after the other, are one pass. -/
theorem revise_jointRevision {rules : List Rule} (h : ConstantRules rules) (s : Statement) :
    rules.foldl (fun s r => s.revise r.revision) s = s.revise (jointRevision rules) := by
  have hfold := foldl_revise (fun w s => Statement.revise w s)
    (fun hw w' s => Statement.revise_revise hw w' s) h Revision.steady_idle s
  rwa [Statement.revise_idle] at hfold

theorem reviseParts_jointRevision {rules : List Rule} (h : ConstantRules rules) (s : Select) :
    rules.foldl (fun s r => s.reviseParts r.revision) s = s.reviseParts (jointRevision rules) := by
  have hfold := foldl_revise (fun w s => Select.reviseParts w s)
    (fun hw w' s => Select.reviseParts_reviseParts hw w' s) h Revision.steady_idle s
  rwa [Select.reviseParts_idle] at hfold

/-! ### The joint pass -/

theorem onSelects_onSelects (f g : Select → Select) (b : Body) :
    (b.onSelects f).onSelects g = b.onSelects fun s => g (f s) := by
  cases b with
  | setOperation _ left right =>
    simp only [Body.onSelects, onSelects_onSelects f g left, onSelects_onSelects f g right]
  | _ => simp only [Body.onSelects]
termination_by structural b

theorem onSelects_id (b : Body) : b.onSelects (fun s => s) = b := by
  cases b with
  | setOperation _ left right =>
    simp only [Body.onSelects, onSelects_id left, onSelects_id right]
  | _ => simp only [Body.onSelects]
termination_by structural b

theorem foldlM_body_result (rules : List Rule) (b : Body) :
    (rules.foldlM (fun b r => body r b) b).result
      = .ok (b.onSelects fun s => rules.foldl (fun s r => discriminate r s) s) := by
  induction rules generalizing b with
  | nil =>
    rw [List.foldlM_nil, Outcome.result_pure]
    exact congrArg Except.ok (onSelects_id b).symm
  | cons r rest ih =>
    rw [List.foldlM_cons, Outcome.result_bind, body_result, ok_bind, ih, onSelects_onSelects]
    rfl

theorem foldlM_insert_result (rules : List Rule) (strict : Bool) (i : Insert) :
    (rules.foldlM (fun i r => insert r strict i) i).result
      = settle (rules.findSome? fun r => r.refuse strict i)
          (rules.foldl (fun i r => extended r i) i) := by
  induction rules generalizing i with
  | nil => rfl
  | cons r rest ih =>
    have hrest : (rest.findSome? fun r' => r'.refuse strict (extended r i))
        = rest.findSome? fun r' => r'.refuse strict i := by
      congr 1
      funext r'
      exact refuse_extended r' r strict i
    rw [List.foldlM_cons, Outcome.result_bind, insert_result]
    simp only [ih]
    rw [settle_bind_settle, hrest, List.findSome?_cons, List.foldl_cons]
    unfold Rule.refuse
    cases (if strict then r.pattern.refusal? i else none) <;> rfl

theorem joint_describedBy (p : Policy) :
    p.visitor.DescribedBy (jointRevision p.rules)
      (fun i => p.rules.findSome? fun r => r.refuse p.strict i) where
  body b := by
    rw [show (jointRevision p.rules).select = _ from funext (jointRevision_select p.rules)]
    exact foldlM_body_result p.rules b
  insert i := by
    rw [jointRevision_insert]
    exact foldlM_insert_result p.rules p.strict i
  refuse_reviseParts i := by
    congr 1
    funext r
    exact refuse_reviseParts r p.strict _ i

/-- Several passes give a statement if and only if the joint pass does. -/
theorem enforce_iff_joint {p : Policy} (h : ConstantRules p.rules) (s t : Statement) :
    (p.enforce s).result = .ok t ↔ (s.walk p.visitor).result = .ok t := by
  rw [Policy.enforce, Policy.enforceRules_result, Statement.walk_result (joint_describedBy p),
    findSome?_refusalAt, settle_eq_ok, settle_eq_ok, revise_jointRevision h]
  refine and_congr_left fun _ => ?_
  simp only [List.findSome?_eq_none_iff]
  exact ⟨fun hnone i hi r hr => hnone r hr i hi, fun hnone r hr i hi => hnone i hi r hr⟩

/--
All rules, one after the other, on a tree of some kind.  What a walk makes of such a tree,
its nodes and its revision are given.
-/
theorem foldlM_walk_result {α : Type} {walk : Visitor Outcome → α → Outcome α}
    {nodes : α → List Node} {revise : Revision → α → α}
    (hwalk : ∀ {v : Visitor Outcome} {w : Revision} {refuse : Insert → Option Unsupported},
      v.DescribedBy w refuse → ∀ a,
        (walk v a).result = settle ((nodes a).findSome? (refusalAt refuse)) (revise w a))
    (hnodes : ∀ (w : Revision) a, nodes (revise w a) = (nodes a).map (Node.revise w))
    (rules : List Rule) (strict : Bool) {a : α}
    (h : ∀ r ∈ rules, ∀ n ∈ nodes a, refusalAt (r.refuse strict) n = none) :
    rules.foldlM (fun a r => (walk (r.visitor strict) a).result) a
      = .ok (rules.foldl (fun a r => revise r.revision a) a) := by
  induction rules generalizing a with
  | nil => rfl
  | cons r rest ih =>
    have hr : (nodes a).findSome? (refusalAt (r.refuse strict)) = none :=
      List.findSome?_eq_none_iff.mpr (h r List.mem_cons_self)
    have hrest : ∀ r' ∈ rest, ∀ n ∈ nodes (revise r.revision a),
        refusalAt (r'.refuse strict) n = none := by
      intro r' hr' n hn
      rw [hnodes, List.mem_map] at hn
      obtain ⟨m, hm, rfl⟩ := hn
      rw [refusalAt_revise]
      exact h r' (List.mem_cons_of_mem r hr') m hm
    rw [List.foldlM_cons, hwalk (visitor_describedBy r strict), hr, settle_none, ok_bind]
    exact ih hrest

theorem stacked_reviseParts {rules : List Rule} (h : ConstantRules rules) (w : Revision)
    (s : Select) : stacked rules (s.reviseParts w) = stacked rules s := by
  refine List.flatMap_congr fun r hr => ?_
  obtain ⟨columns, hcolumns⟩ := h r (List.mem_reverse.mp hr)
  exact equalities_reviseParts hcolumns w s

/-- Each SELECT of a statement that is given is narrowed, once all rules are done inside it. -/
theorem selects_narrowed {p : Policy} (h : ConstantRules p.rules) {s t : Statement}
    (ht : (p.enforce s).result = .ok t) :
    List.Forall₂ (fun before after => before ∈ s.selects ∧
        p.rules.foldlM (fun b r => (b.walk (r.visitor p.strict)).result) before
          = .ok (before.reviseParts (jointRevision p.rules)) ∧
        Narrowed (before.reviseParts (jointRevision p.rules)) (stacked p.rules before) after)
      s.selects t.selects := by
  rw [Policy.enforce, Policy.enforceRules_result, settle_eq_ok, revise_jointRevision h] at ht
  obtain ⟨hnone, rfl⟩ := ht
  rw [Statement.selects_revise, List.forall₂_map_right_iff, List.forall₂_same]
  intro b hb
  have hinner : ∀ r ∈ p.rules, ∀ n ∈ b.inner, refusalAt (r.refuse p.strict) n = none :=
    fun r hr => refusalAt_inner (List.findSome?_eq_none_iff.mp hnone r hr) hb
  refine ⟨hb, ?_, ?_⟩
  · rw [foldlM_walk_result Select.walk_result Select.inner_reviseParts p.rules p.strict hinner,
      reviseParts_jointRevision h]
  · rw [jointRevision_select, ← stacked_reviseParts h (jointRevision p.rules) b]
    exact narrowed_foldl h _

end Enforcement

/--
Enforcing rules with fixed columns one after the other is enforcing them all at once.  The
passes give what one pass with all rules gives, and each SELECT of the statement becomes
the SELECT with everything inside it under all rules, its filter narrowed by the conditions
of the rules, those of the last rule first, for the FROM list it had at first.
-/
theorem Policy.enforce_accumulates {p : Policy} (h : ConstantRules p.rules) (s : Statement) :
    (∀ t, (p.enforce s).result = .ok t ↔ (s.walk p.visitor).result = .ok t) ∧
    ∀ t, (p.enforce s).result = .ok t →
      List.Forall₂ (fun before after => ∃ inner,
          p.rules.foldlM (fun b r => (b.walk (r.visitor p.strict)).result) before = .ok inner ∧
          Narrowed inner (stacked p.rules before) after)
        s.selects t.selects := by
  refine ⟨enforce_iff_joint h s, fun t ht => (selects_narrowed h ht).imp ?_⟩
  rintro before after ⟨-, hinner, hnarrowed⟩
  exact ⟨_, hinner, hnarrowed⟩

/-- Another rule for the table `orders`, with another fixed column. -/
def regionRule : Rule := ⟨⟨.exact "orders", none⟩, .constant [(.bare "region", .text "eu")]⟩

/-- Three rules, one of them twice, at a SELECT with an OR and a subquery in its filter. -/
theorem Policy.enforce_accumulates_thrice :
    let p : Policy := ⟨[ordersRule, regionRule, ordersRule], true⟩
    let within : Expr := .subquery ⟨[], .select (fromOrders none), []⟩
    let filter : Expr := .binary (.ident (.bare "open")) .or (.unary "EXISTS " within)
    let query : Statement := .query ⟨[], .select (fromOrders (some filter)), []⟩
    ConstantRules p.rules ∧
    ∃ t, (p.enforce query).result = .ok t ∧ (query.walk p.visitor).result = .ok t ∧
      List.Forall₂ (fun before after => ∃ inner,
          p.rules.foldlM (fun b r => (b.walk (r.visitor p.strict)).result) before = .ok inner ∧
          Narrowed inner (stacked p.rules before) after)
        query.selects t.selects := by
  intro p within filter query
  have hconstant : ConstantRules p.rules := by
    intro r hr
    rcases List.mem_cons.mp hr with rfl | hr
    · exact ⟨_, rfl⟩
    · rcases List.mem_cons.mp hr with rfl | hr
      · exact ⟨_, rfl⟩
      · rw [List.mem_singleton.mp hr]
        exact ⟨_, rfl⟩
  obtain ⟨hjoint, hselects⟩ := Policy.enforce_accumulates hconstant query
  exact ⟨hconstant, _, rfl, (hjoint _).mp rfl, hselects _ rfl⟩

end RowScope
