/-
Whether a filter is grouped once conditions stand in front of it.

A filter is put in parentheses if its own operator is OR or XOR; nothing is done about
operators further down.  That is enough for OR, which stands on top wherever it stands
bare: what the grammar reads is graded.  It is not enough for an operator that takes any
expression to its right, and an OR there stays bare; nor for XOR, which binds tighter
than AND, and tighter than a comparison, so that it stands bare below either of them.

Such an operator is no part of a conjunct for those who read the text with AND binding
tighter than OR and XOR.  `Policy.enforce_groups` says exactly which filters leave one.
-/
import RowScope.Proofs.Policy.Accumulation
import RowScope.Proofs.Sql.Grammar.Statement

namespace RowScope

open Sql Enforcement

/-- An OR or an XOR stands outside of parentheses. -/
def Sql.Expr.Exposes (e : Expr) : Prop := ∃ b ∈ e.bare false, b.op = .or ∨ b.op = .xor

instance : DecidablePred Sql.Expr.Exposes := fun e =>
  inferInstanceAs (Decidable (∃ b ∈ e.bare false, b.op = .or ∨ b.op = .xor))

namespace Enforcement

/-! ### What is exposed -/

theorem exposes_revise (w : Revision) (e : Expr) : (e.revise w).Exposes ↔ e.Exposes := by
  unfold Expr.Exposes
  rw [e.bare_revise]

/-- Parentheses are only put around what is loose, and hide all of it. -/
theorem exposes_grouped (e : Expr) : e.grouped.Exposes ↔ ¬e.Loose ∧ e.Exposes := by
  by_cases h : e.Loose
  · rw [Expr.grouped, if_pos h]
    simp [Expr.Exposes, Expr.bare, h]
  · rw [grouped_of_not_loose h]
    simp [h]

/-- An AND exposes what its operands expose. -/
theorem exposes_and (left right : Expr) :
    (Expr.binary left .and right).Exposes ↔ left.Exposes ∨ right.Exposes := by
  simp [Expr.Exposes, Expr.bare, BinaryOp.isOpen, or_and_right, exists_or]

theorem exposes_joins {f : Expr} {es : List Expr} (h : f.Joins es) :
    f.Exposes ↔ ∃ e ∈ es, e.Exposes := by
  induction h with
  | operand e => simp
  | and _ _ ihl ihr =>
    rw [exposes_and, ihl, ihr]
    simp only [List.mem_append, or_and_right, exists_or]

theorem not_exposes_of_mem_stacked {rules : List Rule} {s : Select} {e : Expr}
    (h : e ∈ stacked rules s) : ¬e.Exposes := by
  obtain ⟨r, -, hr⟩ := List.mem_flatMap.mp h
  simp only [Rule.equalities, List.mem_flatMap, List.mem_map] at hr
  obtain ⟨name, -, ⟨column, v⟩, -, rfl⟩ := hr
  simp [Expr.Exposes, Expr.bare]

/-- What stands behind the conditions is all that is exposed. -/
theorem exposes_behind_stacked {rules : List Rule} {s : Select} {f g : Expr}
    (h : f.Joins (stacked rules s ++ [g])) : f.Exposes ↔ g.Exposes := by
  rw [exposes_joins h]
  constructor
  · rintro ⟨e, he, hexposes⟩
    rcases List.mem_append.mp he with he | he
    · exact absurd hexposes (not_exposes_of_mem_stacked he)
    · exact List.mem_singleton.mp he ▸ hexposes
  · exact fun hexposes => ⟨g, List.mem_append_right _ (List.mem_singleton.mpr rfl), hexposes⟩

/-- What a graded filter exposes below an operator of its own. -/
theorem exposes_of_graded {e : Expr} (hgraded : e.Graded) (hloose : ¬e.Loose) :
    e.Exposes ↔ ∃ b ∈ e.bare false, b.op = .xor ∨ b = ⟨.or, true⟩ := by
  have hfree : e.OrFree := hgraded.resolve_right fun htop => hloose (.inl htop)
  refine exists_congr fun b => and_congr_right fun hb => ?_
  constructor
  · rintro (hor | hxor)
    · obtain ⟨op, behind⟩ := b
      cases behind with
      | false => exact absurd (hor ▸ hb) hfree
      | true => exact .inr (by rw [← hor])
    · exact .inl hxor
  · rintro (hxor | rfl)
    · exact .inr hxor
    · exact .inl rfl

/-! ### The filter behind the conditions -/

/-- The filters of statements that are read are graded. -/
theorem graded_of_parse {d : Dialect} {sql : String} {ss : List Statement}
    (hsql : Statement.parse d sql = .ok ss) {s : Statement} (hs : s ∈ ss) {b : Select}
    (hb : b ∈ s.selects) {w : Expr} (hw : b.filter = some w) : w.Graded := by
  have hclean : Clean s := clean_iff.mp (Statement.clean_parse hsql) s hs
  exact hclean (.select b) (Statement.mem_selects.mp hb) w hw

/-- A filter with conditions in front of it is the last operand of AND. -/
theorem Narrowed.filter {s y : Select} {ps : List Expr} (h : Narrowed s ps y) (hps : ps ≠ [])
    {v : Expr} (hv : s.filter = some v) :
    ∃ f, y.filter = some f ∧ f.Joins (ps ++ [v.grouped]) := by
  cases h with
  | same => exact absurd rfl hps
  | ahead _ hf =>
    rw [hv] at hf
    exact ⟨_, rfl, hf⟩

/-- A statement that is read and enforced, told by what is computed of the two. -/
theorem exists_enforced (p : Policy) (d : Dialect) (sql : String)
    (check : Statement → Statement → Bool)
    (h : (Statement.parse d sql).toOption.any (·.any fun s =>
      (p.enforce s).result.toOption.any (check s)) = true) :
    ∃ ss s t, Statement.parse d sql = .ok ss ∧ s ∈ ss ∧ (p.enforce s).result = .ok t ∧
      check s t = true := by
  cases hsql : Statement.parse d sql with
  | error e =>
    rw [hsql] at h
    cases h
  | ok ss =>
    rw [hsql] at h
    obtain ⟨s, hs, h⟩ := List.any_eq_true.mp h
    cases ht : (p.enforce s).result with
    | error u =>
      rw [ht] at h
      cases h
    | ok t =>
      rw [ht] at h
      exact ⟨ss, s, t, rfl, hs, ht, h⟩

theorem constantRules_orders : ConstantRules [ordersRule] :=
  constantRules_cons rfl constantRules_nil

end Enforcement

/--
A filter stands behind the conditions as their last operand, in parentheses if its own
operator is OR or XOR.  Otherwise it exposes an OR or an XOR exactly if an XOR stands bare
in it, or an OR behind an operator that takes any expression to its right.  This is so for
every statement of a text of any dialect, and every list of rules with fixed columns.
-/
theorem Policy.enforce_groups {p : Policy} (h : ConstantRules p.rules) {d : Dialect}
    {sql : String} {ss : List Statement} (hsql : Statement.parse d sql = .ok ss)
    {s t : Statement} (hs : s ∈ ss) (ht : (p.enforce s).result = .ok t) :
    List.Forall₂ (fun before after => ∀ w, before.filter = some w → stacked p.rules before ≠ [] →
        ∃ inner v f,
          p.rules.foldlM (fun b r => (b.walk (r.visitor p.strict)).result) before = .ok inner ∧
          inner.filter = some v ∧ after.filter = some f ∧
          f.Joins (stacked p.rules before ++ [v.grouped]) ∧
          (f.Exposes ↔ v.grouped.Exposes) ∧
          (v.grouped.Exposes ↔
            ¬w.Loose ∧ ∃ b ∈ w.bare false, b.op = .xor ∨ b = ⟨.or, true⟩))
      s.selects t.selects := by
  refine (selects_narrowed h ht).imp ?_
  rintro before after ⟨hmem, hinner, hnarrowed⟩ w hw hps
  have hv : (before.reviseParts (jointRevision p.rules)).filter
      = some (w.revise (jointRevision p.rules)) := by
    rw [filter_reviseParts, hw, reviseFilter]
  obtain ⟨f, hf, hjoins⟩ := hnarrowed.filter hps hv
  refine ⟨_, _, f, hinner, hv, hf, hjoins, exposes_behind_stacked hjoins, ?_⟩
  rw [exposes_grouped, loose_revise, exposes_revise]
  exact and_congr_right fun hloose => exposes_of_graded (graded_of_parse hsql hs hmem hw) hloose

/-- An OR in the filter and a query below it: both SELECTs get the condition. -/
theorem Policy.enforce_groups_nested :
    let p : Policy := ⟨[ordersRule], true⟩
    ∃ ss s t, ConstantRules p.rules ∧
      Statement.parse .postgres "SELECT * FROM orders WHERE a OR b IN (SELECT c FROM orders)"
        = .ok ss ∧
      s ∈ ss ∧ (p.enforce s).result = .ok t ∧
      t.render = "SELECT * FROM orders WHERE orders.tenant_id = 'acme'"
        ++ " AND (a OR b IN (SELECT c FROM orders WHERE orders.tenant_id = 'acme'))" ∧
      List.Forall₂
        (fun before after => ∀ w, before.filter = some w → stacked p.rules before ≠ [] →
          ∃ inner v f,
            p.rules.foldlM (fun b r => (b.walk (r.visitor p.strict)).result) before = .ok inner ∧
            inner.filter = some v ∧ after.filter = some f ∧
            f.Joins (stacked p.rules before ++ [v.grouped]) ∧
            (f.Exposes ↔ v.grouped.Exposes) ∧
            (v.grouped.Exposes ↔
              ¬w.Loose ∧ ∃ b ∈ w.bare false, b.op = .xor ∨ b = ⟨.or, true⟩))
        s.selects t.selects := by
  intro p
  obtain ⟨ss, s, t, hsql, hs, ht, hrender⟩ := exists_enforced p .postgres
    "SELECT * FROM orders WHERE a OR b IN (SELECT c FROM orders)"
    (fun _ t => t.render == "SELECT * FROM orders WHERE orders.tenant_id = 'acme'"
      ++ " AND (a OR b IN (SELECT c FROM orders WHERE orders.tenant_id = 'acme'))")
    (by decide +kernel)
  exact ⟨ss, s, t, constantRules_orders, hsql, hs, ht, eq_of_beq hrender,
    Policy.enforce_groups constantRules_orders hsql hs ht⟩

/--
An XOR below an AND stays bare.  Where AND is read as the tighter of the two, the rows for
which `c = 3` holds are no longer bound to the tenant.
-/
theorem Policy.enforce_exposes_xor :
    let p : Policy := ⟨[ordersRule], true⟩
    ∃ ss s t, ConstantRules p.rules ∧
      Statement.parse .postgres "SELECT * FROM orders WHERE a = 1 AND b = 2 XOR c = 3"
        = .ok ss ∧
      s ∈ ss ∧ (p.enforce s).result = .ok t ∧
      t.render = "SELECT * FROM orders WHERE orders.tenant_id = 'acme'"
        ++ " AND a = 1 AND b = 2 XOR c = 3" ∧
      ¬List.Forall₂
        (fun before after => ∀ w, before.filter = some w → stacked p.rules before ≠ [] →
          ∃ f g, after.filter = some f ∧ f.Joins (stacked p.rules before ++ [g]) ∧ ¬g.Exposes)
        s.selects t.selects := by
  intro p
  obtain ⟨ss, s, t, hsql, hs, ht, hcheck⟩ := exists_enforced p .postgres
    "SELECT * FROM orders WHERE a = 1 AND b = 2 XOR c = 3"
    (fun s t => (t.render == "SELECT * FROM orders WHERE orders.tenant_id = 'acme'"
        ++ " AND a = 1 AND b = 2 XOR c = 3")
      && s.selects.all (fun b => b.filter.isSome && !(stacked p.rules b).isEmpty)
      && !t.selects.isEmpty && t.selects.all fun b => b.filter.any fun f : Expr => decide f.Exposes)
    (by decide +kernel)
  simp only [Bool.and_eq_true] at hcheck
  obtain ⟨⟨⟨hrender, hbefore⟩, hsome⟩, hafter⟩ := hcheck
  refine ⟨ss, s, t, constantRules_orders, hsql, hs, ht, eq_of_beq hrender, fun hall => ?_⟩
  generalize s.selects = befores at hbefore hall
  generalize t.selects = afters at hsome hafter hall
  cases hall with
  | nil => cases hsome
  | @cons before after _ _ hfirst _ =>
    obtain ⟨hfilter, hstacked⟩ := Bool.and_eq_true_iff.mp
      (List.all_eq_true.mp hbefore before List.mem_cons_self)
    obtain ⟨w, hw⟩ := Option.isSome_iff_exists.mp hfilter
    obtain ⟨f, g, hf, hjoins, hg⟩ := hfirst w hw (by simpa using hstacked)
    have hexposes := List.all_eq_true.mp hafter after List.mem_cons_self
    rw [hf, Option.any_some, decide_eq_true_iff] at hexposes
    exact hg ((exposes_behind_stacked hjoins).mp hexposes)

end RowScope
