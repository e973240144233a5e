/-
What it is that a policy passes by when it is not strict.

Strictness only says what becomes of an INSERT that cannot be discriminated.  Without it no
INSERT is refused, and a rule does to each node what it does under a strict policy that
does not fail; so the two give the same statement, or the strict one gives none.

Where the strict policy stops, in the middle of a pass and perhaps deep in the statement,
the other one goes on, and the question is what it has left out then.  It is compared with
a third kind of pass, under which a rule covers no INSERT whose rows are not listed
(`Rule.sparing`).  That one has nothing to refuse, strict or not, and it gives the same
statement: of such an INSERT the conflict target is passed by, and nothing inside it or
behind it.
-/
import RowScope.Proofs.Policy.Accumulation

namespace RowScope

open Sql Enforcement

/-- A rule that is about no table at all. -/
def Rule.silenced (r : Rule) : Rule := { r with pattern := ⟨.predicate fun _ => false, none⟩ }

/-- What a rule does with the nodes it changes if no INSERT counts whose rows are not listed. -/
def Rule.sparing (r : Rule) (strict : Bool) : Visitor Outcome where
  body := Enforcement.body r
  insert i := Enforcement.insert (if i.unlisted?.isSome then r.silenced else r) strict i

namespace Enforcement

/-! ### Passes that refuse nothing -/

theorem covers_silenced (r : Rule) (name : List Ident) :
    r.silenced.pattern.covers name = false := by
  unfold Pattern.Table.covers
  split <;> rfl

/-- An INSERT whose rows are not listed is left as it is. -/
theorem extended_of_unlisted (r : Rule) {i : Insert} (h : i.unlisted? ≠ none) :
    extended r i = i := by
  obtain ⟨construct, hconstruct⟩ := Option.ne_none_iff_exists'.mp h
  unfold extended
  rw [hconstruct]
  cases i.plainTarget? <;> rfl

theorem lenient_describedBy (r : Rule) :
    (r.visitor false).DescribedBy r.revision fun _ => none :=
  visitor_describedBy r false

/-- Whether such a pass is strict does not matter, as there is nothing to be refused. -/
theorem sparing_describedBy (r : Rule) (strict : Bool) :
    (r.sparing strict).DescribedBy r.revision fun _ => none where
  body := body_result r
  refuse_reviseParts _ := rfl
  insert i := by
    show (insert (if i.unlisted?.isSome then r.silenced else r) strict i).result = _
    rw [insert_result]
    cases hunlisted : i.unlisted? with
    | none =>
      have hnone : r.pattern.refusal? i = none := by
        unfold Pattern.Table.refusal?
        rw [hunlisted]
        cases i.plainTarget? <;> rfl
      simp only [Option.isSome_none, Bool.false_eq_true, if_false, hnone, ite_self]
      rfl
    | some construct =>
      have hne : i.unlisted? ≠ none := by simp [hunlisted]
      have hnone : r.silenced.pattern.refusal? i = none := by
        unfold Pattern.Table.refusal?
        rw [hunlisted]
        cases i.plainTarget? with
        | none => rfl
        | some name => simp [covers_silenced]
      simp only [Option.isSome_some, if_true, hnone, ite_self, extended_of_unlisted _ hne]
      exact congrArg _ (extended_of_unlisted r hne).symm

/-- Passes that refuse nothing come to the revisions of their rules. -/
theorem foldlM_described {α : Type} {walk : Visitor Outcome → α → Outcome α}
    {nodes : α → List Node} {revise : Revision → α → α}
    (hwalk : ∀ {v : Visitor Outcome} {w : Revision} {refuse : Insert → Option Unsupported},
      v.DescribedBy w refuse → ∀ a,
        (walk v a).result = settle ((nodes a).findSome? (refusalAt refuse)) (revise w a))
    {v : Rule → Visitor Outcome} (hv : ∀ r, (v r).DescribedBy r.revision fun _ => none)
    (rules : List Rule) (a : α) :
    (rules.foldlM (fun a r => walk (v r) a) a).result
      = .ok (rules.foldl (fun a r => revise r.revision a) a) := by
  induction rules generalizing a with
  | nil => rfl
  | cons r rest ih =>
    have hnone : (nodes a).findSome? (refusalAt fun _ => none) = none :=
      List.findSome?_eq_none_iff.mpr fun n _ => by cases n <;> rfl
    rw [List.foldlM_cons, Outcome.result_bind, hwalk (hv r), hnone, settle_none, ok_bind, ih]
    rfl

theorem enforceRules_lenient (rules : List Rule) (s : Statement) :
    (Policy.enforceRules false rules s).result
      = .ok (rules.foldl (fun s r => s.revise r.revision) s) := by
  rw [Policy.enforceRules_result, Policy.findSome?_refuse, if_neg Bool.false_ne_true, settle_none]

/-- Strict or not, there is one statement that the rules can come to. -/
theorem enforceRules_strict {rules : List Rule} {s t : Statement}
    (h : (Policy.enforceRules true rules s).result = .ok t) :
    rules.foldl (fun s r => s.revise r.revision) s = t := by
  rw [Policy.enforceRules_result, settle_eq_ok] at h
  exact h.2

/-! ### INSERTs whose rows are not listed -/

/-- Of such an INSERT the ON clause is changed by what happens inside it only. -/
theorem inserts_foldl (rules : List Rule) (s : Statement) :
    List.Forall₂ (fun before after : Insert => after.unlisted? = before.unlisted? ∧
        (before.unlisted? ≠ none →
          after.conflict = rules.foldl (fun c r => c.revise r.revision) before.conflict))
      s.inserts (rules.foldl (fun s r => s.revise r.revision) s).inserts := by
  induction rules using List.reverseRecOn with
  | nil => exact List.forall₂_same.mpr fun i _ => ⟨rfl, fun _ => rfl⟩
  | append_singleton front r ih =>
    rw [List.foldl_append, List.foldl_cons, List.foldl_nil, Statement.inserts_revise,
      List.forall₂_map_right_iff]
    refine ih.imp ?_
    rintro before after ⟨hsame, hconflict⟩
    refine ⟨?_, fun hne => ?_⟩
    · exact (unlisted?_extended r _).trans ((unlisted?_reviseParts _ after).trans hsame)
    · have hleft : extended r (after.reviseParts r.revision) = after.reviseParts r.revision := by
        refine extended_of_unlisted r ?_
        rw [unlisted?_reviseParts, hsame]
        exact hne
      show (extended r (after.reviseParts r.revision)).conflict = _
      rw [hleft, conflict_reviseParts, hconflict hne, List.foldl_append, List.foldl_cons,
        List.foldl_nil]

end Enforcement

/--
A policy that is not strict always gives a statement, and the one that the strict policy
gives unless it fails.  It is the statement that the rules come to if they are about no
INSERT whose rows are not listed, and then in strict passes as well.  The ON clause of such
an INSERT is what the walks over it alone make of it.
-/
theorem Policy.enforce_lenient (rules : List Rule) (s : Statement) :
    ∃ t, ((Policy.mk rules false).enforce s).result = .ok t ∧
      (∀ t', ((Policy.mk rules true).enforce s).result = .ok t' → t = t') ∧
      (∀ strict,
        (rules.foldlM (fun (s : Statement) (r : Rule) => s.walk (r.sparing strict)) s).result
          = .ok t) ∧
      List.Forall₂ (fun before after : Insert => before.unlisted? ≠ none →
          (rules.foldlM (fun (c : OnClause) (r : Rule) => c.walk (r.visitor false))
            before.conflict).result = .ok after.conflict)
        s.inserts t.inserts := by
  refine ⟨_, enforceRules_lenient rules s, fun t' ht' => enforceRules_strict ht',
    fun strict => ?_, ?_⟩
  · exact foldlM_described Statement.walk_result (fun r => sparing_describedBy r strict) rules s
  · refine (inserts_foldl rules s).imp ?_
    rintro before after ⟨-, hconflict⟩ hne
    rw [hconflict hne]
    exact foldlM_described OnClause.walk_result lenient_describedBy rules before.conflict

/-- The target is passed by, and the SELECT that the rows come from is not. -/
example :
    let rows : Query := ⟨[], .select (fromOrders none), []⟩
    let upsert : Statement := .insert
      ⟨"INSERT INTO ", .table [.ident (.bare "orders")], none, [], some rows, [], [],
        .conflict none ["DO NOTHING"], []⟩
    ((Policy.mk [ordersRule] true).enforce upsert).result = .error ⟨"orders", .select⟩ ∧
    ((Policy.mk [ordersRule] false).enforce upsert).result.map Statement.render
      = .ok ("INSERT INTO orders SELECT * FROM orders WHERE orders.tenant_id = 'acme'"
        ++ " ON CONFLICT DO NOTHING") :=
  ⟨rfl, by decide +kernel⟩

end RowScope
