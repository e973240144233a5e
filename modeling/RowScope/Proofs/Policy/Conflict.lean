/-
What several rules add up to at an INSERT.

A rule writes nothing of an INSERT but the target of its ON CONFLICT clause, and of the
clause it is asked only whether a target is there.  Adding columns to a target twice is
adding both lists at once (`extendTarget_append`), and also where the first list has made
the target out of nothing, so a policy with fixed columns comes to one list: the columns
of the rules that cover the table, in the order of the rules (`demanded`).

Who covers the table, and whether there are rows to be discriminated, is read off the
target and the source, which no rule changes.  That is why the list can be read off the
INSERT as it was at first.
-/
import RowScope.Proofs.Policy.Accumulation

namespace RowScope

open Sql Enforcement

/-! ### What rules ask for -/

/--
The columns that rules ask for in the conflict target of an INSERT, in the order of the
rules.  They ask for none where the rows are not listed.
-/
def demanded (rules : List Rule) (i : Insert) : List Ident :=
  match i.plainTarget?, i.unlisted? with
  | some name, none =>
    (rules.filter fun r => r.pattern.covers name).flatMap fun r =>
      (r.mapping.columnsFor (.insert i)).idents
  | _, _ => []

/-- An ON clause whose target names further columns, and how its action has been changed. -/
inductive Sql.OnClause.Extends (inside : Phrase → Phrase → Prop) (columns : List Ident) :
    OnClause → OnClause → Prop
  | absent : Extends inside columns .absent .absent
  | duplicateKey {assignments assignments' : Phrase} (h : inside assignments assignments') :
    Extends inside columns (.duplicateKey assignments) (.duplicateKey assignments')
  /-- A constraint stands for its columns already. -/
  | constraint {name : String} {action action' : Phrase} (h : inside action action') :
    Extends inside columns (.conflict (some (.constraint name)) action)
      (.conflict (some (.constraint name)) action')
  | columns {names : List Ident} {action action' : Phrase} (h : inside action action') :
    Extends inside columns (.conflict (some (.columns names)) action)
      (.conflict (some (.columns (names ++ columns))) action')
  /-- Where no target is, the columns become one. -/
  | fresh {action action' : Phrase} (hne : columns ≠ []) (h : inside action action') :
    Extends inside columns (.conflict none action) (.conflict (some (.columns columns)) action')
  | untargeted {action action' : Phrase} (hnil : columns = []) (h : inside action action') :
    Extends inside columns (.conflict none action) (.conflict none action')

namespace Enforcement

/-! ### Targets -/

@[simp] theorem extendTarget_nil (c : OnClause) : extendTarget [] c = c := by
  rcases c with _ | ⟨_ | (_ | _), _⟩ | _ <;> simp [extendTarget]

/-- Columns that are added one list after the other are added as one list. -/
theorem extendTarget_append (xs ys : List Ident) (c : OnClause) :
    extendTarget (xs ++ ys) c = extendTarget ys (extendTarget xs c) := by
  rcases c with _ | ⟨_ | (_ | _), _⟩ | _
  case conflict.none => cases xs <;> simp [extendTarget]
  all_goals simp [extendTarget]

/-- A target is extended whatever happens inside the action. -/
theorem extends_extendTarget {inside : Phrase → Phrase → Prop} (columns : List Ident)
    (w : Revision) {c : OnClause}
    (h : ∀ action, nodesOfPieces action = c.nodes → inside action (revisePieces w action)) :
    c.Extends inside columns (extendTarget columns (c.revise w)) := by
  rcases c with _ | ⟨_ | (names | name), action⟩ | assignments <;>
    simp only [OnClause.nodes, OnClause.revise, extendTarget] at h ⊢
  · exact .absent
  · by_cases hnil : columns = []
    · simp only [hnil, List.isEmpty_nil, if_true]
      exact .untargeted rfl (h action rfl)
    · rw [if_neg (by simpa using hnil)]
      exact .fresh hnil (h action rfl)
  · exact .columns (h action rfl)
  · exact .constraint (h action rfl)
  · exact .duplicateKey (h assignments rfl)

/-! ### Rules in a row at one INSERT -/

theorem demanded_nil (i : Insert) : demanded [] i = [] := by
  unfold demanded
  split <;> rfl

theorem demanded_cons (r : Rule) (rest : List Rule) (i : Insert) :
    demanded (r :: rest) i = demanded [r] i ++ demanded rest i := by
  unfold demanded
  split
  · by_cases hr : r.pattern.covers ‹_› = true <;> simp [hr]
  · rfl

/-- With fixed columns nothing but the target and the source of an INSERT is asked. -/
theorem demanded_congr {rules : List Rule} (h : ConstantRules rules) {i i' : Insert}
    (htarget : i.plainTarget? = i'.plainTarget?) (hsource : i.unlisted? = i'.unlisted?) :
    demanded rules i = demanded rules i' := by
  unfold demanded
  rw [htarget, hsource]
  split
  · refine List.flatMap_congr fun r hr => ?_
    obtain ⟨columns, hcolumns⟩ := h r (List.mem_of_mem_filter hr)
    simp only [hcolumns, Mapping.columnsFor]
  · rfl

theorem conflict_extended (r : Rule) (i : Insert) :
    (extended r i).conflict = extendTarget (demanded [r] i) i.conflict := by
  unfold extended demanded
  cases i.plainTarget? with
  | none => simp
  | some name =>
    cases i.unlisted? with
    | some _ => simp
    | none => by_cases hr : r.pattern.covers name = true <;> simp [hr]

/-- Rules at one INSERT, one after the other, add their columns in their order. -/
theorem conflict_foldl {rules : List Rule} (h : ConstantRules rules) (i : Insert) :
    (rules.foldl (fun i r => extended r i) i).conflict
      = extendTarget (demanded rules i) i.conflict := by
  induction rules generalizing i with
  | nil => rw [List.foldl_nil, demanded_nil, extendTarget_nil]
  | cons r rest ih =>
    have hrest : ConstantRules rest := fun r' hr' => h r' (List.mem_cons_of_mem r hr')
    have hsame : demanded rest (extended r i) = demanded rest i :=
      demanded_congr hrest (plainTarget?_extended r i) (unlisted?_extended r i)
    rw [List.foldl_cons, ih hrest, hsame, conflict_extended, demanded_cons r rest,
      extendTarget_append]

theorem pieces_jointRevision {rules : List Rule} (h : ConstantRules rules) (ps : Phrase) :
    rules.foldl (fun ps r => revisePieces r.revision ps) ps
      = revisePieces (jointRevision rules) ps := by
  have hfold := foldl_revise revisePieces (fun hw w' ps => pieces_revise_revise hw w' ps) h
    Revision.steady_idle ps
  rwa [pieces_revise_idle] at hfold

end Enforcement

/--
The conflict targets of a statement under rules with fixed columns.  Each INSERT of it, at
any depth, keeps its ON clause, whose target gets the columns that the rules ask for behind
its own; they become the target if there is none, and a constraint stays the target it is.
Of the action nothing is changed but what the rules, one after the other, make of the nodes
inside it.
-/
theorem Policy.enforce_extends {p : Policy} (h : ConstantRules p.rules) {s t : Statement}
    (ht : (p.enforce s).result = .ok t) :
    List.Forall₂ (fun before after => before.conflict.Extends
        (fun action action' =>
          p.rules.foldlM (fun ps r => (walkPieces (r.visitor p.strict) ps).result) action
            = .ok action')
        (demanded p.rules before) after.conflict)
      s.inserts t.inserts := by
  rw [Policy.enforce, Policy.enforceRules_result, settle_eq_ok, revise_jointRevision h] at ht
  obtain ⟨hnone, rfl⟩ := ht
  rw [Statement.inserts_revise, List.forall₂_map_right_iff, List.forall₂_same]
  intro i hi
  have hdemanded : demanded p.rules (i.reviseParts (jointRevision p.rules)) = demanded p.rules i :=
    demanded_congr h (plainTarget?_reviseParts _ i) (unlisted?_reviseParts _ i)
  rw [jointRevision_insert, conflict_foldl h, hdemanded, conflict_reviseParts]
  refine extends_extendTarget _ _ fun action haction => ?_
  have hinside : ∀ r ∈ p.rules, ∀ n ∈ nodesOfPieces action,
      refusalAt (r.refuse p.strict) n = none := by
    intro r hr n hn
    rw [haction] at hn
    exact refusalAt_of_mem (List.findSome?_eq_none_iff.mp hnone r hr)
      (Statement.mem_inserts.mp hi) n (OnClause.nodes_subset_inner i n hn)
  rw [foldlM_walk_result pieces_walk_result pieces_nodes_revise p.rules p.strict hinside,
    pieces_jointRevision h]

/-- Two rules at an INSERT in a WITH clause, whose action has a subquery and which has no target. -/
theorem Policy.enforce_extends_fresh :
    let p : Policy := ⟨[ordersRule, regionRule], true⟩
    let within : Query := ⟨[], .select (fromOrders none), []⟩
    let upsert : Insert :=
      ⟨"INSERT INTO", .table [.ident (.bare "orders")], none, [], some ⟨[], .values [], []⟩, [], [],
        .conflict none [.query within], []⟩
    let query : Statement := .query ⟨[.statement (.insert upsert)], .select (fromOrders none), []⟩
    ConstantRules p.rules ∧
    ∃ t, (p.enforce query).result = .ok t ∧
      demanded p.rules upsert = [.bare "tenant_id", .bare "region"] ∧
      List.Forall₂ (fun before after => before.conflict.Extends
          (fun action action' =>
            p.rules.foldlM (fun ps r => (walkPieces (r.visitor p.strict) ps).result) action
              = .ok action')
          (demanded p.rules before) after.conflict)
        query.inserts t.inserts := by
  intro p within upsert query
  have hconstant : ConstantRules p.rules :=
    constantRules_cons rfl (constantRules_cons rfl constantRules_nil)
  exact ⟨hconstant, _, rfl, by decide, Policy.enforce_extends hconstant rfl⟩

end RowScope
