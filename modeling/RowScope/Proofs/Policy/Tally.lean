/-
What the events of a policy come to.

A SELECT is reported table by table, ahead of the filter that it gets, and a conflict target
when it is extended.  Added up over all rules and all nodes, the numbers in these events are
the differences between the statement that was given and the one that has been made of it:
the operands that the filters have in front, and the columns at the end of the targets.

What carries the sums is one equation for each node (`select_predicates`, `insert_added`).
A pass adds it up over the nodes of a statement, each with its parts revised, which changes
neither how many operands its filter has nor how many columns its target has, and the passes
are then put one behind the other, each beginning where the one before it has ended.

Warnings are another matter, as nothing changes where one is given.  They are counted where
they are due: an INSERT on a table of the rule that does not list its rows keeps being one
through all passes.
-/
import RowScope.Proofs.Enforcement.Tally
import RowScope.Proofs.Policy.Conflict
import RowScope.Proofs.Policy.Frame

namespace RowScope

open Sql Enforcement

/-! ### What events tell -/

namespace Enforcement.Event

/-- The number of predicates that an event tells of. -/
def predicates : Event → Nat
  | .selectDiscriminated _ n => n
  | _ => 0

/-- The number of columns that an event tells have been added. -/
def added : Event → Nat
  | .targetExtended _ n => n
  | .targetSet _ n => n
  | _ => 0

/-- Whether an event is a warning, as a number. -/
def warnings (e : Event) : Nat := if e.severity = .warn then 1 else 0

end Enforcement.Event

/-- The operands that AND joins in the filter of a SELECT. -/
def Sql.Select.operands (s : Select) : List Expr := s.filter.elim [] Expr.conjuncts

/-- The columns that an ON clause names as its target. -/
def Sql.OnClause.targetColumns : OnClause → List Ident
  | .conflict (some (.columns names)) _ => names
  | _ => []

/-- The events that a rule records at a node. -/
def Rule.eventsAt (r : Rule) (strict : Bool) : Node → List Event
  | .select s => (Enforcement.select r s).events
  | .insert i => (Enforcement.insert r strict i).events

namespace Enforcement

/-! ### One node -/

theorem select_events (r : Rule) (s : Select) :
    (select r s).events
      = s.sources.flatMap (sourceEvents r (r.mapping.columnsFor (.select s))) := by
  rw [select, Outcome.events_record_bind, Outcome.events_pure, List.append_nil]

/-- A FROM item weighs nothing in a tally that only knows INSERTs. -/
theorem weigh_select_events {μ : Event → Nat} (r : Rule) (s : Select)
    (halias : ∀ table aliased, μ (.aliasSkipped table aliased) = 0)
    (hselect : ∀ table n, μ (.selectDiscriminated table n) = 0) :
    weigh μ (select r s).events = 0 := by
  rw [select_events]
  refine weigh_eq_zero fun e he => ?_
  obtain ⟨item, -, hitem⟩ := List.mem_flatMap.mp he
  unfold sourceEvents at hitem
  split at hitem
  · rw [List.mem_singleton.mp hitem, halias]
  · obtain ⟨t, -, rfl⟩ := List.mem_map.mp hitem
    exact hselect _ _

/-- The predicates that are reported for a SELECT are as many as it gets. -/
theorem select_predicates (r : Rule) (s : Select) :
    weigh Event.predicates (select r s).events = (r.equalities s).length := by
  rw [select_events, ← conditions_eq]
  unfold conditions tablesOf
  generalize r.mapping.columnsFor (.select s) = columns
  induction s.sources with
  | nil => rfl
  | cons item rest ih =>
    have hitem : weigh Event.predicates (sourceEvents r columns item)
        = (((tableOf? item).toList.filter (concerns r)).flatMap (conditionsOn columns)).length := by
      unfold sourceEvents
      split
      · rfl
      · cases tableOf? item with
        | none => rfl
        | some t =>
          by_cases ht : concerns r t = true <;>
            simp [ht, weigh, Event.predicates, conditionsOn]
    rw [List.flatMap_cons, weigh_append, ih, hitem, List.filterMap_cons]
    cases tableOf? item with
    | none => simp
    | some t => by_cases ht : concerns r t = true <;> simp [ht]

/-- What the events of an INSERT weigh, where one that is skipped weighs nothing. -/
theorem weigh_insert_events {μ : Event → Nat} (r : Rule) (strict : Bool) (i : Insert)
    (hskip : ∀ target, μ (.insertSkipped target) = 0) :
    weigh μ (insert r strict i).events
      = match i.plainTarget? with
        | none => 0
        | some name =>
          if r.pattern.covers name then
            match i.unlisted? with
            | none => weigh μ (targetEvents (tableText name)
                (r.mapping.columnsFor (.insert i)).idents i.conflict)
            | some construct => if strict then 0 else μ (.insertLeft (tableText name) construct)
          else 0 := by
  unfold insert
  cases htarget : i.target with
  | function call => simp [Insert.plainTarget?, htarget]
  | table name =>
    have hplain : i.plainTarget? = name.mapM NamePart.ident? := by
      simp only [Insert.plainTarget?, htarget]
    simp only [ofName?_eq, ← hplain]
    cases i.plainTarget? with
    | none =>
      simp [weigh, hskip]
    | some q =>
      rcases ofIdents?_cases q with ⟨rfl, hnone⟩ | ⟨t, ht, -, htext, hcovers⟩
      · simp [hnone, Pattern.Table.covers, weigh, hskip]
      · simp only [Option.bind_some, ht, hcovers r.pattern]
        by_cases hr : r.pattern.covers q = true
        · rw [if_pos hr, if_pos hr, insertInto, unsupported?_eq, htext]
          cases i.unlisted? with
          | none => simp
          | some construct => cases strict <;> simp [weigh]
        · rw [if_neg hr, if_neg hr]
          simp

/-- The columns that are reported for an INSERT are those that its target gets. -/
theorem insert_added (r : Rule) (strict : Bool) (i : Insert) :
    weigh Event.added (insert r strict i).events + i.conflict.targetColumns.length
      = (extended r i).conflict.targetColumns.length := by
  rw [weigh_insert_events r strict i fun _ => rfl]
  unfold extended
  cases i.plainTarget? with
  | none => simp
  | some name =>
    cases i.unlisted? with
    | some construct =>
      cases strict <;> simp [Event.added]
    | none =>
      by_cases hr : r.pattern.covers name = true
      · generalize (r.mapping.columnsFor (.insert i)).idents = columns
        simp only [hr, if_true]
        rcases i.conflict with _ | ⟨_ | (names | name), action⟩ | assignments <;>
          cases columns <;>
          simp [targetEvents, extendTarget, OnClause.targetColumns, weigh, Event.added,
            Nat.add_comm]
      · simp [hr]

theorem insert_predicates (r : Rule) (strict : Bool) (i : Insert) :
    weigh Event.predicates (insert r strict i).events = 0 := by
  rw [weigh_insert_events r strict i fun _ => rfl]
  cases i.plainTarget? with
  | none => rfl
  | some name =>
    generalize (r.mapping.columnsFor (.insert i)).idents = columns
    cases i.unlisted? with
    | some construct => cases strict <;> simp [Event.predicates]
    | none =>
      rcases i.conflict with _ | ⟨_ | (names | name), action⟩ | assignments <;> cases columns <;>
        simp [targetEvents, weigh, Event.predicates]

theorem targetColumns_revise (w : Revision) (c : OnClause) :
    (c.revise w).targetColumns = c.targetColumns := by
  rcases c with _ | ⟨_ | (names | name), action⟩ | assignments <;>
    simp only [OnClause.revise, OnClause.targetColumns]

/-- A target is only ever extended at its end. -/
theorem targetColumns_extended (r : Rule) (i : Insert) :
    i.conflict.targetColumns <+: (extended r i).conflict.targetColumns := by
  rw [conflict_extended]
  rcases i.conflict with _ | ⟨_ | (names | name), action⟩ | assignments <;>
    simp [extendTarget, OnClause.targetColumns]

/-- A warning is given where an INSERT of the rule's would be refused. -/
theorem insert_warnings (r : Rule) (strict : Bool) (i : Insert) :
    weigh Event.warnings (insert r strict i).events
      = if strict then 0 else if (r.pattern.refusal? i).isSome then 1 else 0 := by
  rw [weigh_insert_events r strict i fun _ => rfl]
  unfold Pattern.Table.refusal?
  cases i.plainTarget? with
  | none => simp
  | some name =>
    by_cases hr : r.pattern.covers name = true
    · cases i.unlisted? with
      | some construct => cases strict <;> simp [hr, Event.warnings, Event.severity]
      | none =>
        simp only [hr, if_true]
        generalize (r.mapping.columnsFor (.insert i)).idents = columns
        rcases i.conflict with _ | ⟨_ | (names | name), action⟩ | assignments <;>
          cases columns <;>
          simp [targetEvents, weigh, Event.warnings, Event.severity]
    · cases i.unlisted? <;> simp [hr]

/-! ### One pass -/

theorem body_weighs (μ : Event → Nat) (r : Rule) (b : Body) :
    weigh μ (body r b).events = (b.ownSelects.map fun s => weigh μ (select r s).events).sum := by
  cases b with
  | select s =>
    have hs : (select r s).result = .ok (discriminate r s) := rfl
    simp [body, Body.ownSelects, Outcome.events_bind_of_ok hs]
  | setOperation op left right =>
    simp [body, Body.ownSelects, Outcome.events_bind_of_ok (body_result r left),
      Outcome.events_bind_of_ok (body_result r right), body_weighs μ r left, body_weighs μ r right]
  | _ => simp [body, Body.ownSelects]
termination_by structural b

theorem visitor_weighs (μ : Event → Nat) (r : Rule) (strict : Bool) :
    (r.visitor strict).Weighs μ fun n => weigh μ (r.eventsAt strict n) where
  body := body_weighs μ r
  insert _ := rfl

/-- The nodes of a statement weigh what its SELECTs and its INSERTs weigh. -/
theorem load_nodes (w : Revision) (weight : Node → Nat) (s : Statement) :
    load w weight s.nodes = (s.selects.map fun b => weight (.select (b.reviseParts w))).sum
      + (s.inserts.map fun i => weight (.insert (i.reviseParts w))).sum := by
  unfold load Statement.selects Statement.inserts
  induction s.nodes with
  | nil => rfl
  | cons n rest ih =>
    cases n with
    | select b =>
      have hselect : Node.select? (.select b) = some b := rfl
      have hinsert : Node.insert? (.select b) = none := rfl
      rw [List.map_cons, List.sum_cons, ih, List.filterMap_cons_some hselect,
        List.filterMap_cons_none hinsert, List.map_cons, List.sum_cons, Nat.add_assoc]
      rfl
    | insert i =>
      have hselect : Node.select? (.insert i) = none := rfl
      have hinsert : Node.insert? (.insert i) = some i := rfl
      rw [List.map_cons, List.sum_cons, ih, List.filterMap_cons_none hselect,
        List.filterMap_cons_some hinsert, List.map_cons, List.sum_cons, Nat.add_left_comm]
      rfl

section Pass

variable {r : Rule} {strict : Bool} {s t : Statement} (h : (r.enforce strict s).result = .ok t)
include h

/-- The events of a pass weigh what those of its nodes weigh. -/
theorem enforce_weighs (μ : Event → Nat) :
    weigh μ (r.enforce strict s).events
      = (s.selects.map fun b => weigh μ (select r (b.reviseParts r.revision)).events).sum
        + (s.inserts.map fun i =>
            weigh μ (insert r strict (i.reviseParts r.revision)).events).sum := by
  rw [enforce_result, settle_eq_ok, Statement.inserts, ← findSome?_refusalAt,
    List.findSome?_eq_none_iff] at h
  have hyields := Statement.walk_yields (visitor_describedBy r strict) (visitor_weighs μ r strict)
    s h.1
  exact hyields.weight.trans (load_nodes r.revision _ s)

/-- In a tally that only knows INSERTs, the SELECTs of a statement weigh nothing. -/
theorem enforce_weighs_inserts {μ : Event → Nat}
    (halias : ∀ table aliased, μ (.aliasSkipped table aliased) = 0)
    (hselect : ∀ table n, μ (.selectDiscriminated table n) = 0) :
    weigh μ (r.enforce strict s).events
      = (s.inserts.map fun i =>
          weigh μ (insert r strict (i.reviseParts r.revision)).events).sum := by
  have hselects : (s.selects.map fun b =>
      weigh μ (select r (b.reviseParts r.revision)).events).sum = 0 := by
    refine List.sum_eq_zero fun k hk => ?_
    obtain ⟨b, -, rfl⟩ := List.mem_map.mp hk
    exact weigh_select_events r _ halias hselect
  rw [enforce_weighs h, hselects, Nat.zero_add]

theorem enforce_revises : t = s.revise r.revision := by
  rw [enforce_result, settle_eq_ok] at h
  exact h.2.symm

end Pass

/-! ### The operands of a filter -/

theorem conjuncts_of_joins {f : Expr} {xs : List Expr} (h : f.Joins xs) :
    f.conjuncts = xs.flatMap Expr.conjuncts := by
  induction h with
  | operand e => rw [List.flatMap_singleton]
  | and _ _ ihl ihr => rw [conjuncts_and, ihl, ihr, List.flatMap_append]

/-- Parentheses are put around one operand only. -/
theorem length_conjuncts_grouped (e : Expr) :
    e.grouped.conjuncts.length = e.conjuncts.length := by
  unfold Expr.grouped
  split
  · rename_i hloose
    have hand : e.topOp? ≠ some .and := by
      rcases hloose with h | h <;> simp [h]
    rw [conjuncts_of_topOp? (by simp [Expr.topOp?]), conjuncts_of_topOp? hand]
    rfl
  · rfl

theorem flatMap_conjuncts_equalities {es : List Expr}
    (h : ∀ e ∈ es, ∃ (r : Rule) (b : Select), e ∈ r.equalities b) :
    es.flatMap Expr.conjuncts = es := by
  refine (List.flatMap_congr fun e he => ?_).trans (List.flatMap_singleton' es)
  obtain ⟨r, b, hb⟩ := h e he
  simp only [Rule.equalities, List.mem_flatMap, List.mem_map] at hb
  obtain ⟨name, -, ⟨column, v⟩, -, rfl⟩ := hb
  exact conjuncts_of_topOp? (by simp [Expr.topOp?])

/-- A SELECT that is narrowed by equalities has them as operands in front of its own. -/
theorem Narrowed.operands {s y : Select} {es : List Expr} (h : Narrowed s es y)
    (hes : ∀ e ∈ es, ∃ (r : Rule) (b : Select), e ∈ r.equalities b) :
    ∃ rest, y.operands = es ++ rest ∧ rest.length = s.operands.length := by
  cases h with
  | same => exact ⟨s.operands, rfl, rfl⟩
  | ahead hne hf =>
    refine ⟨(s.filter.map Expr.grouped).toList.flatMap Expr.conjuncts, ?_, ?_⟩
    · show Expr.conjuncts _ = _
      rw [conjuncts_of_joins hf, List.flatMap_append, flatMap_conjuncts_equalities hes]
    · unfold Select.operands
      cases s.filter with
      | none => rfl
      | some e =>
        rw [Option.map_some, Option.toList_some, List.flatMap_singleton, length_conjuncts_grouped]
        rfl

theorem length_operands_reviseParts (w : Revision) (s : Select) :
    (s.reviseParts w).operands.length = s.operands.length := by
  unfold Select.operands
  rw [filter_reviseParts]
  cases s.filter with
  | none => rfl
  | some e => simp [reviseFilter, conjuncts_revise]

/-- What a rule adds to a filter is as many operands as it has equalities for the SELECT. -/
theorem length_operands_discriminate (r : Rule) (s : Select) :
    (discriminate r s).operands.length = (r.equalities s).length + s.operands.length := by
  have hnarrowed : Narrowed s (r.equalities s ++ []) (s.restrict (r.equalities s)) :=
    Narrowed.same.restrict (fun _ he => absurd he List.not_mem_nil) _
  rw [List.append_nil] at hnarrowed
  obtain ⟨rest, hoperands, hlength⟩ := hnarrowed.operands fun e he => ⟨r, s, he⟩
  rw [discriminate_eq, hoperands, List.length_append, hlength]

/-- Filters of one skeleton have the same number of operands. -/
theorem length_conjuncts_skeleton (e : Expr) :
    e.skeleton.conjuncts.length = e.conjuncts.length := by
  fun_induction Expr.conjuncts e with
  | case1 left right ihl ihr =>
    rw [Expr.skeleton, conjuncts_and, List.length_append, ihl, ihr, List.length_append]
  | case2 e hand =>
    rw [conjuncts_of_topOp?]
    · rfl
    · cases e with
      | binary left op right =>
        rw [Expr.skeleton]
        rintro htop
        cases htop
        exact hand left right rfl
      | _ => simp [Expr.skeleton, Expr.topOp?]

/-- The operands that a SELECT has got from rules stand in front of those it had. -/
theorem Framed.operands {rules : List Rule} {before after : Select}
    (h : Framed rules before after) :
    ∃ es rest, after.operands = es ++ rest ∧ rest.length = before.operands.length ∧
      ∀ e ∈ es, ∃ r ∈ rules, ∃ b, e ∈ r.equalities b := by
  obtain ⟨inner, es, -, hfilter, hes, hnarrowed⟩ := h
  obtain ⟨rest, hoperands, hlength⟩ := hnarrowed.operands fun e he =>
    let ⟨r, _, b, hb⟩ := hes e he
    ⟨r, b, hb⟩
  have hcount : ∀ f : Option Expr,
      (f.elim [] Expr.conjuncts).length
        = ((f.map Expr.skeleton).elim [] Expr.conjuncts).length := by
    rintro (_ | e)
    · rfl
    · exact (length_conjuncts_skeleton e).symm
  refine ⟨es, rest, hoperands, ?_, hes⟩
  rw [hlength, Select.operands, hcount, hfilter, ← hcount, Select.operands]

/-! ### What a pass accounts for -/

section Pass

variable {r : Rule} {strict : Bool} {s t : Statement} (h : (r.enforce strict s).result = .ok t)
include h

theorem pass_predicates :
    weigh Event.predicates (r.enforce strict s).events
        + (s.selects.map fun b => b.operands.length).sum
      = (t.selects.map fun b => b.operands.length).sum := by
  have hinserts : (s.inserts.map fun i =>
      weigh Event.predicates (insert r strict (i.reviseParts r.revision)).events).sum = 0 := by
    refine List.sum_eq_zero fun k hk => ?_
    obtain ⟨i, -, rfl⟩ := List.mem_map.mp hk
    exact insert_predicates r strict _
  rw [enforce_weighs h, hinserts, Nat.add_zero, ← List.sum_map_add, enforce_revises h,
    Statement.selects_revise, List.map_map]
  congr 2
  funext b
  show _ = (discriminate r (b.reviseParts r.revision)).operands.length
  rw [length_operands_discriminate, length_operands_reviseParts, select_predicates]

theorem pass_added :
    weigh Event.added (r.enforce strict s).events
        + (s.inserts.map fun i => i.conflict.targetColumns.length).sum
      = (t.inserts.map fun i => i.conflict.targetColumns.length).sum := by
  rw [enforce_weighs_inserts h (fun _ _ => rfl) fun _ _ => rfl, ← List.sum_map_add,
    enforce_revises h, Statement.inserts_revise, List.map_map]
  congr 2
  funext i
  show _ = (extended r (i.reviseParts r.revision)).conflict.targetColumns.length
  rw [← insert_added r strict, conflict_reviseParts, targetColumns_revise]

theorem pass_warnings :
    weigh Event.warnings (r.enforce strict s).events
      = if strict then 0 else s.inserts.countP fun i => (r.pattern.refusal? i).isSome := by
  rw [enforce_weighs_inserts h (fun _ _ => rfl) fun _ _ => rfl]
  simp only [insert_warnings, refusal?_reviseParts]
  induction s.inserts with
  | nil => cases strict <;> rfl
  | cons i rest ih =>
    rw [List.map_cons, List.sum_cons, ih, List.countP_cons]
    cases strict with
    | true => rfl
    | false => simp [Nat.add_comm]

end Pass

/-! ### What several passes account for -/

section Passes

variable {r : Rule} {rest : List Rule} {strict : Bool} {s t : Statement}

/-- A first pass that succeeds, and the passes behind it. -/
theorem enforceRules_cons (h : (Policy.enforceRules strict (r :: rest) s).result = .ok t) :
    ∃ s', (r.enforce strict s).result = .ok s' ∧
      (Policy.enforceRules strict rest s').result = .ok t ∧
      (Policy.enforceRules strict (r :: rest) s).events
        = (r.enforce strict s).events ++ (Policy.enforceRules strict rest s').events := by
  rw [Policy.enforceRules] at h ⊢
  rw [Outcome.result_bind] at h
  cases hpass : (r.enforce strict s).result with
  | error u =>
    rw [hpass] at h
    cases h
  | ok s' =>
    rw [hpass, ok_bind] at h
    exact ⟨s', rfl, h, Outcome.events_bind_of_ok hpass _⟩

/-- What each pass adds to a number, the passes together add to it. -/
theorem enforceRules_adds {μ : Event → Nat} {measure : Statement → Nat} {rules : List Rule}
    (hpass : ∀ {r : Rule} {s t : Statement}, (r.enforce strict s).result = .ok t →
      weigh μ (r.enforce strict s).events + measure s = measure t)
    (h : (Policy.enforceRules strict rules s).result = .ok t) :
    weigh μ (Policy.enforceRules strict rules s).events + measure s = measure t := by
  induction rules generalizing s with
  | nil =>
    cases h
    rw [Policy.enforceRules, Outcome.events_pure, weigh_nil, Nat.zero_add]
  | cons r rest ih =>
    obtain ⟨s', hfirst, hrest, hevents⟩ := enforceRules_cons h
    rw [hevents, weigh_append, ← ih hrest, ← hpass hfirst, Nat.add_assoc, Nat.add_left_comm]

theorem weigh_warnings (events : List Event) :
    weigh Event.warnings events = events.countP (·.severity = .warn) := by
  induction events with
  | nil => rfl
  | cons e rest ih =>
    rw [List.countP_cons, ← ih, weigh, List.map_cons, List.sum_cons, Nat.add_comm]
    by_cases hwarn : e.severity = .warn <;> simp [weigh, Event.warnings, hwarn]

theorem enforceRules_warnings {rules : List Rule}
    (h : (Policy.enforceRules strict rules s).result = .ok t) :
    weigh Event.warnings (Policy.enforceRules strict rules s).events
      = if strict then 0
        else (rules.map fun r => s.inserts.countP fun i => (r.pattern.refusal? i).isSome).sum := by
  induction rules generalizing s with
  | nil => cases strict <;> rfl
  | cons r rest ih =>
    obtain ⟨s', hfirst, hrest, hevents⟩ := enforceRules_cons h
    have hsame : ∀ r' : Rule, s'.inserts.countP (fun i => (r'.pattern.refusal? i).isSome)
        = s.inserts.countP fun i => (r'.pattern.refusal? i).isSome := by
      intro r'
      rw [enforce_revises hfirst, Statement.inserts_revise, List.countP_map]
      congr 1
      funext i
      show (r'.pattern.refusal? (extended r (i.reviseParts r.revision))).isSome = _
      rw [refusal?_extended, refusal?_reviseParts]
    rw [hevents, weigh_append, pass_warnings hfirst, ih hrest]
    cases strict with
    | true => rfl
    | false => simp only [Bool.false_eq_true, if_false, hsame, List.map_cons, List.sum_cons]

end Passes

/-- Targets grow at their end, whichever rules extend them. -/
theorem targets_extended (rules : List Rule) (s : Statement) :
    List.Forall₂ (fun before after : Insert =>
        before.conflict.targetColumns <+: after.conflict.targetColumns)
      s.inserts (rules.foldl (fun s r => s.revise r.revision) s).inserts := by
  induction rules using List.reverseRecOn with
  | nil => exact List.forall₂_same.mpr fun i _ => List.prefix_rfl
  | append_singleton front r ih =>
    rw [List.foldl_append, List.foldl_cons, List.foldl_nil, Statement.inserts_revise,
      List.forall₂_map_right_iff]
    refine ih.imp fun before after hprefix => ?_
    have hpass := targetColumns_extended r (after.reviseParts r.revision)
    rw [conflict_reviseParts, targetColumns_revise] at hpass
    exact hprefix.trans hpass

end Enforcement

/--
The events of a policy account for what it has changed.  The predicates they tell of are as
many as the operands that the filters of SELECTs have got, all of them equalities of rules and
in front of what was there; the columns they tell of are as many as the targets of ON CONFLICT
have got, at their end; and there is a warning for each rule and each INSERT that the rule
covers and that does not list its rows, so there is none under a strict policy.
-/
theorem Policy.enforce_accounts {p : Policy} {s t : Statement}
    (h : (p.enforce s).result = .ok t) :
    (List.Forall₂ (fun before after : Select =>
        ∃ es rest, after.operands = es ++ rest ∧ rest.length = before.operands.length ∧
          ∀ e ∈ es, ∃ r ∈ p.rules, ∃ b, e ∈ r.equalities b)
      s.selects t.selects ∧
      weigh Event.predicates (p.enforce s).events
          + (s.selects.map fun b => b.operands.length).sum
        = (t.selects.map fun b => b.operands.length).sum) ∧
    (List.Forall₂ (fun before after : Insert =>
        before.conflict.targetColumns <+: after.conflict.targetColumns) s.inserts t.inserts ∧
      weigh Event.added (p.enforce s).events
          + (s.inserts.map fun i => i.conflict.targetColumns.length).sum
        = (t.inserts.map fun i => i.conflict.targetColumns.length).sum) ∧
    (p.enforce s).events.countP (·.severity = .warn)
      = (p.rules.map fun r => s.inserts.countP fun i => (r.pattern.refusal? i).isSome).sum ∧
    (p.strict = true → ∀ e ∈ (p.enforce s).events, e.severity ≠ .warn) := by
  have hwarnings := enforceRules_warnings h
  rw [weigh_warnings] at hwarnings
  have hrun := h
  rw [Policy.enforce, Policy.enforceRules_result, settle_eq_ok] at hrun
  obtain ⟨hnone, rfl⟩ := hrun
  refine ⟨⟨?_, enforceRules_adds pass_predicates h⟩, ⟨?_, enforceRules_adds pass_added h⟩, ?_, ?_⟩
  · exact (selects_framed p.rules s).imp fun _ _ hframed => hframed.operands
  · exact targets_extended p.rules s
  · refine hwarnings.trans ?_
    cases hstrict : p.strict with
    | false => rfl
    | true =>
      -- Under a strict policy an INSERT to warn of would have been refused.
      rw [hstrict, Policy.findSome?_refuse, if_pos rfl, List.findSome?_eq_none_iff] at hnone
      symm
      refine List.sum_eq_zero fun k hk => ?_
      obtain ⟨r, hr, rfl⟩ := List.mem_map.mp hk
      refine List.countP_eq_zero.mpr fun i hi => ?_
      rw [List.findSome?_eq_none_iff.mp (hnone r hr) i hi]
      simp
  · intro hstrict e he hwarn
    rw [if_pos hstrict] at hwarnings
    exact List.countP_eq_zero.mp hwarnings e he (decide_eq_true hwarn)

/-- A rule for every table, which asks for the columns that an INSERT has. -/
def mirroringRule : Rule :=
  ⟨⟨.predicate fun _ => true, none⟩, .derived fun
    | .select _ => [(.bare "tenant_id", .text "acme"), (.bare "region", .text "eu")]
    | .insert i => i.columns.map fun c => (c, .null)⟩

/--
Two rules, one with columns that are worked out, at an upsert whose action has a subquery and
at an INSERT that takes its rows from a SELECT: three predicates, three columns, two warnings.
-/
theorem Policy.enforce_accounts_mirroring :
    let p : Policy := ⟨[ordersRule, mirroringRule], false⟩
    let orders : Target := .table [.ident (.bare "orders")]
    let from_ : Query := ⟨[], .select (fromOrders (some (.ident (.bare "open")))), []⟩
    let copy : Insert := ⟨"INSERT INTO ", orders, none, [], some from_, [], [],
      .conflict none ["DO NOTHING"], []⟩
    let upsert : Insert := ⟨"INSERT INTO ", orders, none, [.bare "id", .bare "day"],
      some ⟨[], .values [], []⟩, [], [],
      .conflict (some (.columns [.bare "id"])) [.statement (.insert copy)], []⟩
    let s : Statement := .insert upsert
    ∃ t, (p.enforce s).result = .ok t ∧
      weigh Event.predicates (p.enforce s).events = 3 ∧
      weigh Event.added (p.enforce s).events = 3 ∧
      (p.enforce s).events.countP (·.severity = .warn) = 2 ∧
      (s.selects.map fun b => b.operands.length).sum = 1 ∧
      (t.selects.map fun b => b.operands.length).sum = 4 ∧
      (weigh Event.added (p.enforce s).events
          + (s.inserts.map fun i => i.conflict.targetColumns.length).sum
        = (t.inserts.map fun i => i.conflict.targetColumns.length).sum) := by
  intro p orders from_ copy upsert s
  exact ⟨_, rfl, by decide, by decide, by decide, by decide, by decide,
    (Policy.enforce_accounts rfl).2.1.2⟩

end RowScope
