/-
Which statements a policy refuses.

The rules run one after the other, each over what the rules before it have left, so it is
not plain that a refusal can be read off the statement as it was.  It can, because of one
invariant: a rule changes the INSERTs of a statement, but not what any pattern has
against them (`refusals_enforce`).  The statement is therefore refused if and only if some
rule refuses one of its INSERTs as they stood at first, and the first rule that does so
names the first INSERT it refuses.

Of the list of INSERTs nothing is used but its order, which is that of the walk: each
INSERT comes behind those inside it.
-/
import Mathlib.Data.List.Forall2
import RowScope.Guard
import RowScope.Proofs.Enforcement.Rule

namespace RowScope

open Sql Enforcement

namespace Policy

/-! ### Rules in a row -/

/-- Enforcing a rule neither makes, hides nor moves a refusal. -/
theorem refusals_enforce (r r' : Rule) (strict : Bool) (s : Statement) :
    (s.revise r'.revision).inserts.findSome? (r.refuse strict)
      = s.inserts.findSome? (r.refuse strict) := by
  rw [Statement.inserts_revise, List.findSome?_map]
  congr 1
  funext i
  exact (refuse_extended r r' strict _).trans (refuse_reviseParts r strict _ i)

/-- Rules that are enforced in a row come to their revisions, unless one refuses an INSERT. -/
theorem enforceRules_result (strict : Bool) (rules : List Rule) (s : Statement) :
    (enforceRules strict rules s).result
      = settle (rules.findSome? fun r => s.inserts.findSome? (r.refuse strict))
          (rules.foldl (fun s r => s.revise r.revision) s) := by
  induction rules generalizing s with
  | nil => rfl
  | cons r rest ih =>
    have hrest : (rest.findSome? fun r' =>
          (s.revise r.revision).inserts.findSome? (r'.refuse strict))
        = rest.findSome? fun r' => s.inserts.findSome? (r'.refuse strict) := by
      congr 1
      funext r'
      exact refusals_enforce r' r strict s
    rw [enforceRules, Outcome.result_bind, enforce_result]
    simp only [ih]
    rw [settle_bind_settle, hrest, List.findSome?_cons, List.foldl_cons]
    cases s.inserts.findSome? (r.refuse strict) <;> rfl

/-- A policy that is not strict refuses nothing. -/
theorem findSome?_refuse (strict : Bool) (rules : List Rule) (s : Statement) :
    (rules.findSome? fun r => s.inserts.findSome? (r.refuse strict))
      = if strict then rules.findSome? fun r => s.inserts.findSome? r.pattern.refusal?
        else none := by
  cases strict with
  | true => rfl
  | false =>
    have hnone : ∀ r : Rule, s.inserts.findSome? (r.refuse false) = none := fun r =>
      List.findSome?_eq_none_iff.mpr fun i _ => rfl
    exact List.findSome?_eq_none_iff.mpr fun r _ => hnone r

/-- A strict policy refuses what the first rule that refuses anything refuses first. -/
theorem enforce_eq_error {p : Policy} {s : Statement} {u : Unsupported} :
    (p.enforce s).result = .error u ↔
      p.strict = true ∧
        (p.rules.findSome? fun r => s.inserts.findSome? r.pattern.refusal?) = some u := by
  rw [enforce, enforceRules_result, settle_eq_error, findSome?_refuse]
  cases p.strict <;> simp

theorem refusal?_isSome {q : Pattern.Table} {i : Insert} :
    (q.refusal? i).isSome = true ↔
      ∃ name, i.plainTarget? = some name ∧ q.covers name = true ∧ i.unlisted? ≠ none := by
  unfold Pattern.Table.refusal?
  cases i.plainTarget? with
  | none => simp
  | some name =>
    cases i.unlisted? with
    | none => simp
    | some construct => by_cases hcovers : q.covers name = true <;> simp [hcovers]

theorem enforce_fails {p : Policy} {s : Statement} :
    (∃ u, (p.enforce s).result = .error u) ↔
      p.strict = true ∧ ∃ r ∈ p.rules, ∃ i ∈ s.inserts, ∃ name,
        i.plainTarget? = some name ∧ r.pattern.covers name = true ∧ i.unlisted? ≠ none := by
  simp only [enforce_eq_error, exists_and_left, ← Option.isSome_iff_exists,
    List.findSome?_isSome_iff, refusal?_isSome]

/-! ### Several statements -/

section EnforceAll

variable {p : Policy}

theorem enforceAll_cons_of_error {s : Statement} {u : Unsupported} (rest : List Statement)
    (h : (p.enforce s).result = .error u) : (p.enforceAll (s :: rest)).result = .error u := by
  rw [enforceAll, Outcome.result_bind, h]
  rfl

theorem enforceAll_cons_of_ok {s t : Statement} (rest : List Statement)
    (h : (p.enforce s).result = .ok t) :
    (p.enforceAll (s :: rest)).result = (p.enforceAll rest).result.map (t :: ·) := by
  rw [enforceAll, Outcome.result_bind, h, ok_bind, Outcome.result_bind]
  rfl

/-- All statements of a list are kept, in their order, or none is. -/
theorem enforceAll_eq_ok {ss ts : List Statement} :
    (p.enforceAll ss).result = .ok ts ↔
      List.Forall₂ (fun s t => (p.enforce s).result = .ok t) ss ts := by
  induction ss generalizing ts with
  | nil =>
    rw [enforceAll, List.forall₂_nil_left_iff, Outcome.result_pure, Except.ok.injEq]
    exact eq_comm
  | cons s rest ih =>
    rw [List.forall₂_cons_left_iff]
    cases hs : (p.enforce s).result with
    | error u =>
      rw [enforceAll_cons_of_error rest hs]
      constructor
      · intro h
        cases h
      · rintro ⟨t, ts', ht, -, -⟩
        cases ht
    | ok t =>
      rw [enforceAll_cons_of_ok rest hs]
      constructor
      · intro h
        cases hrest : (p.enforceAll rest).result with
        | error u =>
          rw [hrest] at h
          cases h
        | ok ts' =>
          rw [hrest] at h
          cases h
          exact ⟨t, ts', rfl, ih.mp hrest, rfl⟩
      · rintro ⟨t', ts', ht, hrest, rfl⟩
        cases ht
        rw [ih.mpr hrest]
        rfl

/-- The first statement of a list that is refused decides what the list is refused for. -/
theorem enforceAll_eq_error {ss : List Statement} {u : Unsupported} :
    (p.enforceAll ss).result = .error u ↔
      ∃ before s after, ss = before ++ s :: after ∧
        (∀ b ∈ before, ∃ t, (p.enforce b).result = .ok t) ∧ (p.enforce s).result = .error u := by
  induction ss with
  | nil =>
    constructor
    · intro h
      cases h
    · rintro ⟨before, s, after, h, -⟩
      exact absurd h.symm (List.append_ne_nil_of_right_ne_nil before (List.cons_ne_nil s after))
  | cons x rest ih =>
    simp only [List.cons_eq_append_iff]
    cases hx : (p.enforce x).result with
    | error u' =>
      rw [enforceAll_cons_of_error rest hx]
      constructor
      · intro h
        cases h
        exact ⟨[], x, rest, Or.inl ⟨rfl, rfl⟩, fun b hb => absurd hb List.not_mem_nil, hx⟩
      · rintro ⟨before, s, after, ⟨rfl, hcons⟩ | ⟨before', rfl, -⟩, hbefore, hs⟩
        · cases hcons
          rw [hx] at hs
          cases hs
          rfl
        · obtain ⟨t, ht⟩ := hbefore x List.mem_cons_self
          rw [hx] at ht
          cases ht
    | ok t =>
      have hmap : (p.enforceAll (x :: rest)).result = .error u
          ↔ (p.enforceAll rest).result = .error u := by
        rw [enforceAll_cons_of_ok rest hx]
        cases (p.enforceAll rest).result <;> simp [Except.map]
      rw [hmap, ih]
      constructor
      · rintro ⟨before, s, after, rfl, hbefore, hs⟩
        exact ⟨x :: before, s, after, Or.inr ⟨before, rfl, rfl⟩,
          List.forall_mem_cons.mpr ⟨⟨t, hx⟩, hbefore⟩, hs⟩
      · rintro ⟨before, s, after, ⟨rfl, hcons⟩ | ⟨before', rfl, hrest⟩, hbefore, hs⟩
        · cases hcons
          rw [hx] at hs
          cases hs
        · exact ⟨before', s, after, hrest, (List.forall_mem_cons.mp hbefore).2, hs⟩

end EnforceAll

end Policy

/-! ### Texts -/

namespace Guard

variable {g : Guard} {sql : String}

theorem parse_ne_unsupported (g : Guard) (sql : String) (u : Unsupported) :
    g.parse sql ≠ .error (.unsupported u) := by
  unfold parse
  cases Sql.Statement.parse g.dialect sql <;> simp [Except.mapError]

theorem statements_eq_ok {ts : List Statement} :
    (g.statements sql).2 = .ok ts ↔
      ∃ ss, g.parse sql = .ok ss ∧
        List.Forall₂ (fun s t => (g.policy.enforce s).result = .ok t) ss ts := by
  unfold statements
  cases g.parse sql with
  | error e => simp
  | ok ss =>
    simp only [← Policy.enforceAll_eq_ok, Except.ok.injEq, exists_eq_left']
    cases (g.policy.enforceAll ss).result <;> simp [Except.mapError]

theorem statements_eq_unsupported {u : Unsupported} :
    (g.statements sql).2 = .error (.unsupported u) ↔
      ∃ before s after, g.parse sql = .ok (before ++ s :: after) ∧
        (∀ b ∈ before, ∃ t, (g.policy.enforce b).result = .ok t) ∧
        (g.policy.enforce s).result = .error u := by
  have hread := parse_ne_unsupported g sql u
  unfold statements
  cases hparse : g.parse sql with
  | error e =>
    rw [hparse] at hread
    simpa using hread
  | ok ss =>
    have hmap : (g.policy.enforceAll ss).result.mapError Refusal.unsupported
          = .error (.unsupported u) ↔ (g.policy.enforceAll ss).result = .error u := by
      cases (g.policy.enforceAll ss).result <;> simp [Except.mapError]
    simp only [hmap, Policy.enforceAll_eq_error, Except.ok.injEq]

end Guard

/-! ### What is refused -/

/--
A statement is refused if and only if refusals count, and some rule covers the target of
an INSERT in it, wherever that stands, whose source is no list of rows.  Both the rules and
the INSERTs are asked in their order, as the statement was at first.  Of the statements of
a text all are kept, in their order, or else the first that is refused speaks for all.
-/
theorem Policy.refused_iff (p : Policy) (d : Dialect) :
    (∀ s, (∃ u, (p.enforce s).result = .error u) ↔
      p.strict = true ∧ ∃ r ∈ p.rules, ∃ i ∈ s.inserts, ∃ name,
        i.plainTarget? = some name ∧ r.pattern.covers name = true ∧ i.unlisted? ≠ none) ∧
    (∀ s u, (p.enforce s).result = .error u ↔
      p.strict = true ∧
        (p.rules.findSome? fun r => s.inserts.findSome? r.pattern.refusal?) = some u) ∧
    (∀ sql ts, ((Guard.mk p d).statements sql).2 = .ok ts ↔
      ∃ ss, (Guard.mk p d).parse sql = .ok ss ∧
        List.Forall₂ (fun s t => (p.enforce s).result = .ok t) ss ts) ∧
    ∀ sql u, ((Guard.mk p d).statements sql).2 = .error (.unsupported u) ↔
      ∃ before s after, (Guard.mk p d).parse sql = .ok (before ++ s :: after) ∧
        (∀ b ∈ before, ∃ t, (p.enforce b).result = .ok t) ∧ (p.enforce s).result = .error u := by
  exact ⟨fun s => enforce_fails, fun s u => enforce_eq_error, fun sql ts => Guard.statements_eq_ok,
    fun sql u => Guard.statements_eq_unsupported⟩

end RowScope
