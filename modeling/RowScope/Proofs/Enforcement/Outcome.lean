/-
Results of outcomes.

The result of an outcome does not depend on its events, so what is said about results is
said in `Except`.  All of them have one form: a value, unless something speaks against
it (`settle`).  One such result behind another is again of that form, and the refusal
that comes first counts.
-/
import RowScope.Enforcement.Outcome

namespace RowScope.Enforcement

/-! ### Results -/

/-- A result, unless something speaks against it. -/
def settle {α : Type} (refusal : Option Unsupported) (a : α) : Except Unsupported α :=
  refusal.elim (.ok a) .error

section Settle

variable {α β : Type} {u : Unsupported} {a b : α}

@[simp] theorem settle_none : settle none a = .ok a := rfl

@[simp] theorem settle_some : settle (some u) a = .error u := rfl

@[simp] theorem settle_bind_ok (p : Option Unsupported) (f : α → β) :
    (settle p a >>= fun x => .ok (f x)) = settle p (f a) := by
  cases p <;> rfl

/-- Of two things that speak against a result, the first one counts. -/
@[simp] theorem settle_bind_settle (p : Option Unsupported) (q : α → Option Unsupported)
    (f : α → β) : (settle p a >>= fun x => settle (q x) (f x)) = settle (p.or (q a)) (f a) := by
  cases p <;> rfl

theorem settle_eq_ok {p : Option Unsupported} : settle p a = .ok b ↔ p = none ∧ a = b := by
  cases p <;> simp

theorem settle_eq_error {p : Option Unsupported} : settle p a = .error u ↔ p = some u := by
  cases p <;> simp

end Settle

namespace Outcome

variable {α β : Type}

@[simp] theorem result_pure (a : α) : (pure a : Outcome α).result = .ok a := rfl

@[simp] theorem result_bind (x : Outcome α) (f : α → Outcome β) :
    (x >>= f).result = x.result >>= fun a => (f a).result := by
  show (Outcome.bind x f).result = _
  unfold Outcome.bind
  cases x.result <;> rfl

@[simp] theorem events_pure (a : α) : (pure a : Outcome α).events = [] := rfl

theorem events_bind_of_ok {x : Outcome α} {a : α} (h : x.result = .ok a) (f : α → Outcome β) :
    (x >>= f).events = x.events ++ (f a).events := by
  show (Outcome.bind x f).events = _
  unfold Outcome.bind
  rw [h]

@[simp] theorem events_record_bind (events : List Event) (f : Unit → Outcome β) :
    (record events >>= f).events = events ++ (f ()).events := rfl

@[simp] theorem events_fail (u : Unsupported) : (fail u : Outcome α).events = [] := rfl

@[simp] theorem result_record (events : List Event) : (record events).result = .ok () := rfl

@[simp] theorem result_fail (u : Unsupported) : (fail u : Outcome α).result = .error u := rfl

end Outcome

@[simp] theorem ok_bind {α β : Type} (a : α) (f : α → Except Unsupported β) :
    (Except.ok a >>= f) = f a := rfl

end RowScope.Enforcement
