/-
What enforcing a rule leaves behind: a result, and the events on the way to it.

An INSERT on a discriminated table has to list its rows.  If it does not, enforcing the
rule either fails, and then there is no statement at all, or passes the INSERT by.  The
events up to that point are kept in either case.
-/

namespace RowScope.Enforcement

/-- The sources of an INSERT that are no list of rows. -/
inductive Construct where
  | noRows
  | select
  | setOperation
  | subquery
  | other
deriving DecidableEq, Repr, Inhabited

/-- The text of a construct. -/
def Construct.describe : Construct → String
  | noRows => "INSERT without a VALUES list"
  | select => "INSERT ... SELECT"
  | setOperation => "INSERT from a set operation"
  | subquery => "INSERT from a subquery"
  | other => "INSERT from a non-literal source"

/-- An INSERT that cannot be discriminated. -/
structure Unsupported where
  table : String
  construct : Construct
deriving DecidableEq, Repr, Inhabited

/-- The text of the error. -/
def Unsupported.message (u : Unsupported) : String :=
  "cannot discriminate " ++ u.construct.describe ++ " on table " ++ u.table

/-! ### Events -/

/-- How much an event matters. -/
inductive Severity where
  | debug
  | info
  | warn
deriving DecidableEq, Repr, Inhabited

/-- The text of a severity. -/
def Severity.describe : Severity → String
  | debug => "DEBUG"
  | info => "INFO"
  | warn => "WARN"

/-- Something worth recording. -/
inductive Event where
  | policyLoaded (rules : Nat) (strict : Bool)
  | insertSkipped (target : String)
  | insertLeft (table : String) (construct : Construct)
  | targetExtended (table : String) (added : Nat)
  | targetSet (table : String) (added : Nat)
  | constraintKept (table : String)
  | aliasSkipped (table aliased : String)
  | selectDiscriminated (table : String) (predicates : Nat)
deriving DecidableEq, Repr, Inhabited

namespace Event

/-- How much an event matters. -/
def severity : Event → Severity
  | policyLoaded .. => .info
  | insertLeft .. => .warn
  | _ => .debug

/-- The text of an event. -/
def message : Event → String
  | policyLoaded .. => "Building discriminator pipeline"
  | insertSkipped _ => "Skipping insert into unresolvable table name"
  | insertLeft .. => "Insert left without discriminator columns"
  | targetExtended .. => "Extending conflict target"
  | targetSet .. => "Setting conflict target"
  | constraintKept _ => "Conflict target is a named constraint, leaving it"
  | aliasSkipped .. => "Aliased table is not discriminated"
  | selectDiscriminated .. => "Discriminating select"

/-- The fields of an event. -/
def fields : Event → List (String × String)
  | policyLoaded rules strict =>
    [("rules", toString rules), ("throw_on_unsupported", if strict then "true" else "false")]
  | insertSkipped target => [("target_table", target)]
  | insertLeft table construct => [("table", table), ("construct", construct.describe)]
  | targetExtended table added => [("table", table), ("added", toString added)]
  | targetSet table added => [("table", table), ("added", toString added)]
  | constraintKept table => [("table", table)]
  | aliasSkipped table aliased => [("table", table), ("alias", aliased)]
  | selectDiscriminated table predicates =>
    [("table", table), ("predicates", toString predicates)]

end Event

/-! ### Outcomes -/

/-- A result with the events that led to it. -/
structure Outcome (α : Type) where
  events : List Event
  result : Except Unsupported α
deriving Inhabited

namespace Outcome

/-- A result without any event. -/
protected def pure {α : Type} (a : α) : Outcome α := ⟨[], .ok a⟩

/-- One outcome after another; what follows a failure does not happen. -/
protected def bind {α β : Type} (x : Outcome α) (f : α → Outcome β) : Outcome β :=
  match x.result with
  | .ok a => let y := f a; ⟨x.events ++ y.events, y.result⟩
  | .error u => ⟨x.events, .error u⟩

instance : Monad Outcome where
  pure := Outcome.pure
  bind := Outcome.bind

/-- Records events. -/
def record (events : List Event) : Outcome Unit := ⟨events, .ok ()⟩

/-- Fails. -/
def fail {α : Type} (u : Unsupported) : Outcome α := ⟨[], .error u⟩

end Outcome

end RowScope.Enforcement
