/-
Policies: rules that are enforced one after the other.

Each rule goes over the whole statement, queries inside queries included, and works on
what the rules before it have made of the statement.
-/
import RowScope.Enforcement.Insert
import RowScope.Enforcement.Select
import RowScope.Rule.Declared
import RowScope.Sql.Tree.Walk

namespace RowScope

open Enforcement (Event Outcome Unsupported)

/-! ### One rule -/

/-- What a rule does with the nodes it changes. -/
def Rule.visitor (r : Rule) (strict : Bool) : Sql.Visitor Outcome where
  body := Enforcement.body r
  insert := Enforcement.insert r strict

/-- Enforces a rule on a statement. -/
def Rule.enforce (r : Rule) (strict : Bool) (s : Sql.Statement) : Outcome Sql.Statement :=
  s.walk (r.visitor strict)

/-! ### Policies -/

/-- Rules, in the order in which they are enforced. -/
structure Policy where
  rules : List Rule := []
  /-- An INSERT that cannot be discriminated is an error. -/
  strict : Bool := true
deriving Inhabited

/-- The policy that a configuration declares. -/
def Config.policy (c : Config) : Policy := ⟨c.rules.map DeclaredRule.toRule, c.strict⟩

namespace Policy

/-- The policy of a configuration, with the event of loading it. -/
def ofConfig (c : Config) : Policy × List Event :=
  (c.policy, [.policyLoaded c.rules.length c.strict])

/-- Enforces rules one after the other. -/
def enforceRules (strict : Bool) : List Rule → Sql.Statement → Outcome Sql.Statement
  | [], s => pure s
  | r :: rest, s => do
    let s ← r.enforce strict s
    enforceRules strict rest s

/-- Enforces a policy on a statement. -/
def enforce (p : Policy) (s : Sql.Statement) : Outcome Sql.Statement :=
  enforceRules p.strict p.rules s

/-- Enforces a policy on several statements; the first failure ends it. -/
def enforceAll (p : Policy) : List Sql.Statement → Outcome (List Sql.Statement)
  | [] => pure []
  | s :: rest => do
    let s ← p.enforce s
    let rest ← enforceAll p rest
    return s :: rest

/-- A statement after each rule in turn, up to the first failure. -/
def stages (strict : Bool) :
    List Rule → Sql.Statement → List (Except Unsupported Sql.Statement)
  | [], _ => []
  | r :: rest, s =>
    match (r.enforce strict s).result with
    | .ok s => .ok s :: stages strict rest s
    | .error u => [.error u]

/-- What the execution of a statement yields is passed on as it is. -/
def passResult {α : Type} (_ : Policy) (result : α) : α := result

end Policy

end RowScope
