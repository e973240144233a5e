/-
Sessions: a policy is put together, a guard is set up with it, and statements are passed
by the guard again and again.

The guard in use changes only when it is set up anew, whatever happens to the policy.
-/
import RowScope.Guard
import RowScope.Sql.Tree.Equality

namespace RowScope

/-- A session. -/
structure Session where
  /-- The policy that is being put together. -/
  policy : Policy := {}
  /-- The guard in use. -/
  guard : Guard := {}
  /-- The statements in hand. -/
  statements : List Sql.Statement := []

namespace Session

/-- Adds a rule to the policy. -/
def addRule (s : Session) (r : Rule) : Session :=
  { s with policy := { s.policy with rules := s.policy.rules ++ [r] } }

/-- Says whether an INSERT that cannot be discriminated is to be an error. -/
def setStrict (s : Session) (strict : Bool) : Session :=
  { s with policy := { s.policy with strict } }

/-- Takes the policy of a configuration. -/
def configure (s : Session) (c : Config) : Session := { s with policy := c.policy }

/-- Sets up the guard anew. -/
def setUp (s : Session) (d : Sql.Dialect) : Session := { s with guard := ⟨s.policy, d⟩ }

/-- Takes the statements of a text in hand. -/
def parse (s : Session) (sql : String) : Except Refusal Session := do
  return { s with statements := ← s.guard.parse sql }

/--
Enforces the guard's policy on the statements in hand, and tells whether all of them
stayed as they were.
-/
def enforce (s : Session) : Except Refusal (Bool × Session) := do
  let results ← (s.guard.policy.enforceAll s.statements).result.mapError .unsupported
  let unchanged := (s.statements.zip results).all fun (before, after) => before.same after
  return (unchanged, { s with statements := results })

end Session

end RowScope
