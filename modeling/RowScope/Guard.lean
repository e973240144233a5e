/-
Guards: a policy enforced on SQL texts.

A guard reads a text in its dialect, enforces its policy on every statement and writes
the results down again.
-/
import RowScope.Config.File
import RowScope.Policy
import RowScope.Sql.Grammar.Statement
import RowScope.Sql.Tree.Printer

namespace RowScope

open Enforcement (Event Unsupported)

/-- A policy for the texts of a dialect. -/
structure Guard where
  policy : Policy := {}
  dialect : Sql.Dialect := .postgres
deriving Inhabited

/-- Why a guard lets nothing through. -/
inductive Refusal where
  | unsupported (u : Unsupported)
  | unreadable (e : Sql.SyntaxError)
deriving Repr, Inhabited

namespace Guard

/-- The statements of a text. -/
def parse (g : Guard) (sql : String) : Except Refusal (List Sql.Statement) :=
  (Sql.Statement.parse g.dialect sql).mapError .unreadable

/-- The statements of a text under the policy, with the events on the way. -/
def statements (g : Guard) (sql : String) : List Event × Except Refusal (List Sql.Statement) :=
  match g.parse sql with
  | .error e => ([], .error e)
  | .ok ss =>
    let o := g.policy.enforceAll ss
    (o.events, o.result.mapError .unsupported)

/-- The text of several statements. -/
def render (ss : List Sql.Statement) : String :=
  "; ".intercalate (ss.map Sql.Statement.render)

/-- The text that stands for a text under the policy, with the events on the way. -/
def enforce (g : Guard) (sql : String) : List Event × Except Refusal String :=
  let (events, result) := g.statements sql
  (events, result.map render)

/-- Each statement of a text as it was read, with what each rule made of it. -/
def trace (g : Guard) (sql : String) :
    Except Refusal (List (Sql.Statement × List (Except Unsupported Sql.Statement))) :=
  (g.parse sql).map fun ss =>
    ss.map fun s => (s, Policy.stages g.policy.strict g.policy.rules s)

end Guard

end RowScope
