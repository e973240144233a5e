/-
The values that columns are compared with.

A value is what a configuration can say.  As a literal, a text is quoted and a number
is written in decimal digits; a placeholder stands for a value that is bound later.
-/
import RowScope.Decimal.Shortest
import RowScope.Sql.Value

namespace RowScope.Column

/-- The value of a column. -/
inductive Value where
  | text (s : String)
  | integer (n : Int)
  | float (x : Decimal.Double)
  | boolean (b : Bool)
  | placeholder (name : String)
deriving DecidableEq, Repr, Inhabited

namespace Value

/-- The literal of a value. -/
def toSql : Value → Sql.Value
  | text s => .text s
  | integer n => .number (toString n) false
  | float x => .number x.render false
  | boolean b => .boolean b
  | placeholder name => .placeholder name

/-- Equality of values; numbers that are not defined equal nothing. -/
def equals : Value → Value → Bool
  | text s, text t => s == t
  | integer m, integer n => m == n
  | float x, float y => x.equals y
  | boolean a, boolean b => a == b
  | placeholder s, placeholder t => s == t
  | _, _ => false

end Value

end RowScope.Column
