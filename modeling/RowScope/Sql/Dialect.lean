/-
The dialects of SQL, and the points in which their texts differ.

Each point is a predicate of its own, so the grammar asks for a feature and never for
a dialect by name.
-/
import RowScope.Text.Category

namespace RowScope.Sql

/-- A dialect. -/
inductive Dialect where
  | postgres
  | generic
  | mysql
  | sqlite
  | mssql
  | snowflake
  | clickhouse
  | duckdb
deriving DecidableEq, Repr, Inhabited

namespace Dialect

/-- Whether a dialect is one of a list. -/
def among (d : Dialect) (ds : List Dialect) : Bool := ds.contains d

/-! ### Characters and tokens -/

/-- Characters that may start an identifier. -/
def startsIdent : Dialect → Char → Bool
  | postgres, c => c.isAlpha || c == '_' || 128 ≤ c.toNat
  | generic, c => Text.isLetter c || c == '_' || c == '#' || c == '@'
  | mysql, c => Text.isLetter c || c == '_' || c == '$' || c == '@'
      || (0x80 ≤ c.toNat && c.toNat ≤ 0xFFFF)
  | sqlite, c => c.isAlpha || c == '_' || (0x7F ≤ c.toNat && c.toNat ≤ 0xFFFF)
  | mssql, c => Text.isLetter c || c == '_' || c == '#' || c == '@'
  | snowflake, c => c.isAlpha || c == '_'
  | clickhouse, c => c.isAlpha || c == '_'
  | duckdb, c => Text.isLetter c || c == '_'

/-- Characters that may follow in an identifier. -/
def continuesIdent (d : Dialect) (c : Char) : Bool :=
  c.isDigit || d.startsIdent c
    || (c == '$' && d.among [postgres, generic, mssql, snowflake, duckdb])

/-- Characters that open a quoted identifier. -/
def opensQuoted : Dialect → Char → Bool
  | mysql, c => c == '`'
  | postgres, c => c == '"'
  | sqlite, c => c == '`' || c == '"' || c == '['
  | mssql, c => c == '"' || c == '['
  | _, c => c == '"' || c == '`'

/-- A backslash escapes the next character of a text. -/
def backslashEscapes (d : Dialect) : Bool := d.among [mysql, snowflake, clickhouse]

/-- A backslash in front of `%` or `_` stays in the text. -/
def keepsWildcardEscapes (d : Dialect) : Bool := d == mysql

/-- Comments nest. -/
def nestsComments (d : Dialect) : Bool :=
  d.among [postgres, generic, mssql, clickhouse, duckdb]

/-- `#` starts a comment. -/
def hashComments (d : Dialect) : Bool := d.among [mysql, snowflake]

/-- `//` starts a comment. -/
def slashComments (d : Dialect) : Bool := d == snowflake

/-- A comment's two dashes need a blank behind them. -/
def dashesNeedBlank (d : Dialect) : Bool := d == mysql

/-- Operators may be made up of any operator characters. -/
def freeOperators (d : Dialect) : Bool := d == postgres

/-- A question mark is an operator and no parameter. -/
def questionOperators (d : Dialect) : Bool := d == postgres

/-- `//` divides integers. -/
def slashDivides (d : Dialect) : Bool := d.among [duckdb, generic]

/-- Digits may be grouped by underscores. -/
def groupsDigits (d : Dialect) : Bool := d.among [postgres, clickhouse]

/-- Words may start with digits. -/
def numericWords (d : Dialect) : Bool := d == mysql

/-- `B'..'` is a text of bits. -/
def bitTexts (d : Dialect) : Bool := d.among [postgres, mysql, generic]

/-- `E'..'` and `U&'..'` are texts with escapes. -/
def escapeTexts (d : Dialect) : Bool := d.among [postgres, generic, duckdb]

/-- `$x` is a parameter even before another dollar. -/
def dollarParameters (d : Dialect) : Bool := d == sqlite

/-! ### Names -/

/-- `db..t` leaves out the schema. -/
def doubleDotNames (d : Dialect) : Bool := d.among [mssql, snowflake]

/-- `IDENTIFIER(..)` computes a name. -/
def computedNames (d : Dialect) : Bool := d == snowflake

/-! ### Expressions -/

/-- `[` selects an element of the expression before it. -/
def subscripts (d : Dialect) : Bool := d != snowflake

/-- `INTERVAL` needs a unit, and takes any expression. -/
def intervalsNeedUnit (d : Dialect) : Bool := d.among [mysql, clickhouse]

/-- `INTERVAL` may be left to stand as an identifier. -/
def intervalIsName (d : Dialect) : Bool := d.among [postgres, snowflake]

/-- `IN ()` is allowed. -/
def emptyInLists (d : Dialect) : Bool := d.among [sqlite, duckdb]

/-- Aggregates take a `FILTER` clause. -/
def aggregateFilters (d : Dialect) : Bool :=
  d.among [postgres, generic, sqlite, duckdb, clickhouse]

/-- A query may stand as the only argument of a call, without parentheses of its own. -/
def queryArguments (d : Dialect) : Bool := d == snowflake

/-- `x NOTNULL` is a test. -/
def notNullTests (d : Dialect) : Bool := d.among [postgres, sqlite, duckdb]

/-- `x -> body` is a function. -/
def lambdas (d : Dialect) : Bool := d.among [clickhouse, duckdb]

/-- `TRUE` and `FALSE` are literals. -/
def booleanLiterals (d : Dialect) : Bool := d != mssql

/-- `OPERATOR(s.+)` names an operator, `#` and `&&` are operators, `^` raises to a power. -/
def serverOperators (d : Dialect) : Bool := d == postgres

/-- `MATCH` and `REGEXP` are operators with all that follows as their right operand. -/
def wideMatches (d : Dialect) : Bool := d == sqlite

/-- `BINARY x` is a cast. -/
def binaryCasts (d : Dialect) : Bool := d == mysql

/-! ### Queries -/

/-- A SELECT may start with its FROM clause. -/
def fromFirst (d : Dialect) : Bool := d.among [generic, clickhouse, duckdb]

/-- The projection may be empty. -/
def emptyProjections (d : Dialect) : Bool := d.among [postgres, generic]

/-- A trailing comma is allowed in a projection. -/
def trailingCommas (d : Dialect) : Bool := d.among [generic, snowflake, duckdb]

/-- Wildcards may leave out columns. -/
def wildcardExcludes (d : Dialect) : Bool := d.among [generic, duckdb, snowflake]

/-- Wildcards may leave out columns by `EXCEPT`. -/
def wildcardExcepts (d : Dialect) : Bool := d.among [generic, clickhouse]

/-- `PREWHERE` filters ahead of `WHERE`. -/
def prefilters (d : Dialect) : Bool := d.among [generic, clickhouse]

/-- `GROUP BY` takes `ROLLUP`, `CUBE` and `GROUPING SETS`. -/
def groupingSets (d : Dialect) : Bool := d.among [postgres, generic, duckdb, snowflake]

/-- `LIMIT a, b` is allowed. -/
def limitComma (d : Dialect) : Bool := d.among [generic, mysql, sqlite, clickhouse]

/-- A pipe `|>` continues a query. -/
def pipes (d : Dialect) : Bool := d == generic

/-- `SETTINGS` and `FORMAT` may end a query, and `LIMIT` may be counted per group. -/
def formats (d : Dialect) : Bool := d.among [generic, clickhouse]

/-- A CTE may be `MATERIALIZED`. -/
def materializedTables (d : Dialect) : Bool := d == postgres

/-- `UNNEST(..)` is a FROM item of its own. -/
def unnests (d : Dialect) : Bool := d.among [postgres, generic]

/-- A FROM item may be `VALUES ..` without parentheses. -/
def valuesInFrom (d : Dialect) : Bool := d.among [generic, snowflake]

/-- Parentheses are allowed around a lone table or derived table. -/
def parensAroundTables (d : Dialect) : Bool := d.among [snowflake, generic]

/-- Index hints follow a table. -/
def indexHints (d : Dialect) : Bool := d == mysql

/-! ### Statements -/

/-- `INSERT .. SET ..` is allowed. -/
def insertAssignments (d : Dialect) : Bool := d.among [generic, mysql]

/-- `REPLACE`, `IGNORE` and an alias after the rows are allowed. -/
def insertExtensions (d : Dialect) : Bool := d.among [generic, mysql]

/-- An empty list of columns or values is allowed. -/
def emptyLists (d : Dialect) : Bool := d == mysql

/-- An INSERT may name its target's alias. -/
def insertAliases (d : Dialect) : Bool := d == postgres

/-- An INSERT may write into a table function. -/
def insertFunctions (d : Dialect) : Bool := d == clickhouse

/-- `DELETE t` needs no `FROM`. -/
def bareDelete (d : Dialect) : Bool := d == generic

/-- `EXPLAIN` takes options in parentheses. -/
def explainOptions (d : Dialect) : Bool := d.among [postgres, generic]

/-- Element types are written with brackets behind them. -/
def bracketTypes (d : Dialect) : Bool := d.among [postgres, generic, duckdb, snowflake]

end Dialect

end RowScope.Sql
