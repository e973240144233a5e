/-
How tightly operators bind.

Operators fall into classes, and a dialect gives each class a number; a larger one
binds tighter.  The server dialect has a scale of its own, in which `XOR` binds tighter
than any comparison and even tighter than `AND`.
-/
import RowScope.Sql.Grammar.Basic

namespace RowScope.Sql

/-- The classes of operators. -/
inductive Binding where
  | period
  | cast
  | zone
  | power
  | product
  | sum
  | xor
  | ampersand
  | bar
  | other
  | between
  | like
  | comparison
  | is
  | not
  | and
  | or
deriving DecidableEq, Repr, Inhabited

namespace Dialect

/-- The number of a class of operators. -/
def strength (d : Dialect) : Binding → Nat :=
  if d.serverOperators then
    fun
      | .period => 200
      | .cast => 140
      | .zone => 110
      | .power => 100
      | .product => 90
      | .sum => 80
      | .xor => 75
      | .ampersand | .bar | .other => 70
      | .between | .like => 60
      | .comparison => 50
      | .is => 40
      | .not => 30
      | .and => 20
      | .or => 10
  else
    fun
      | .period => 100
      | .cast => 50
      | .zone => 41
      | .product => 40
      | .sum => 30
      | .xor => 24
      | .ampersand => 23
      | .power => 22
      | .bar => 21
      | .between | .comparison => 20
      | .like => 19
      | .is => 17
      | .other => 16
      | .not => 15
      | .and => 10
      | .or => 5

end Dialect

namespace Grammar

/-- The comparisons, which may be followed by `ANY`, `ALL` or `SOME`. -/
def comparisons : List String :=
  ["=", "==", "<", "<=", "<>", ">", ">=", "~", "~*", "!~", "!~*", "~~", "~~*", "!~~", "!~~*"]

/-- The operators that look into a document or a list. -/
def arrows : List String :=
  ["->", "->>", "#>", "#>>", "@>", "<@", "#-", "@?", "@@", "?", "?&", "?|"]

/-- Symbols made of operator characters that are no operator between two operands. -/
def notBetween : List String := ["!!", "|/", "||/", "@", "=>", "|>", "@-@", "?-"]

/-- The class of a symbol that stands between two operands. -/
def symbolBinding (d : Dialect) (s : String) : Option Binding :=
  if comparisons.contains s || s == "<=>" || s == ":=" then some .comparison
  else if arrows.contains s then some .other
  else if s == "+" || s == "-" then some .sum
  else if s == "*" || s == "/" || s == "//" || s == "%" then some .product
  else if s == "||" then some (if d.serverOperators then .other else .product)
  else if s == "|" then some .bar
  else if s == "&" then some .ampersand
  else if s == "^" then some .power
  else if s == "#" || s == "<<" || s == ">>" then
    some (if d.serverOperators then .other else .power)
  else if s == "::" then some .cast
  else if s == "!" || s == "^@" then some (if d.serverOperators then .other else .cast)
  else if s == "&&" then some (if d.serverOperators then .other else .bar)
  else if d.freeOperators && !notBetween.contains s && s.toList.all Token.isOperatorChar then
    some .other
  else none

/-- The words behind `NOT` that make it a part of an operator. -/
def negatable : List (String × Binding) :=
  [("IN", .between), ("BETWEEN", .between), ("LIKE", .like), ("ILIKE", .like), ("RLIKE", .like),
   ("REGEXP", .like), ("MATCH", .like), ("SIMILAR", .like), ("MEMBER", .like)]

/-- The class of the operator at the front of some tokens, if an operator is there. -/
def bindingOf (d : Dialect) (inColumn : Bool) (tokens : List Lexeme) : Option Binding :=
  match (tokens.take 2).map Lexeme.token with
  | .symbol s :: _ => symbolBinding d s
  | .word _ none key :: rest =>
    if key == "OR" then some .or
    else if key == "AND" then some .and
    else if key == "XOR" then some .xor
    else if key == "AT" then
      if startsWith ["AT", "TIME", "ZONE"] tokens then some .zone else none
    else if key == "NOT" then
      match rest with
      | .word _ none next :: _ =>
        if next == "NULL" then if inColumn then none else some .is
        else negatable.lookup next
      | _ => none
    else if key == "NOTNULL" then if d.notNullTests then some .is else none
    else if key == "IS" then some .is
    else if key == "OVERLAPS" || key == "OPERATOR" then some .between
    else if key == "DIV" then some .product
    else negatable.lookup key
  | _ => none

/-- The number of the operator at the front of some tokens; zero if none is there. -/
def strengthOf (d : Dialect) (inColumn : Bool) (tokens : List Lexeme) : Nat :=
  ((bindingOf d inColumn tokens).map d.strength).getD 0

/-- The number of the operator that is next; zero if none is. -/
def nextStrength : Grammar Nat := do
  let level ← read
  return strengthOf level.dialect level.inColumn (← get)

/-- An expression whose operators all bind tighter than a class. -/
def exprAboveBinding (b : Binding) : Grammar Expr := do
  exprAbove ((← read).dialect.strength b)

end Grammar

end RowScope.Sql
