/-
The grammar of names: identifiers, dotted names, column lists and aliases.

Nearly every word may name something.  Where an alias may stand without `AS`, the
words that can go on with the statement at that place are set aside, and those are
the two lists below.
-/
import RowScope.Sql.Grammar.Basic
import RowScope.Sql.Tree.Printer

namespace RowScope.Sql.Grammar

/-! ### Identifiers -/

/-- The identifier a token stands for; a quoted text is one as well. -/
def identOf? : Option Token → Option Ident
  | some (.word text quote _) => some ⟨text, quote⟩
  | some (.literal (.text s)) => some (.withQuote '\'' s)
  | some (.literal (.doubleQuoted s)) => some (.withQuote '"' s)
  | _ => none

/-- An identifier. -/
def ident : Grammar Ident := do
  match identOf? (← peek) with
  | some i =>
    skip
    return i
  | none => fail

/-- The identifiers of a list in parentheses. -/
def idents : Grammar (List Ident) := parens (list ident)

/--
A list of identifiers in parentheses that may be left out, and be empty where `empty`
says so.
-/
def optionalIdents (empty : Bool) : Grammar (List Ident) := do
  if ← atSymbol "(" then
    if empty && isSymbol ")" (← peekAt 1) then
      skip
      skip
      return []
    else idents
  else return []

/-- The text of a list of identifiers. -/
def identList (is : List Ident) : String := ", ".intercalate (is.map Ident.render)

/-- The text of a list of identifiers in parentheses, if there are any, with a blank in front. -/
def identListAfter (is : List Ident) : String :=
  if is.isEmpty then "" else " (" ++ identList is ++ ")"

/-! ### Dotted names -/

/-- Texts that may stand between the parentheses of a computed name. -/
def nameArgument : Grammar String := do
  match ← peek with
  | some t =>
    skip
    return t.render
  | none => fail

/-- Whether an identifier is the function that computes a name. -/
def computesName (d : Dialect) (i : Ident) : Bool :=
  d.computedNames && i.quote.isNone && Token.keyOf i.value.toList == "IDENTIFIER"

/-- One part of a name; a name has one computed part at most. -/
def namePart (before : List NamePart) : Grammar NamePart := do
  let i ← ident
  let computed := before.any fun
    | .computed _ => true
    | .ident _ => false
  if computesName (← read).dialect i && !computed then
    let arguments ← parens (listBefore ")" nameArgument)
    return .computed (i.render ++ "(" ++ ", ".intercalate arguments ++ ")")
  else return .ident i

/-- The parts of a name that follow those already read, up to a number of them. -/
def nameParts : Nat → List NamePart → Grammar (List NamePart)
  | 0, before => return before
  | n + 1, before => do
    let part ←
      if before.length == 1 && (← has Dialect.doubleDotNames) && (← atSymbol ".") then
        pure (.ident (.bare ""))
      else namePart before
    let parts := before ++ [part]
    if ← symbol "." then nameParts n parts else return parts

/-- A dotted name. -/
def name : Grammar (List NamePart) := do nameParts ((← get).length + 1) []

/-- The text of a dotted name. -/
def nameText : Grammar String := NamePart.renderName <$> name

/-! ### Aliases -/

/-- Words that go on with a statement behind an item of a projection. -/
def notColumnAlias : List String :=
  ["WITH", "EXPLAIN", "ANALYZE", "SELECT", "WHERE", "GROUP", "SORT", "HAVING", "ORDER", "TOP",
   "LATERAL", "VIEW", "LIMIT", "OFFSET", "FETCH", "UNION", "EXCEPT", "EXCLUDE", "INTERSECT",
   "MINUS", "CLUSTER", "DISTRIBUTE", "RETURNING", "VALUES", "FROM", "INTO", "END"]

/-- Words that go on with a statement behind a FROM item. -/
def notTableAlias : List String :=
  ["WITH", "EXPLAIN", "ANALYZE", "SELECT", "WHERE", "GROUP", "SORT", "HAVING", "ORDER", "PIVOT",
   "UNPIVOT", "TOP", "LATERAL", "VIEW", "LIMIT", "OFFSET", "FETCH", "UNION", "EXCEPT",
   "INTERSECT", "MINUS", "ON", "JOIN", "INNER", "CROSS", "FULL", "LEFT", "RIGHT", "NATURAL",
   "USING", "CLUSTER", "DISTRIBUTE", "GLOBAL", "ANTI", "SEMI", "RETURNING", "OUTPUT", "ASOF",
   "MATCH_CONDITION", "OUTER", "SET", "QUALIFY", "WINDOW", "END", "FOR", "PARTITION", "PREWHERE",
   "SETTINGS", "FORMAT", "START", "CONNECT", "MATCH_RECOGNIZE", "SAMPLE", "TABLESAMPLE", "FROM",
   "OPEN"]

/-- Words that go on with a FROM item where hints may follow it. -/
def hintWords : List String := ["USE", "IGNORE", "FORCE", "STRAIGHT_JOIN"]

/-- An alias, and whether `AS` was written; without `AS` the reserved words are none. -/
def aliasBut (reserved : List String) : Grammar (Option (Bool × Ident)) := do
  let explicit ← keyword "AS"
  let next ← peek
  if !explicit && isOneOf reserved next then return none
  else match identOf? next with
    | some i =>
      skip
      return some (explicit, i)
    | none =>
      require !explicit
      return none

/-- The alias of an item of a projection. -/
def columnAlias : Grammar (Option Ident) := return (← aliasBut notColumnAlias).map Prod.snd

end RowScope.Sql.Grammar
