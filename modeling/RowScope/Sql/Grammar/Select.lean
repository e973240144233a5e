/-
The grammar of SELECT.

The clauses are read in their order.  Only the FROM list and the filter get a place of
their own in the tree; the rest is kept as pieces.
-/
import RowScope.Sql.Grammar.Relation

namespace RowScope.Sql.Grammar

/-! ### Projections -/

/-- What a star leaves out or puts in. -/
def starOptions : Grammar Phrase := do
  let exclude ←
    if ← keywordIf (← has Dialect.wildcardExcludes) "EXCLUDE" then
      if ← atSymbol "(" then (fun is => " EXCLUDE (" ++ identList is ++ ")") <$> idents
      else (fun i => " EXCLUDE " ++ Ident.render i) <$> ident
    else pure ""
  let except ←
    if ← keywordIf (← has Dialect.wildcardExcepts) "EXCEPT" then
      if ← atSymbol "(" then (fun is => " EXCEPT (" ++ identList is ++ ")") <$> idents
      else (fun i => " EXCEPT (" ++ Ident.render i ++ ")") <$> ident
    else pure ""
  let replacing ← has fun d => d.among [.generic, .clickhouse, .duckdb, .snowflake]
  let replace : Phrase ←
    if ← keywordIf replacing "REPLACE" then do
      let items ← parens <| list do
        let e ← expr
        let _ ← keyword "AS"
        return [.expr e, .text (" AS " ++ (← ident).render)]
      pure (.text " REPLACE (" :: (Phrase.list items ++ [.text ")"]))
    else pure []
  let rename ←
    if ← keywordIf (← has fun d => d.among [.generic, .snowflake]) "RENAME" then
      if ← atSymbol "(" then
        (fun rs => " RENAME (" ++ ", ".intercalate rs ++ ")") <$> parens (list newName)
      else (" RENAME " ++ ·) <$> newName
    else pure ""
  return .text (exclude ++ except) :: (replace ++ [.text rename])
where
  /-- A column and its new name. -/
  newName : Grammar String := do
    let old ← ident
    expectKeyword "AS"
    return old.render ++ " AS " ++ (← ident).render

/-- The word that starts a FROM clause, taken for a column. -/
def isBareFrom : Expr → Bool
  | .ident ⟨v, none⟩ => Token.keyOf v.toList == "FROM"
  | _ => false

/-- One item of a projection. -/
def projectionItem : Grammar Phrase := do
  match ← starred with
  | .star qualifier => return .text (starText qualifier) :: (← starOptions)
  | .plain e =>
    require !(isBareFrom e)
    match (← read).dialect, e with
    | .mssql, .binary (.ident name) .eq right =>
      return [.expr right, .text (" AS " ++ name.render)]
    | _, _ =>
      match ← columnAlias with
      | some i => return [.expr e, .text (" AS " ++ i.render)]
      | none => return [.expr e]

/-- Whether a projection ends behind a comma. -/
def endsProjection (t : Option Token) : Bool :=
  t.isNone || isOneOf notColumnAlias t || [")", ";", "]", "\x7d"].any (isSymbol · t)

/-- The items of a projection. -/
def projection : Grammar (List Phrase) := do
  if ← has Dialect.trailingCommas then listUntil endsProjection projectionItem
  else list projectionItem

/-- How many rows are taken, where that is told ahead of the projection. -/
def top : Grammar Phrase := do
  if ← keyword "TOP" then
    let count : Phrase ←
      if ← atSymbol "(" then do pure [.text " TOP (", .expr (← parens expr), .text ")"]
      else do pure [.text (" TOP " ++ (← uint))]
    let percent ← wordsAfter ["PERCENT"]
    let ties ← wordsAfter ["WITH", "TIES"]
    return count ++ [.text (percent ++ ties)]
  else return []

/-- Which rows count as equal. -/
def distinct : Grammar Phrase := do
  let all ← keyword "ALL"
  if ← keyword "DISTINCT" then
    require !all
    if ← keyword "ON" then
      let es ← parens (listBefore ")" expr)
      return .text " DISTINCT ON (" :: (Phrase.exprs es ++ [.text ")"])
    else return [" DISTINCT"]
  else return []

/-- The table a SELECT writes into. -/
def intoClause : Grammar String := do
  if ← keyword "INTO" then
    let temporary ← match ← oneOf ["TEMP", "TEMPORARY"] with
      | some _ => pure " TEMPORARY"
      | none => pure ""
    let unlogged ← wordsAfter ["UNLOGGED"]
    let table ← wordsAfter ["TABLE"]
    return " INTO" ++ temporary ++ unlogged ++ table ++ " " ++ (← nameText)
  else return ""

/-! ### Clauses behind the filter -/

/-- Expressions in parentheses; without them a single one, where that is allowed. -/
def group (single : Bool) : Grammar (List Expr) := do
  if single && !(← atSymbol "(") then return [← expr]
  else parens (listBefore ")" expr)

/-- A group as text; where a single expression may stand alone, it does. -/
def groupPieces (single : Bool) : List Expr → Phrase
  | [e] => if single then [.expr e] else Phrase.parens [.expr e]
  | es => Phrase.parens (Phrase.exprs es)

/-- Groups in parentheses behind a keyword. -/
def groups (verb : String) (single : Bool) : Grammar Phrase := do
  let gs ← parens (list (group single))
  return .text (verb ++ " (") :: (Phrase.list (gs.map (groupPieces single)) ++ [.text ")"])

/-- One item of GROUP BY. -/
def groupItem : Grammar Phrase := do
  if ← has Dialect.groupingSets then
    if ← keywords ["GROUPING", "SETS"] then groups "GROUPING SETS" false
    else if ← keyword "CUBE" then groups "CUBE" true
    else if ← keyword "ROLLUP" then groups "ROLLUP" true
    else if isSymbol "(" (← peek) && isSymbol ")" (← peekAt 1) then
      skip
      skip
      return ["()"]
    else return [.expr (← expr)]
  else return [.expr (← expr)]

/-- What follows the items of GROUP BY. -/
def groupModifiers : Grammar Phrase := do
  let withs ←
    if ← has fun d => d.among [.generic, .clickhouse, .duckdb, .mysql] then
      many do
        if ← keyword "WITH" then
          return some (" WITH " ++ (← expectOneOf ["ROLLUP", "CUBE", "TOTALS"]))
        else return none
    else pure []
  let sets : Phrase ←
    if ← keywords ["GROUPING", "SETS"] then do
      let gs ← parens (list (group true))
      pure (.text " GROUPING SETS (" :: (Phrase.list (gs.map (groupPieces false)) ++ [.text ")"]))
    else pure []
  return .text ("".intercalate withs) :: sets

/-- GROUP BY. -/
def groupBy : Grammar Phrase := do
  if ← keywords ["GROUP", "BY"] then
    let items : Phrase ← if ← keyword "ALL" then pure ["ALL"] else Phrase.list <$> list groupItem
    return .text " GROUP BY " :: (items ++ (← groupModifiers))
  else return []

/-- Expressions behind two keywords. -/
def exprsBehind (keys : List String) : Grammar Phrase := do
  if ← keywords keys then
    return .text (" " ++ " ".intercalate keys ++ " ") :: Phrase.exprs (← list expr)
  else return []

/-- Windows with names. -/
def namedWindows : Grammar Phrase := do
  if ← keyword "WINDOW" then
    let windows ← list do
      let name ← ident
      expectKeyword "AS"
      if ← symbol "(" then
        return .text (name.render ++ " AS (") :: ((← windowSpec) ++ [.text ")"])
      else
        require (← has fun d => d == .generic)
        return [.text (name.render ++ " AS " ++ (← ident).render)]
    return .text " WINDOW " :: Phrase.list windows
  else return []

/-- What follows the filter of a SELECT. -/
def selectTail : Grammar Phrase := do
  let grouping ← groupBy
  let cluster ← exprsBehind ["CLUSTER", "BY"]
  let distribute ← exprsBehind ["DISTRIBUTE", "BY"]
  let sort : Phrase ←
    if ← keywords ["SORT", "BY"] then do pure (.text " SORT BY " :: (← orderList)) else pure []
  let having ← exprBehind "HAVING"
  let windows ← namedWindows
  let qualify ← exprBehind "QUALIFY"
  let later ← if windows.isEmpty && !qualify.isEmpty then namedWindows else pure []
  -- windows are visited ahead of QUALIFY, wherever they stand
  let ranking := if later.isEmpty then windows ++ qualify else [.crossed qualify later]
  return grouping ++ cluster ++ distribute ++ sort ++ having ++ ranking

/-! ### SELECT -/

/-- A SELECT behind its FROM list, if that came first, and its keyword. -/
def selectBehind (first : Option (List Source)) : Grammar Select := do
  expectKeyword "SELECT"
  let quantifier ← distinct
  let quantifier := quantifier ++ (← top)
  let items ←
    if (← has Dialect.emptyProjections) && (← atKeyword "FROM") then pure [] else projection
  let into ← intoClause
  let from_ ← match first with
    | some ss => pure ss
    | none => if ← keyword "FROM" then sources else pure []
  let prefilter ← if ← has Dialect.prefilters then exprBehind "PREWHERE" else pure []
  let filter ← if ← keyword "WHERE" then some <$> expr else pure none
  return {
    flavor := if first.isSome then .fromFirst else .standard
    quantifier, projection := items, into, sources := from_, prefilter, filter
    tail := ← selectTail }

/-- A SELECT. -/
def select : Grammar Select := do
  if ← keywordIf (← has Dialect.fromFirst) "FROM" then
    let ss ← sources
    if ← atKeyword "SELECT" then selectBehind (some ss)
    else
      return {
        flavor := .fromOnly, quantifier := [], projection := [], into := "", sources := ss
        prefilter := [], filter := none, tail := [] }
  else selectBehind none

end RowScope.Sql.Grammar
