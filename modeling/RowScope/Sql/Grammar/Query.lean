/-
The grammar of queries: common tables, set operations, and what follows a body.

Set operations bind in two strengths only, and one that binds tighter stands to the
right of one that binds looser, so their bodies nest three deep at most.
-/
import RowScope.Sql.Grammar.Change

namespace RowScope.Sql.Grammar

/-! ### Common tables -/

/-- One common table. -/
def commonTable : Grammar Phrase := do
  let name ← ident
  let columns ← if ← atKeyword "AS" then pure "" else aliasColumns
  expectKeyword "AS"
  let kept ←
    if ← has Dialect.materializedTables then do
      let yes ← wordsAfter ["MATERIALIZED"]
      if yes == "" then wordsAfter ["NOT", "MATERIALIZED"] else pure yes
    else pure ""
  let q ← parens query
  let origin ← if ← keyword "FROM" then (" FROM " ++ ·.render) <$> ident else pure ""
  return [.text (name.render ++ columns ++ " AS" ++ kept ++ " ("), .query q, .text (")" ++ origin)]

/-- The WITH clause of a query, with the blank behind it. -/
def withClause : Grammar Phrase := do
  if ← keyword "WITH" then
    let recursive ← wordsBefore ["RECURSIVE"]
    let tables ← list commonTable
    return .text ("WITH " ++ recursive) :: (Phrase.list tables ++ [.text " "])
  else return []

/-! ### Bodies -/

/-- Whether a set operation keeps equal rows, and how columns are matched. -/
def setQuantifier : Grammar String := do
  let distinctByName ← wordsAfter ["DISTINCT", "BY", "NAME"]
  if distinctByName != "" then return distinctByName
  else
    match ← oneOf ["ALL", "DISTINCT"] with
    | some "DISTINCT" => return " DISTINCT"
    | some _ => return " ALL" ++ (← wordsAfter ["BY", "NAME"])
    | none => wordsAfter ["BY", "NAME"]

/-- The strength of a set operation by its keyword. -/
def setStrength (key : String) : Nat :=
  if key == "INTERSECT" then 20
  else if ["UNION", "EXCEPT", "MINUS"].contains key then 10
  else 0

/-- The whole of a table, behind its keyword; two more tokens go with the name. -/
def wholeTable : Grammar Body := do
  let tokens := (← get).take 3
  modify (List.drop 3)
  match tokens.map Lexeme.token with
  | [.word schema _ _, .symbol ".", .word table _ _] =>
    return .table ("TABLE " ++ schema ++ "." ++ table)
  | .word table _ _ :: rest =>
    require !(isSymbol "." rest.head?)
    return .table ("TABLE " ++ table)
  | _ => fail

/-- The body of a query before any set operation. -/
def simpleBody : Grammar Body := do
  if (← atKeyword "SELECT") || ((← has Dialect.fromFirst) && (← atKeyword "FROM")) then
    return .select (← select)
  else if ← atSymbol "(" then return .query (← parens query)
  else
    match ← oneOf ["VALUES", "VALUE"] with
    | some verb => return .values (← valueRows verb)
    | none =>
      expectKeyword "TABLE"
      wholeTable

/-- Set operations behind a left body, as long as they bind tighter. -/
def setOperations (right : Nat → Grammar Body) (strength : Nat) : Nat → Body → Grammar Body
  | 0, left => return left
  | n + 1, left => do
    match ← peek with
    | some (.word _ none key) =>
      if setStrength key ≤ strength then return left
      else
        skip
        let quantifier ← setQuantifier
        let operand ← right (setStrength key)
        setOperations right strength n (.setOperation (key ++ quantifier) left operand)
    | _ => return left

/-- A body whose set operations all bind tighter than a given strength. -/
def bodyUpTo : Nat → Nat → Grammar Body
  | 0, _ => fail
  | n + 1, strength => do
    let left ← simpleBody
    setOperations (bodyUpTo n) strength (← get).length left

/-- The body of a query. -/
def body : Grammar Body := bodyUpTo 3 0

/-! ### What follows a body -/

/-- OFFSET, behind its keyword. -/
def offset : Grammar Phrase := do
  let e ← expr
  let unit ← match ← oneOf ["ROW", "ROWS"] with
    | some u => pure (" " ++ u)
    | none => pure ""
  return [.text " OFFSET ", .expr e, .text unit]

/-- LIMIT and OFFSET in either order; the limit is printed first. -/
def limits : Grammar Phrase := do
  let early ← if ← keyword "OFFSET" then some <$> offset else pure none
  if ← keyword "LIMIT" then
    if ← keyword "ALL" then
      return early.getD (← if early.isNone then lateOffset else pure [])
    else
      let e ← expr
      if ← symbolIf ((← has Dialect.limitComma) && early.isNone) "," then
        return [.text " LIMIT ", .expr e, .text ", ", .expr (← expr)]
      else
        let per : Phrase ←
          if ← keywordIf (← has Dialect.formats) "BY" then do
            pure (.text " BY " :: Phrase.exprs (← list expr))
          else pure []
        let late ← if early.isNone then lateOffset else pure []
        return [.text " LIMIT ", .expr e] ++ early.getD late ++ per
  else return early.getD []
where
  /-- OFFSET behind LIMIT. -/
  lateOffset : Grammar Phrase := do
    if ← keyword "OFFSET" then offset else return []

/-- FETCH. -/
def fetch : Grammar String := do
  if ← keyword "FETCH" then
    let _ ← oneOf ["FIRST", "NEXT"]
    let quantity ← match ← oneOf ["ROW", "ROWS"] with
      | some _ => pure ""
      | none => do
        let q ← value
        let percent ← wordsAfter ["PERCENT"]
        let _ ← oneOf ["ROW", "ROWS"]
        pure (" " ++ q.render ++ percent)
    let ties ← if ← keyword "ONLY" then pure false else keywords ["WITH", "TIES"]
    return " FETCH FIRST" ++ quantity ++ " ROWS " ++ (if ties then "WITH TIES" else "ONLY")
  else return ""

/-- One lock on the rows, if one is next. -/
def lock : Grammar (Option String) := do
  if ← keyword "FOR" then
    let kind ← expectOneOf ["UPDATE", "SHARE"]
    let target ← if ← keyword "OF" then (" OF " ++ ·) <$> nameText else pure ""
    let skipping ← wordsAfter ["SKIP", "LOCKED"]
    let waiting ← if skipping == "" then wordsAfter ["NOWAIT"] else pure skipping
    return some (" FOR " ++ kind ++ target ++ waiting)
  else return none

/-- One step of a pipe behind a query, if one is next. -/
def pipe : Grammar (Option Phrase) := do
  if ← symbolIf (← has Dialect.pipes) "|>" then
    match ← expectOneOf ["WHERE", "SELECT", "EXTEND", "LIMIT", "ORDER", "AS"] with
    | "SELECT" => return some (.text " |> SELECT " :: Phrase.list (← projection))
    | "EXTEND" => return some (.text " |> EXTEND " :: Phrase.list (← projection))
    | "WHERE" => return some [.text " |> WHERE ", .expr (← expr)]
    | "LIMIT" =>
      let count ← expr
      let offset ← exprBehind "OFFSET"
      return some ([.text " |> LIMIT ", .expr count] ++ offset)
    | "ORDER" =>
      expectKeyword "BY"
      return some (.text " |> ORDER BY " :: (← orderList))
    | _ => return some [.text (" |> AS " ++ (← ident).render)]
  else return none

/-- Settings that hold for one statement. -/
def settings : Grammar Phrase := do
  if ← keywordIf (← has Dialect.formats) "SETTINGS" then
    let items ← list do
      let name ← ident
      expectSymbol "="
      return [.text (name.render ++ " = "), .expr (← expr)]
    return .text " SETTINGS " :: Phrase.list items
  else return []

/-- The order of a query's rows. -/
def queryOrder : Grammar Phrase := do
  if ← keywords ["ORDER", "BY"] then
    if ← keywordIf (← has fun d => d.among [.clickhouse, .duckdb]) "ALL" then
      return [.text (" ORDER BY ALL" ++ (← orderOptions))]
    else return .text " ORDER BY " :: (← orderList)
  else return []

/-- All that follows the body of a query. -/
def queryTail : Grammar Phrase := do
  let order ← queryOrder
  let limit ← limits
  let set ← settings
  let fetched ← fetch
  let locks ← many lock
  let format ←
    if ← keywordIf (← has Dialect.formats) "FORMAT" then
      if ← keyword "NULL" then pure " FORMAT NULL" else (" FORMAT " ++ ·.render) <$> ident
    else pure ""
  let piped ← many pipe
  return order ++ limit ++ set ++ .text (fetched ++ "".intercalate locks ++ format) :: piped.flatten

/-- A query, whose body may also be a statement that changes rows. -/
def wholeQuery : Grammar Query := do
  let preamble ← withClause
  match ← oneOf ["INSERT", "UPDATE", "DELETE", "MERGE"] with
  | some "INSERT" => return ⟨preamble, .statement (.insert (← insert false)), []⟩
  | some "UPDATE" => return ⟨preamble, .statement (← update), []⟩
  | some "DELETE" => return ⟨preamble, .statement (← delete), []⟩
  | some _ => return ⟨preamble, .statement (← merge), []⟩
  | none =>
    let b ← body
    return ⟨preamble, b, ← queryTail⟩

end RowScope.Sql.Grammar
