/-
The grammar of function calls: arguments, windows, and orders.

A call is an expression with its parts apart, because the window it ranges over is
visited ahead of the order of an ordered-set aggregate, which is printed first.
-/
import RowScope.Sql.Grammar.Operators
import RowScope.Sql.Grammar.Types

namespace RowScope.Sql.Grammar

/-! ### Literals -/

/-- Text literals that stand side by side and are read as one. -/
def joinedText (s : String) : Grammar String := do
  let more ← many do
    match ← peek with
    | some (.literal (.text t)) =>
      skip
      return some t
    | _ => return none
  return "".intercalate (s :: more)

/-- A literal or a bind parameter. -/
def value : Grammar Value := do
  match ← peek with
  | some (.literal (.text s)) =>
    skip
    if (← read).dialect == .mysql then return .text (← joinedText s) else return .text s
  | some (.literal v) =>
    skip
    return v
  | some (.word text quote key) =>
    skip
    if key == "NULL" then return .null
    else if key == "TRUE" || key == "FALSE" then
      require (← has Dialect.booleanLiterals)
      return .boolean (key == "TRUE")
    else match quote with
      | some '"' => return .doubleQuoted text
      | some '\'' => return .text text
      | _ => fail
  | some (.symbol mark) =>
    require (mark == ":" || mark == "@")
    skip
    match (← get).head? with
    | some ⟨.word text _ _, false⟩ =>
      skip
      return .placeholder (mark ++ text)
    | some ⟨.literal (.number digits false), false⟩ =>
      skip
      return .placeholder (mark ++ digits)
    | _ => fail
  | none => fail

/-! ### Orders -/

/-- How an order goes: up or down, and where nulls stand. -/
def orderOptions : Grammar String := do
  let direction ← match ← oneOf ["ASC", "DESC"] with
    | some d => pure (" " ++ d)
    | none => pure ""
  let first ← wordsAfter ["NULLS", "FIRST"]
  let nulls ← if first == "" then wordsAfter ["NULLS", "LAST"] else pure first
  return direction ++ nulls

/-- One item of an order. -/
def orderItem : Grammar Phrase := do
  let e ← expr
  return [e, .text (← orderOptions)]

/-- The items of an order, behind its keywords. -/
def orderList : Grammar Phrase := Phrase.list <$> list orderItem

/-- `ORDER BY` and its items, if they are next, with a text in front. -/
def orderBy (before : String) : Grammar Phrase := do
  if ← keywords ["ORDER", "BY"] then
    return .text (before ++ "ORDER BY ") :: (← orderList)
  else return []

/-! ### Intervals -/

/-- The units of an interval behind its value. -/
def intervalUnits : Grammar String := do
  match ← oneOf units with
  | none =>
    require !(← has Dialect.intervalsNeedUnit)
    return ""
  | some "SECOND" =>
    if ← symbol "(" then
      let p ← uint
      let s ← if ← symbol "," then (", " ++ ·) <$> uint else pure ""
      expectSymbol ")"
      return " SECOND (" ++ p ++ s ++ ")"
    else return " SECOND"
  | some unit =>
    let precision ← lengthText
    let precision := if precision == "" then "" else " " ++ precision
    if ← keyword "TO" then
      let last ← dateField
      let fraction ← if last == "SECOND" then lengthText else pure ""
      return " " ++ unit ++ precision ++ " TO " ++ last
        ++ (if fraction == "" then "" else " " ++ fraction)
    else return " " ++ unit ++ precision

/-! ### Windows -/

/-- One end of a window's frame. -/
def frameBound : Grammar Phrase := do
  if ← keywords ["CURRENT", "ROW"] then return ["CURRENT ROW"]
  else
    let rows : Phrase ←
      if ← keyword "UNBOUNDED" then pure ["UNBOUNDED"]
      else match ← peek with
        | some (.literal (.text s)) => do
          skip
          pure [.text ("INTERVAL " ++ Value.render (.text s) ++ (← intervalUnits))]
        | _ => do pure [.expr (← expr)]
    let side ← expectOneOf ["PRECEDING", "FOLLOWING"]
    return rows ++ [.text (" " ++ side)]

/-- The frame of a window. -/
def frame : Grammar Phrase := do
  let unit ← expectOneOf ["ROWS", "RANGE", "GROUPS"]
  if ← keyword "BETWEEN" then
    let low ← frameBound
    expectKeyword "AND"
    let high ← frameBound
    return .text (unit ++ " BETWEEN ") :: (low ++ [.text " AND "] ++ high)
  else return .text (unit ++ " ") :: (← frameBound)

/-- A window up to its closing parenthesis. -/
def windowSpec : Grammar Phrase := do
  let base : List Phrase ← match ← peek with
    | some (.word _ _ key) =>
      if ["PARTITION", "ORDER", "ROWS", "RANGE", "GROUPS"].contains key then pure []
      else do pure [[.text (← ident).render]]
    | _ => pure []
  let partition : List Phrase ←
    if ← keywords ["PARTITION", "BY"] then do
      pure [.text "PARTITION BY " :: Phrase.exprs (← list expr)]
    else pure []
  let order ← orderBy ""
  let frame : List Phrase ← if ← atSymbol ")" then pure [] else do pure [← frame]
  expectSymbol ")"
  return Phrase.separated " "
    (base ++ partition ++ (if order.isEmpty then [] else [order]) ++ frame)

/-- What a call ranges over: a window of its own, or one by its name. -/
def windowClause : Grammar Phrase := do
  if ← keyword "OVER" then
    if ← symbol "(" then return .text " OVER (" :: ((← windowSpec) ++ [.text ")"])
    else return [.text (" OVER " ++ (← ident).render)]
  else return []

/-! ### Arguments -/

/-- An expression, or the star that stands for all columns. -/
inductive Starred where
  | star (qualifier : List Ident)
  | plain (e : Expr)

/-- The names up to a star, behind the first of them; nothing if they do not end in a star. -/
def starQualifier : Nat → List Ident → Grammar (Option (List Ident))
  | 0, _ => return none
  | n + 1, before => do
    if ← symbol "." then
      match ← peek with
      | some (.word text quote _) =>
        skip
        starQualifier n (before ++ [⟨text, quote⟩])
      | some (.literal (.text s)) =>
        skip
        starQualifier n (before ++ [.withQuote '\'' s])
      | some (.literal (.placeholder s)) =>
        skip
        starQualifier n (before ++ [.bare s])
      | t =>
        require (isSymbol "*" t)
        skip
        return some before
    else return none

/-- A star with a dotted name in front of it, if one is next. -/
def qualifiedStar (first : Ident) : Grammar (Option (List Ident)) := do
  let tokens ← get
  skip
  match ← starQualifier tokens.length [first] with
  | some names => return some names
  | none =>
    set tokens
    return none

/-- An expression or a star. -/
def starred : Grammar Starred := do
  let next ← peek
  if isSymbol "*" next then
    skip
    return .star []
  else if isSymbol "(" next && isSymbol "*" (← peekAt 1) && isSymbol ")" (← peekAt 2) then
    skip
    skip
    skip
    return .star []
  else
    let first : Option Ident := match next with
      | some (.word text quote _) => some ⟨text, quote⟩
      | some (.literal (.text s)) => some (.withQuote '\'' s)
      | _ => none
    let qualifier ← match first with
      | some i => if isSymbol "." (← peekAt 1) then qualifiedStar i else pure none
      | none => pure none
    match qualifier with
    | some names => return .star names
    | none => return .plain (← expr)

/-- The text of a star. -/
def starText (qualifier : List Ident) : String :=
  if qualifier.isEmpty then "*" else Ident.renderPath qualifier ++ ".*"

/-- A star or an expression as pieces. -/
def Starred.pieces : Starred → Phrase
  | star qualifier => [.text (starText qualifier)]
  | plain e => [.expr e]

/-- The marks between the name of an argument and its value. -/
def argumentMarks (d : Dialect) : List String :=
  ["=>"] ++ (if d == .postgres then [":"] else [])
    ++ (if d.among [.generic, .duckdb, .mssql, .postgres] then [":="] else [])

/-- The mark between the name of an argument and its value, if it is next. -/
def argumentMark : Grammar (Option String) := do
  if ← keyword "VALUE" then return some " VALUE "
  else match ← peek with
    | some (.symbol s) =>
      if (argumentMarks (← read).dialect).contains s then
        skip
        return some (if s == ":" then " : " else " " ++ s ++ " ")
      else return none
    | _ => return none

/-- One argument of a call. -/
def argument : Grammar Phrase := do
  let first ← starred
  match first with
  | .star _ => return first.pieces
  | .plain _ =>
    match ← argumentMark with
    | none => return first.pieces
    | some mark => return first.pieces ++ .text mark :: (← starred).pieces

/-- Arguments up to the closing parenthesis, without anything behind them. -/
def argumentsOnly : Grammar Phrase := do
  let arguments ← listBefore ")" argument
  expectSymbol ")"
  return Phrase.list arguments

/-- Whether nulls count. -/
def nullTreatment : Grammar String := do
  let ignore ← wordsAfter ["IGNORE", "NULLS"]
  if ignore == "" then wordsAfter ["RESPECT", "NULLS"] else return ignore

/-- What may follow the arguments inside the parentheses. -/
def argumentClauses : Grammar Phrase := do
  let d := (← read).dialect
  let nulls ← if d.among [.generic, .snowflake, .mssql, .duckdb] then nullTreatment else pure ""
  let order ← orderBy " "
  let limit ← exprBehind "LIMIT"
  let separator : Phrase ←
    if ← keywordIf (d.among [.generic, .mysql]) "SEPARATOR" then do
      pure [.text (" SEPARATOR " ++ (← value).render)]
    else pure []
  return .text nulls :: (order ++ limit ++ separator)

/-- The arguments of a call and all that stands between its parentheses. -/
def arguments : Grammar Phrase := do
  if ← symbol ")" then return ["()"]
  else
    let all ← keyword "ALL"
    let distinct ← keyword "DISTINCT"
    require !(all && distinct)
    let quantifier := if all then "ALL " else if distinct then "DISTINCT " else ""
    let items ← list argument
    let clauses ← argumentClauses
    expectSymbol ")"
    return .text ("(" ++ quantifier) :: (Phrase.list items ++ clauses ++ [.text ")"])

/-- Whether a query is next. -/
def atQuery : Grammar Bool := atOneOf ["SELECT", "WITH"]

/-- The filter of an aggregate. -/
def aggregateFilter : Grammar Phrase := do
  if ← has Dialect.aggregateFilters then
    if ← keyword "FILTER" then
      if ← symbol "(" then
        if ← keyword "WHERE" then
          let e ← expr
          expectSymbol ")"
          return [.text " FILTER (WHERE ", .expr e, .text ")"]
  return []

/-- The order of an ordered-set aggregate. -/
def withinGroup : Grammar Phrase := do
  if ← keywords ["WITHIN", "GROUP"] then
    let order ← parens do
      expectKeywords ["ORDER", "BY"]
      orderList
    return .text " WITHIN GROUP (ORDER BY " :: (order ++ [.text ")"])
  else return []

/-- A call, whose name has been read. -/
def call (name : String) : Grammar Expr := do
  expectSymbol "("
  if (← has Dialect.queryArguments) && (← atQuery) then
    let q ← query
    expectSymbol ")"
    return .call name [.text "(", .query q, .text ")"] [] [] []
  else
    let first ← arguments
    let second : Phrase ←
      if ← symbolIf ((← read).dialect == .clickhouse) "(" then arguments else pure []
    let within ← withinGroup
    let filter ← aggregateFilter
    let nulls ← nullTreatment
    let window ← windowClause
    return .call name (first ++ second) within (filter ++ [.text nulls]) window

end RowScope.Sql.Grammar
