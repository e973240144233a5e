/-
The grammar of FROM items.

An opening parenthesis starts either a query or a join, and which of them only shows
much later; so it is first read as a query, and if that fails, as a join.  Joins in
parentheses nest without going a level deeper, and the number of tokens bounds them.
-/
import RowScope.Sql.Grammar.Expr

namespace RowScope.Sql.Grammar

/-! ### Aliases -/

/-- Names of columns behind an alias, each with a type if one is given. -/
def aliasColumns : Grammar String := do
  if ← symbol "(" then
    let columns ← list do
      let i ← ident
      match ← attempt typeText with
      | some type => return i.render ++ " " ++ type
      | none => return i.render
    expectSymbol ")"
    return " (" ++ ", ".intercalate columns ++ ")"
  else return ""

/-- The alias of a FROM item. -/
def tableAlias : Grammar (Option Alias) := do
  let hints := if ← has Dialect.indexHints then hintWords else []
  match ← aliasBut (notTableAlias ++ hints) with
  | some (explicit, name) => return some ⟨explicit, name, ← aliasColumns⟩
  | none => return none

/-! ### Single items -/

/-- A sample of a table. -/
def tableSample : Grammar Phrase := do
  match ← oneOf ["TABLESAMPLE", "SAMPLE"] with
  | none => return []
  | some verb =>
    let method ← match ← oneOf ["BERNOULLI", "ROW", "SYSTEM", "BLOCK"] with
      | some m => pure (" " ++ m)
      | none => pure ""
    let enclosed ← symbol "("
    let quantity ← match ← attempt expr with
      | some e => pure e
      | none => do pure (.ident (← ident))
    let unit ← match ← oneOf ["ROWS", "PERCENT"] with
      | some u => pure (" " ++ u)
      | none => pure ""
    if enclosed then expectSymbol ")"
    let seed ← match ← oneOf ["REPEATABLE", "SEED"] with
      | some s => do pure (" " ++ s ++ " (" ++ (← parens value).render ++ ")")
      | none => pure ""
    return [.text (" " ++ verb ++ method ++ (if enclosed then " (" else " ")), .expr quantity,
      .text (unit ++ (if enclosed then ")" else "") ++ seed)]

/-- Hints for the optimizer. -/
def tableHints : Grammar Phrase := do
  if isKeyword "WITH" (← peek) && isSymbol "(" (← peekAt 1) then
    skip
    let hints ← parens (list expr)
    return .text " WITH (" :: (Phrase.exprs hints ++ [.text ")"])
  else return []

/-- Hints for the use of indexes. -/
def indexHints : Grammar String := do
  if ← has Dialect.indexHints then
    let hints ← many do
      attemptText do
        let verb ← expectOneOf ["USE", "IGNORE", "FORCE"]
        let kind ← expectOneOf ["INDEX", "KEY"]
        let purpose ←
          if ← keyword "FOR" then do
            match ← oneOf ["JOIN"] with
            | some j => pure (" FOR " ++ j)
            | none => do
              let p ← expectOneOf ["ORDER", "GROUP"]
              expectKeyword "BY"
              pure (" FOR " ++ p ++ " BY")
          else pure ""
        let names ← parens (listBefore ")" ident)
        return " " ++ verb ++ " " ++ kind ++ purpose ++ " (" ++ identList names ++ ")"
    return "".intercalate hints
  else return ""
where
  /-- A text, or nothing where none can be read. -/
  attemptText (g : Grammar String) : Grammar (Option String) := attempt g

/-- A table by its name, or a function that yields a table. -/
def namedTable : Grammar Relation := do
  let name ← name
  let arguments : Phrase ←
    if ← symbol "(" then do pure (Phrase.parens (← argumentsOnly)) else pure []
  let ordinality ← wordsAfter ["WITH", "ORDINALITY"]
  let aliased ← tableAlias
  let index ← indexHints
  let hints ← tableHints
  let sample ← tableSample
  return .table name arguments [.text ordinality] aliased (.text index :: (hints ++ sample))

/-- A query as a FROM item, behind its opening parenthesis. -/
def derivedTable (lateral : Bool) : Grammar Relation := do
  let q ← query
  expectSymbol ")"
  return .derived lateral q (← tableAlias)

/-- A function whose arguments may come from items ahead of it, behind its keyword. -/
def lateralItem : Grammar Relation := do
  if ← symbol "(" then derivedTable true
  else
    let name ← nameText
    expectSymbol "("
    let arguments ← argumentsOnly
    return .rows (.text ("LATERAL " ++ name) :: Phrase.parens arguments) (← tableAlias)

/-- The elements of arrays as rows, behind the keyword. -/
def unnestItem : Grammar Relation := do
  let arrays ← parens (list expr)
  let ordinality ← wordsAfter ["WITH", "ORDINALITY"]
  let call : Phrase := .text "UNNEST(" :: (Phrase.exprs arrays ++ [.text (")" ++ ordinality)])
  return .rows call (← tableAlias)

/-- Rows of values. -/
def valueRows (verb : String) : Grammar Phrase := do
  let mysql := (← read).dialect == .mysql
  let rows ← list do
    let tagged ← keyword "ROW"
    let es ← parens (if mysql then listBefore ")" expr else list expr)
    return (tagged, Phrase.parens (Phrase.exprs es))
  let mark := if rows.any Prod.fst then "ROW" else ""
  return .text (verb ++ " ") :: Phrase.list (rows.map fun (_, row) => .text mark :: row)

/-! ### Joins -/

/-- The keywords of a join, as they are printed. -/
def joinVerbs : List (List String × String) :=
  [(["JOIN"], "JOIN"), (["INNER", "JOIN"], "INNER JOIN"),
   (["LEFT", "OUTER", "JOIN"], "LEFT OUTER JOIN"), (["LEFT", "SEMI", "JOIN"], "LEFT SEMI JOIN"),
   (["LEFT", "ANTI", "JOIN"], "LEFT ANTI JOIN"), (["LEFT", "JOIN"], "LEFT JOIN"),
   (["RIGHT", "OUTER", "JOIN"], "RIGHT OUTER JOIN"), (["RIGHT", "SEMI", "JOIN"], "RIGHT SEMI JOIN"),
   (["RIGHT", "ANTI", "JOIN"], "RIGHT ANTI JOIN"), (["RIGHT", "JOIN"], "RIGHT JOIN"),
   (["ANTI", "JOIN"], "ANTI JOIN"), (["SEMI", "JOIN"], "SEMI JOIN"),
   (["FULL", "OUTER", "JOIN"], "FULL JOIN"), (["FULL", "JOIN"], "FULL JOIN"),
   (["STRAIGHT_JOIN"], "STRAIGHT_JOIN")]

/-- The first of the verbs that is next. -/
def joinVerb : List (List String × String) → Grammar (Option String)
  | [] => return none
  | (keys, text) :: rest => do
    if ← keywords keys then return some text else joinVerb rest

/-- What relates the two sides of a join. -/
def joinConstraint : Grammar Phrase := do
  if ← keyword "ON" then return [.text " ON ", .expr (← expr)]
  else if ← keyword "USING" then
    let names ← parens (list nameText)
    return [.text (" USING(" ++ ", ".intercalate names ++ ")")]
  else return []

/-- One join, if one is next. -/
def join (item : Grammar Relation) : Grammar (Option Phrase) := do
  let scope ← if ← keyword "GLOBAL" then pure " GLOBAL " else pure " "
  if ← keyword "CROSS" then
    if ← keyword "JOIN" then
      let r ← item
      return some (.text (scope ++ "CROSS JOIN ") :: .relation r
        :: (← if ← has fun d => d.among [.mysql, .generic] then joinConstraint else pure []))
    else
      expectKeyword "APPLY"
      return some [.text (scope ++ "CROSS APPLY "), .relation (← item)]
  else if ← keyword "OUTER" then
    expectKeyword "APPLY"
    return some [.text (scope ++ "OUTER APPLY "), .relation (← item)]
  else if ← keyword "ASOF" then
    expectKeyword "JOIN"
    let r ← item
    expectKeyword "MATCH_CONDITION"
    let condition ← parens expr
    return some (.text (scope ++ "ASOF JOIN ") :: .relation r :: .text " MATCH_CONDITION ("
      :: .expr condition :: .text ")" :: (← joinConstraint))
  else
    let natural ← keyword "NATURAL"
    match ← joinVerb joinVerbs with
    | some verb =>
      let r ← item
      let constraint ← if natural then pure [] else joinConstraint
      return some (.text (scope ++ (if natural then "NATURAL " else "") ++ verb ++ " ")
        :: .relation r :: constraint)
    | none =>
      require (!natural && !(← atOneOf ["INNER", "LEFT", "RIGHT", "FULL", "ANTI", "SEMI"]))
      return none

/-- A FROM item and its joins. -/
def joinedWith (item : Grammar Relation) : Grammar Source := do
  let relation ← item
  let joins ← many (join item)
  return ⟨relation, joins.flatten⟩

/-- An item with an alias given from outside its parentheses. -/
def realiased (r : Relation) (aliased : Option Alias) : Grammar Relation := do
  match aliased with
  | none => return r
  | some _ =>
    match r with
    | .table name arguments suffix none hints => return .table name arguments suffix aliased hints
    | .derived lateral q none => return .derived lateral q aliased
    | .rows call none => return .rows call aliased
    | .joined source none => return .joined source aliased
    | _ => fail

/-- A join in parentheses, behind the opening one; some dialects take a lone table there. -/
def enclosedJoin (item : Grammar Relation) : Grammar Relation := do
  let source ← joinedWith item
  let nested := match source.relation with
    | .joined .. => true
    | _ => false
  if !source.joins.isEmpty || nested then
    expectSymbol ")"
    return .joined source (← tableAlias)
  else
    require (← has Dialect.parensAroundTables)
    expectSymbol ")"
    realiased source.relation (← tableAlias)

/-- A FROM item without its joins; parentheses nest up to a number of times. -/
def relationUpTo : Nat → Grammar Relation
  | 0 => fail
  | n + 1 => do
    if ← keyword "LATERAL" then lateralItem
    else if ← keyword "TABLE" then
      let e ← parens expr
      return .rows [.text "TABLE(", .expr e, .text ")"] (← tableAlias)
    else if ← symbol "(" then
      orElse (derivedTable false) (enclosedJoin (relationUpTo n))
    else if (← has Dialect.valuesInFrom) && isKeyword "VALUES" (← peek)
        && isSymbol "(" (← peekAt 1) then
      skip
      let rows ← valueRows "VALUES"
      return .derived false ⟨[], .values rows, []⟩ (← tableAlias)
    else if ← keywordIf (← has Dialect.unnests) "UNNEST" then unnestItem
    else namedTable

/-- A FROM item without its joins. -/
def relation : Grammar Relation := do relationUpTo ((← get).length + 1)

/-- A FROM item and its joins. -/
def source : Grammar Source := joinedWith relation

/-- A FROM list. -/
def sources : Grammar (List Source) := list source

/-- A FROM list as pieces, for statements that only carry it along. -/
def sourcePieces (ss : List Source) : Phrase :=
  Phrase.list (ss.map fun s => .relation s.relation :: s.joins)

end RowScope.Sql.Grammar
