/-
The grammar of the statements that change rows: INSERT, UPDATE, DELETE and MERGE.

All of them may also stand where a query may, so each is read behind its keyword.
-/
import RowScope.Sql.Grammar.Select

namespace RowScope.Sql.Grammar

/-! ### Parts -/

/-- An assignment to a column, or to several at once. -/
def assignment : Grammar Phrase := do
  let target ←
    if ← atSymbol "(" then (fun ns => "(" ++ ", ".intercalate ns ++ ")") <$> parens (list nameText)
    else nameText
  expectSymbol "="
  return [.text (target ++ " = "), .expr (← expr)]

/-- Assignments with commas between them. -/
def assignments : Grammar Phrase := Phrase.list <$> list assignment

/-- The columns a statement hands back. -/
def returning : Grammar Phrase := do
  if ← keyword "RETURNING" then
    return .text " RETURNING " :: Phrase.list (← list projectionItem)
  else return []

/-- What is done on a conflict, behind `OR`. -/
def conflictVerb : Grammar String := do
  let verbs := ["REPLACE", "ROLLBACK", "ABORT", "FAIL", "IGNORE"]
  if isKeyword "OR" (← peek) && isOneOf verbs (← peekAt 1) then
    skip
    match ← oneOf verbs with
    | some verb => return "OR " ++ verb ++ " "
    | none => fail
  else return ""

/-! ### INSERT -/

/-- What an INSERT writes into. -/
def insertTarget : Grammar Target := do
  if ← keywordIf (← has Dialect.insertFunctions) "FUNCTION" then
    let function ← nameText
    return .function [.text "FUNCTION ", .expr (← call function)]
  else return .table (← name)

/-- All that is printed ahead of the target of an INSERT. -/
def insertVerb (replace : Bool) : Grammar String := do
  let conflict ← conflictVerb
  let extended ← has Dialect.insertExtensions
  let priority ←
    if extended then do
      match ← oneOf ["LOW_PRIORITY", "DELAYED", "HIGH_PRIORITY"] with
      | some p => pure (" " ++ p)
      | none => pure ""
    else pure ""
  let ignore ← if extended then wordsAfter ["IGNORE"] else pure ""
  let overwrite ← wordsAfter ["OVERWRITE"]
  let into ← wordsAfter ["INTO"]
  let table ← wordsAfter ["TABLE"]
  if conflict != "" then return "INSERT " ++ conflict ++ "INTO "
  else
    return (if replace then "REPLACE" else "INSERT") ++ priority ++ ignore ++ overwrite ++ into
      ++ table ++ " "

/-- The rows of an INSERT: a query, or what stands in the place of one. -/
def insertRows (bare : Bool) : Grammar (Option Query × Phrase) := do
  if ← atOneOf ["FORMAT", "SETTINGS"] then return (none, if bare then [" DEFAULT VALUES"] else [])
  else if ← keywordIf (← has Dialect.insertAssignments) "SET" then
    return (none, .text " SET " :: (← assignments))
  else return (some (← query), [])

/-- The format in which the rows of an INSERT follow it. -/
def insertFormat : Grammar (Option Phrase) := do
  if ← keywordIf ((← read).dialect == .clickhouse) "FORMAT" then
    return some [.text (" FORMAT " ++ (← ident).render)]
  else return none

/-- A name for the new rows. -/
def rowAlias : Grammar Phrase := do
  if ← keywordIf (← has Dialect.insertExtensions) "AS" then
    let aliased ← nameText
    return [.text (" AS " ++ aliased ++ identListAfter (← optionalIdents false))]
  else return []

/-- What is done about rows that are there already. -/
def onClause : Grammar OnClause := do
  if ← keyword "ON" then
    if ← keyword "CONFLICT" then
      let target ←
        if ← keywords ["ON", "CONSTRAINT"] then (some ∘ .constraint) <$> nameText
        else if ← atSymbol "(" then (some ∘ .columns) <$> idents
        else pure none
      expectKeyword "DO"
      if ← keyword "NOTHING" then return .conflict target ["DO NOTHING"]
      else
        expectKeywords ["UPDATE", "SET"]
        let sets ← assignments
        return .conflict target (.text "DO UPDATE SET " :: (sets ++ (← exprBehind "WHERE")))
    else
      expectKeywords ["DUPLICATE", "KEY", "UPDATE"]
      return .duplicateKey (← assignments)
  else return .absent

/-- An INSERT behind its keyword. -/
def insert (replace : Bool) : Grammar Insert := do
  let verb ← insertVerb replace
  let target ← insertTarget
  let aliased ←
    if ← keywordIf (← has Dialect.insertAliases) "AS" then some <$> ident else pure none
  if ← keywords ["DEFAULT", "VALUES"] then
    let format ← insertFormat
    let row ← rowAlias
    let conflict ← onClause
    return {
      verb, target, aliased, columns := [], source := none
      stead := format.getD [" DEFAULT VALUES"] ++ row
      partitions := [], conflict, returning := ← returning }
  else
    let direct := isSymbol "(" (← peek) && isKeyword "SELECT" (← peekAt 1)
    let columns ← if direct then pure [] else optionalIdents (← has Dialect.emptyLists)
    let partitions : Phrase ←
      if ← keywordIf (!direct) "PARTITION" then do
        let es ← parens (list expr)
        pure (.text " PARTITION (" :: (Phrase.exprs es ++ [.text ")"]))
      else pure []
    let (source, stead) ← insertRows columns.isEmpty
    let format ← insertFormat
    let row ← rowAlias
    let conflict ← onClause
    return {
      verb, target, aliased, columns, source
      stead := (if source.isNone then format.getD stead else stead) ++ row
      partitions, conflict, returning := ← returning }

/-! ### UPDATE, DELETE and MERGE -/

/-- FROM items behind a keyword. -/
def sourcesBehind (key : String) : Grammar Phrase := do
  if ← keyword key then return .text (" " ++ key ++ " ") :: sourcePieces (← sources) else return []

/-- An UPDATE behind its keyword. -/
def update : Grammar Statement := do
  let conflict ← conflictVerb
  let target ← source
  let early ← sourcesBehind "FROM"
  expectKeyword "SET"
  let sets ← assignments
  let late ← if early.isEmpty then sourcesBehind "FROM" else pure []
  let filter ← exprBehind "WHERE"
  let back ← returning
  let limit ← exprBehind "LIMIT"
  return .other (.text ("UPDATE " ++ conflict) :: (sourcePieces [target]
    ++ .crossed early (.text " SET " :: sets) :: (late ++ filter ++ back ++ limit)))

/-- A DELETE behind its keyword. -/
def delete : Grammar Statement := do
  let fromKeyword ← keyword "FROM"
  let bare ← has Dialect.bareDelete
  let tables ←
    if fromKeyword || bare then pure ""
    else do
      let names ← list nameText
      expectKeyword "FROM"
      pure (" " ++ ", ".intercalate names)
  let from_ ← sources
  let using_ ← sourcesBehind "USING"
  let filter ← exprBehind "WHERE"
  let back ← returning
  let order ← orderBy " "
  let limit ← exprBehind "LIMIT"
  return .other (.text ("DELETE" ++ tables ++ (if fromKeyword || !bare then " FROM " else " "))
    :: (sourcePieces from_ ++ using_ ++ filter ++ back ++ order ++ limit))

/-- What a MERGE does with a row. -/
def mergeAction (matched : Bool) (elsewhere : Bool) : Grammar Phrase := do
  match ← expectOneOf ["INSERT", "UPDATE", "DELETE"] with
  | "UPDATE" =>
    require (matched || elsewhere)
    expectKeyword "SET"
    return .text "UPDATE SET " :: (← assignments)
  | "DELETE" =>
    require (matched || elsewhere)
    return ["DELETE"]
  | _ =>
    require (!matched && !elsewhere)
    let columns ← optionalIdents (← has Dialect.emptyLists)
    let head := "INSERT " ++ (if columns.isEmpty then "" else "(" ++ identList columns ++ ") ")
    if ← keywordIf (← has fun d => d == .generic) "ROW" then return [.text (head ++ "ROW")]
    else
      expectKeyword "VALUES"
      return .text head :: (← valueRows "VALUES")

/-- One case of a MERGE, if one is next. -/
def mergeCase : Grammar (Option Phrase) := do
  if ← keyword "WHEN" then
    let negation ← wordsBefore ["NOT"]
    expectKeyword "MATCHED"
    let matched := negation == ""
    let bySource ← if matched then pure "" else wordsAfter ["BY", "SOURCE"]
    let byTarget ← if matched || bySource != "" then pure "" else wordsAfter ["BY", "TARGET"]
    let condition ← exprBehind "AND"
    expectKeyword "THEN"
    let action ← mergeAction matched (bySource != "")
    return some (.text (" WHEN " ++ negation ++ "MATCHED" ++ bySource ++ byTarget)
      :: (condition ++ .text " THEN " :: action))
  else return none

/-- A MERGE behind its keyword. -/
def merge : Grammar Statement := do
  let into ← wordsBefore ["INTO"]
  let target ← relation
  expectKeyword "USING"
  let rows ← relation
  expectKeyword "ON"
  let condition ← expr
  let cases ← many mergeCase
  let back ← match ← oneOf ["OUTPUT", "RETURNING"] with
    | some verb => do pure (.text (" " ++ verb ++ " ") :: Phrase.list (← list projectionItem))
    | none => pure []
  return .other (.text ("MERGE " ++ into) :: .relation target :: .text " USING " :: .relation rows
    :: .text " ON " :: .expr condition :: (cases.flatten ++ back))

end RowScope.Sql.Grammar
