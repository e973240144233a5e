/-
The grammar of the statements that define tables, views and indexes.

None of them is ever changed, but a view and a table may be made from a query, and a
default or a check is an expression, so these keep their subtrees.
-/
import RowScope.Sql.Grammar.Query

namespace RowScope.Sql.Grammar

/-- The words that allow for a thing to be there already. -/
def ifNotExists : Grammar String := wordsBefore ["IF", "NOT", "EXISTS"]

/-- The words that allow for a thing not to be there. -/
def ifExists : Grammar String := wordsBefore ["IF", "EXISTS"]

/-! ### Columns and constraints -/

/-- What happens to rows that refer to one that goes or changes. -/
def referentialAction : Grammar String := do
  if ← keywords ["SET", "NULL"] then return "SET NULL"
  else if ← keywords ["SET", "DEFAULT"] then return "SET DEFAULT"
  else if ← keywords ["NO", "ACTION"] then return "NO ACTION"
  else expectOneOf ["CASCADE", "RESTRICT"]

/-- The actions of a reference, deletion first. -/
def referentialActions : Grammar String := do
  let found ← many do
    if ← keywords ["ON", "DELETE"] then return some (false, " ON DELETE " ++ (← referentialAction))
    else if ← keywords ["ON", "UPDATE"] then
      return some (true, " ON UPDATE " ++ (← referentialAction))
    else return none
  return "".intercalate ((found.filter (!·.1)).map Prod.snd ++ (found.filter (·.1)).map Prod.snd)

/-- When a constraint is checked. -/
def constraintTiming : Grammar String := do
  let notDeferrable ← wordsAfter ["NOT", "DEFERRABLE"]
  let deferrable ← if notDeferrable == "" then wordsAfter ["DEFERRABLE"] else pure notDeferrable
  let deferred ← wordsAfter ["INITIALLY", "DEFERRED"]
  let immediate ← if deferred == "" then wordsAfter ["INITIALLY", "IMMEDIATE"] else pure deferred
  return deferrable ++ immediate

/-- One option of a column, if one is next. -/
def columnOption : Grammar (Option Phrase) := do
  let label ←
    if ← keyword "CONSTRAINT" then (" CONSTRAINT " ++ ·.render ++ " ") <$> ident else pure " "
  if ← keywords ["NOT", "NULL"] then return some [.text (label ++ "NOT NULL")]
  else if ← keyword "NULL" then return some [.text (label ++ "NULL")]
  else if ← keyword "DEFAULT" then
    return some [.text (label ++ "DEFAULT "), .expr (← inColumn true expr)]
  else if ← keywords ["PRIMARY", "KEY"] then
    return some [.text (label ++ "PRIMARY KEY" ++ (← constraintTiming))]
  else if ← keyword "UNIQUE" then
    return some [.text (label ++ "UNIQUE" ++ (← constraintTiming))]
  else if ← keyword "REFERENCES" then
    let table ← nameText
    let columns ← optionalIdents false
    let actions ← referentialActions
    return some [.text (label ++ "REFERENCES " ++ table ++ identListAfter columns ++ actions
      ++ (← constraintTiming))]
  else if ← keyword "CHECK" then
    let e ← parens (inColumn false expr)
    return some [.text (label ++ "CHECK ("), .expr e, .text ")"]
  else if ← keyword "COLLATE" then return some [.text (label ++ "COLLATE " ++ (← nameText))]
  else if (← keyword "AUTO_INCREMENT") then return some [.text (label ++ "AUTO_INCREMENT")]
  else if (← keyword "AUTOINCREMENT") then return some [.text (label ++ "AUTOINCREMENT")]
  else if ← keyword "GENERATED" then
    let how ←
      if ← keyword "ALWAYS" then pure "ALWAYS"
      else do
        expectKeywords ["BY", "DEFAULT"]
        pure "BY DEFAULT"
    expectKeyword "AS"
    if ← keyword "IDENTITY" then
      return some [.text (label ++ "GENERATED " ++ how ++ " AS IDENTITY")]
    else
      let e ← parens expr
      return some [.text (label ++ "GENERATED " ++ how ++ " AS ("), .expr e,
        .text (")" ++ (← wordsAfter ["STORED"]))]
  else
    require (label == " ")
    return none

/-- A column. -/
def columnDefinition : Grammar Phrase := do
  let name ← ident
  let type ← typeText
  let options ← many columnOption
  return .text (name.render ++ " " ++ type) :: options.flatten

/-- A constraint on a table, if one is next. -/
def tableConstraint : Grammar (Option Phrase) := do
  let label ←
    if ← keyword "CONSTRAINT" then ("CONSTRAINT " ++ ·.render ++ " ") <$> ident else pure ""
  if ← keywords ["PRIMARY", "KEY"] then
    let columns ← idents
    let timing ← constraintTiming
    return some [.text (label ++ "PRIMARY KEY (" ++ identList columns ++ ")" ++ timing)]
  else if ← keyword "UNIQUE" then
    let columns ← idents
    return some [.text (label ++ "UNIQUE (" ++ identList columns ++ ")" ++ (← constraintTiming))]
  else if ← keywords ["FOREIGN", "KEY"] then
    let columns ← idents
    expectKeyword "REFERENCES"
    let table ← nameText
    let others ← optionalIdents false
    let others := if others.isEmpty then "" else "(" ++ identList others ++ ")"
    let actions ← referentialActions
    return some [.text (label ++ "FOREIGN KEY (" ++ identList columns ++ ") REFERENCES " ++ table
      ++ others ++ actions ++ (← constraintTiming))]
  else if ← keyword "CHECK" then
    let e ← parens expr
    return some [.text (label ++ "CHECK ("), .expr e, .text ")"]
  else
    require (label == "")
    return none

/-- A column or a constraint of a table, and whether it is a column. -/
def tableElement : Grammar (Bool × Phrase) := do
  match ← tableConstraint with
  | some p => return (false, p)
  | none => return (true, ← columnDefinition)

/-! ### CREATE -/

/-- An option by its name. -/
def namedOption : Grammar Phrase := do
  let name ← ident
  if ← symbol "=" then return [.text (name.render ++ " = "), .expr (← expr)]
  else return [.text name.render]

/-- Options behind WITH. -/
def withOptions : Grammar Phrase := do
  if isKeyword "WITH" (← peek) && isSymbol "(" (← peekAt 1) then
    skip
    return .text " WITH (" :: (Phrase.list (← parens (list namedOption)) ++ [.text ")"])
  else return []

/-- A table made from a query. -/
def asQuery : Grammar (Option Query) := do
  if ← keyword "AS" then return some (← query)
  else if (← has fun d => d.among [.mysql, .generic]) && (← atKeyword "SELECT") then
    return some (← query)
  else return none

/-- CREATE TABLE behind its keywords; `verb` is the text of all that was read. -/
def createTable (verb : String) : Grammar Statement := do
  let head := verb ++ "TABLE " ++ (← ifNotExists) ++ (← nameText)
  if ← keyword "LIKE" then return .other [.text (head ++ " LIKE " ++ (← nameText))]
  else
    let elements ← if ← atSymbol "(" then parens (listBefore ")" tableElement) else pure []
    let columns := (elements.filter Prod.fst ++ elements.filter (!·.1)).map Prod.snd
    let options ← withOptions
    let q ← asQuery
    let body : Phrase :=
      if columns.isEmpty then (if q.isNone then [.text " ()"] else [])
      else .text " (" :: (Phrase.list columns ++ [.text ")"])
    let origin : Phrase := match q with
      | some q => [.text " AS ", .query q]
      | none => []
    return .other (.text head :: (body ++ options ++ origin))

/-- CREATE VIEW behind its keywords; `verb` is the text of all that was read. -/
def createView (verb : String) : Grammar Statement := do
  let head := verb ++ "VIEW " ++ (← ifNotExists) ++ (← nameText)
  let columns ← optionalIdents false
  let options ← withOptions
  expectKeyword "AS"
  let q ← query
  let checked ← withCheck
  return .other [.text (head ++ identListAfter columns), .crossed options [.text " AS ", .query q],
    .text checked]
where
  /-- A view that is not bound to the shape of its tables. -/
  withCheck : Grammar String := wordsAfter ["WITH", "NO", "SCHEMA", "BINDING"]

/-- CREATE INDEX behind its keywords; `verb` is the text of all that was read. -/
def createIndex (verb : String) : Grammar Statement := do
  let concurrently ← wordsBefore ["CONCURRENTLY"]
  let cautious ← ifNotExists
  let index ←
    if ← keywordIf (cautious == "") "ON" then pure ""
    else do
      let n ← nameText
      expectKeyword "ON"
      pure (n ++ " ")
  let table ← nameText
  let method ←
    if ← keyword "USING" then do
      match ← oneOf ["BTREE", "HASH", "GIN", "GIST", "SPGIST", "BRIN", "BLOOM"] with
      | some m => pure (" USING " ++ m ++ " ")
      | none => do pure (" USING " ++ (← ident).render ++ " ")
    else pure ""
  let columns ← parens (list indexColumn)
  let include_ ←
    if ← keyword "INCLUDE" then (fun is => " INCLUDE (" ++ identList is ++ ")") <$> idents
    else pure ""
  let notDistinct ← wordsAfter ["NULLS", "NOT", "DISTINCT"]
  let nulls ← if notDistinct == "" then wordsAfter ["NULLS", "DISTINCT"] else pure notDistinct
  let options ← withOptions
  let condition ← exprBehind "WHERE"
  let head := verb ++ "INDEX " ++ concurrently ++ cautious ++ index ++ "ON " ++ table ++ method
    ++ "("
  let tail := [.text (")" ++ include_ ++ nulls)] ++ options ++ condition
  return .other (.text head :: (Phrase.list columns ++ tail))
where
  /-- A column of an index, with its class of operators and its order. -/
  indexColumn : Grammar Phrase := do
    let e ← expr
    let class_ ←
      if ← atOneOf ["ASC", "DESC", "NULLS"] then pure ""
      else match ← peek with
        | some (.word ..) => (" " ++ ·) <$> nameText
        | _ => pure ""
    return [.expr e, .text (class_ ++ (← orderOptions))]

/-- CREATE behind its keyword. -/
def create : Grammar Statement := do
  let replace ← wordsBefore ["OR", "REPLACE"]
  let scope ← match ← oneOf ["LOCAL", "GLOBAL"] with
    | some s => pure (s ++ " ")
    | none => pure ""
  let temporary ← match ← oneOf ["TEMP", "TEMPORARY"] with
    | some _ => pure "TEMPORARY "
    | none => pure ""
  let head := "CREATE " ++ replace ++ scope
  if ← keyword "TABLE" then createTable (head ++ temporary)
  else if ← keyword "VIEW" then createView (head ++ temporary)
  else if ← keywords ["MATERIALIZED", "VIEW"] then createView (head ++ "MATERIALIZED " ++ temporary)
  else
    require (replace == "")
    if ← keyword "INDEX" then createIndex "CREATE "
    else if ← keywords ["UNIQUE", "INDEX"] then createIndex "CREATE UNIQUE "
    else if ← keyword "SCHEMA" then
      return .other [.text ("CREATE SCHEMA " ++ (← ifNotExists) ++ (← nameText))]
    else
      expectKeyword "DATABASE"
      return .other [.text ("CREATE DATABASE " ++ (← ifNotExists) ++ (← nameText))]

/-! ### DROP and TRUNCATE -/

/-- The kinds of things that can be dropped. -/
def dropKinds : List (List String) :=
  [["TABLE"], ["VIEW"], ["MATERIALIZED", "VIEW"], ["INDEX"], ["ROLE"], ["SCHEMA"], ["DATABASE"],
   ["SEQUENCE"], ["STAGE"], ["TYPE"], ["USER"], ["STREAM"]]

/-- The first of several runs of keywords that is next. -/
def firstOf : List (List String) → Grammar String
  | [] => fail
  | keys :: rest => do
    if ← keywords keys then return " ".intercalate keys else firstOf rest

/-- DROP behind its keyword. -/
def drop : Grammar Statement := do
  let temporary ←
    if ← has fun d => d.among [.mysql, .generic, .duckdb] then wordsBefore ["TEMPORARY"]
    else pure ""
  let kind ← firstOf dropKinds
  let cautious ← wordsAfter ["IF", "EXISTS"]
  let names ← list nameText
  let cascade ← wordsAfter ["CASCADE"]
  let restrict ← wordsAfter ["RESTRICT"]
  let purge ← wordsAfter ["PURGE"]
  require (cascade == "" || restrict == "")
  require (kind != "ROLE" || cascade ++ restrict ++ purge == "")
  let table ← if ← keyword "ON" then (" ON " ++ ·) <$> nameText else pure ""
  return .other [.text ("DROP " ++ temporary ++ kind ++ cautious ++ " " ++ ", ".intercalate names
    ++ cascade ++ restrict ++ purge ++ table)]

/-- What becomes of what depends on a thing. -/
def cascadeText : Grammar String := do
  let cascade ← wordsAfter ["CASCADE"]
  if cascade == "" then wordsAfter ["RESTRICT"] else return cascade

/-- TRUNCATE behind its keyword. -/
def truncate : Grammar Statement := do
  let table ← wordsBefore ["TABLE"]
  let names ← list do
    let only ← wordsBefore ["ONLY"]
    return only ++ (← nameText)
  let rest ←
    if ← has fun d => d.among [.postgres, .generic] then do
      let restart ← wordsAfter ["RESTART", "IDENTITY"]
      let identity ← if restart == "" then wordsAfter ["CONTINUE", "IDENTITY"] else pure restart
      pure (identity ++ (← cascadeText))
    else pure ""
  return .other [.text ("TRUNCATE " ++ table ++ ", ".intercalate names ++ rest)]

/-! ### ALTER -/

/-- A change of one column. -/
def alterColumn : Grammar Phrase := do
  let column ← ident
  let head := "ALTER COLUMN " ++ column.render
  if ← keywords ["SET", "NOT", "NULL"] then return [.text (head ++ " SET NOT NULL")]
  else if ← keywords ["DROP", "NOT", "NULL"] then return [.text (head ++ " DROP NOT NULL")]
  else if ← keywords ["SET", "DEFAULT"] then
    return [.text (head ++ " SET DEFAULT "), .expr (← expr)]
  else if ← keywords ["DROP", "DEFAULT"] then return [.text (head ++ " DROP DEFAULT")]
  else
    let data ← wordsAfter ["SET", "DATA"]
    expectKeyword "TYPE"
    let type ← typeText
    let using_ ← exprBehind "USING"
    return .text (head ++ data ++ " TYPE " ++ type) :: using_

/-- One change of a table. -/
def alteration : Grammar Phrase := do
  if ← keyword "ADD" then
    match ← tableConstraint with
    | some p => return .text "ADD " :: p
    | none =>
      let early ← ifNotExists
      let column ← wordsBefore ["COLUMN"]
      let cautious ← if early == "" then ifNotExists else pure early
      return .text ("ADD " ++ column ++ cautious) :: (← columnDefinition)
  else if ← keyword "RENAME" then
    if ← keyword "TO" then return [.text ("RENAME TO " ++ (← nameText))]
    else if ← keyword "CONSTRAINT" then
      let old ← ident
      expectKeyword "TO"
      return [.text ("RENAME CONSTRAINT " ++ old.render ++ " TO " ++ (← ident).render)]
    else
      let _ ← keyword "COLUMN"
      let old ← ident
      expectKeyword "TO"
      return [.text ("RENAME COLUMN " ++ old.render ++ " TO " ++ (← ident).render)]
  else if ← keyword "DROP" then
    if ← keyword "CONSTRAINT" then
      let cautious ← ifExists
      let i ← ident
      return [.text ("DROP CONSTRAINT " ++ cautious ++ i.render ++ (← cascadeText))]
    else
      let column ← wordsBefore ["COLUMN"]
      let cautious ← ifExists
      let is ← list ident
      return [.text ("DROP " ++ column ++ cautious ++ identList is ++ (← cascadeText))]
  else if ← keyword "ALTER" then
    let _ ← keyword "COLUMN"
    alterColumn
  else if ← keywords ["OWNER", "TO"] then return [.text ("OWNER TO " ++ (← ident).render)]
  else
    let action ← expectOneOf ["ENABLE", "DISABLE"]
    expectKeywords ["ROW", "LEVEL", "SECURITY"]
    return [.text (action ++ " ROW LEVEL SECURITY")]

/-- ALTER behind its keyword. -/
def alter : Grammar Statement := do
  if ← keyword "TABLE" then
    let cautious ← ifExists
    let only ← wordsBefore ["ONLY"]
    let table ← nameText
    let changes ← list alteration
    let head := "ALTER TABLE " ++ cautious ++ only ++ table ++ " "
    return .other (.text head :: Phrase.list changes)
  else if ← keyword "VIEW" then
    let view ← nameText
    let columns ← optionalIdents false
    let options ← withOptions
    expectKeyword "AS"
    return .other [.text ("ALTER VIEW " ++ view ++ identListAfter columns),
      .crossed options [.text " AS ", .query (← query)]]
  else
    expectKeyword "INDEX"
    let index ← nameText
    expectKeywords ["RENAME", "TO"]
    return .other [.text ("ALTER INDEX " ++ index ++ " RENAME TO " ++ (← nameText))]

end RowScope.Sql.Grammar
