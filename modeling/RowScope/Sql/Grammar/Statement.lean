/-
The grammar of statements, and the reading of a whole text.

A statement is told by its first word.  Levels are built from the innermost one, on
which nothing can be read any more, outwards; the outermost is the level of the text.
-/
import RowScope.Sql.Grammar.Definition

namespace RowScope.Sql

namespace Grammar

/-! ### Statements around other statements -/

/-- Words that start a statement that explains another. -/
def explainWords : List String := ["EXPLAIN", "DESCRIBE", "DESC"]

/-- An option of EXPLAIN. -/
def explainOption : Grammar Phrase := do
  let name ← ident
  if (← atSymbol ",") || (← atSymbol ")") then return [.text name.render]
  else return [.text (name.render ++ " "), .expr (← expr)]

/-- How a plan is written out. -/
def planFormat : Grammar String := do
  if ← keyword "FORMAT" then
    let mark ← if ← symbol "=" then pure "=" else pure " "
    let format ← expectOneOf ["TEXT", "GRAPHVIZ", "JSON", "TRADITIONAL", "TREE"]
    return "FORMAT" ++ mark ++ format ++ " "
  else return ""

/-- What is said about the plan ahead of the statement that is explained. -/
def explainHead (verb : String) : Grammar Phrase := do
  if verb == "EXPLAIN" && (← has Dialect.explainOptions) && (← atSymbol "(") then
    let options ← parens (list explainOption)
    return .text "(" :: (Phrase.list options ++ [.text ") "])
  else
    let plan ← wordsBefore ["QUERY", "PLAN"]
    if plan != "" then return [.text plan]
    else
      let estimate ← wordsBefore ["ESTIMATE"]
      if estimate != "" then return [.text estimate]
      else
        let analyzed ← wordsBefore ["ANALYZE"]
        let verbose ← wordsBefore ["VERBOSE"]
        return [.text (analyzed ++ verbose ++ (← planFormat))]

/-- EXPLAIN behind its keyword: of a statement, or of a table. -/
def explain (verb : String) : Grammar Statement := do
  let head ← explainHead verb
  let nested ← atOneOf explainWords
  match ← attempt statement with
  | some s =>
    require !nested
    return .other [.text (verb ++ " "), .crossed head [.statement s]]
  | none =>
    let table ← if ← has fun d => d == .snowflake then wordsBefore ["TABLE"] else pure ""
    return .other [.text (verb ++ " " ++ table ++ (← nameText))]

/-- PREPARE behind its keyword. -/
def prepare : Grammar Statement := do
  let name ← ident
  let types ←
    if ← atSymbol "(" then (fun ts => "(" ++ ", ".intercalate ts ++ ") ") <$> parens (list typeText)
    else pure ""
  expectKeyword "AS"
  let head := "PREPARE " ++ name.render ++ " " ++ types ++ "AS "
  return .other [.text head, .statement (← statement)]

/-- DECLARE behind its keyword: a cursor over a query. -/
def declareCursor : Grammar Statement := do
  let name ← ident
  let binary ← wordsAfter ["BINARY"]
  let insensitive ← wordsAfter ["INSENSITIVE"]
  let sensitivity ← if insensitive == "" then wordsAfter ["ASENSITIVE"] else pure insensitive
  let scrolling ← wordsAfter ["SCROLL"]
  let scroll ← if scrolling == "" then wordsAfter ["NO", "SCROLL"] else pure scrolling
  expectKeyword "CURSOR"
  let holding ← wordsAfter ["WITH", "HOLD"]
  let hold ← if holding == "" then wordsAfter ["WITHOUT", "HOLD"] else pure holding
  expectKeyword "FOR"
  return .other [.text ("DECLARE " ++ name.render ++ binary ++ sensitivity ++ scroll ++ " CURSOR"
    ++ hold ++ " FOR "), .query (← query)]

/-! ### COPY -/

/-- A text literal, as it is printed. -/
def textLiteral : Grammar String := do
  match ← value with
  | .text s => return Value.render (.text s)
  | _ => fail

/-- An option of COPY. -/
def copyOption : Grammar String := do
  let names := ["FORMAT", "FREEZE", "DELIMITER", "NULL", "HEADER", "QUOTE", "ESCAPE", "ENCODING"]
  match ← expectOneOf names with
  | "FORMAT" => return "FORMAT " ++ (← ident).render
  | "FREEZE" => return if ← falseFollows then "FREEZE FALSE" else "FREEZE"
  | "HEADER" => return if ← falseFollows then "HEADER FALSE" else "HEADER"
  | key => return key ++ " " ++ (← textLiteral)
where
  /-- Whether a flag is turned off. -/
  falseFollows : Grammar Bool := do
    match ← oneOf ["TRUE", "FALSE"] with
    | some "FALSE" => return true
    | _ => return false

/-- An option of COPY in its older form, if one is next. -/
def copyWord : Grammar (Option String) := do
  match ← oneOf ["BINARY", "CSV", "HEADER", "DELIMITER", "NULL"] with
  | none => return none
  | some "DELIMITER" =>
    let _ ← keyword "AS"
    return some (" DELIMITER " ++ (← textLiteral))
  | some "NULL" =>
    let _ ← keyword "AS"
    return some (" NULL " ++ (← textLiteral))
  | some key => return some (" " ++ key)

/-- COPY behind its keyword. -/
def copy : Grammar Statement := do
  let rows : Phrase ←
    if ← atSymbol "(" then do pure [.text "(", .query (← parens query), .text ")"]
    else do
      let table ← nameText
      pure [.text (table ++ identListAfter (← optionalIdents false))]
  let direction ← expectOneOf ["FROM", "TO"]
  require (direction == "TO" || rows.length == 1)
  let target ← match ← oneOf ["STDOUT", "STDIN", "PROGRAM"] with
    | some "PROGRAM" => ("PROGRAM " ++ ·) <$> textLiteral
    | some word => pure word
    | none => textLiteral
  let _ ← keyword "WITH"
  let options ←
    if ← atSymbol "(" then
      (fun os => " (" ++ ", ".intercalate os ++ ")") <$> parens (list copyOption)
    else pure ""
  let words ← many copyWord
  require (target != "STDIN")
  return .other (.text "COPY " :: (rows ++ [.text (" " ++ direction ++ " " ++ target ++ options
    ++ "".intercalate words)]))

/-! ### Transactions and settings -/

/-- One property of a transaction, if one is next. -/
def transactionMode : Grammar (Option String) := do
  if ← keywords ["ISOLATION", "LEVEL"] then
    return some ("ISOLATION LEVEL " ++ (← firstOf [["READ", "UNCOMMITTED"], ["READ", "COMMITTED"],
      ["REPEATABLE", "READ"], ["SERIALIZABLE"], ["SNAPSHOT"]]))
  else if ← keywords ["READ", "ONLY"] then return some "READ ONLY"
  else if ← keywords ["READ", "WRITE"] then return some "READ WRITE"
  else return none

/-- The properties of a transaction; the commas between them may be left out. -/
def transactionModes : Grammar String := do
  let modes ← many do
    match ← transactionMode with
    | some m =>
      let _ ← symbol ","
      return some m
    | none => return none
  return if modes.isEmpty then "" else " " ++ ", ".intercalate modes

/-- Whether a transaction is followed by another one. -/
def chain : Grammar String := do
  let _ ← oneOf ["TRANSACTION", "WORK", "TRAN"]
  if ← keyword "AND" then
    let no ← keyword "NO"
    expectKeyword "CHAIN"
    return if no then "" else " AND CHAIN"
  else return ""

/-- BEGIN behind its keyword. -/
def begin_ : Grammar Statement := do
  let modifier ←
    if ← has fun d => d.among [.generic, .sqlite, .mssql] then do
      match ← oneOf ["DEFERRED", "IMMEDIATE", "EXCLUSIVE"] with
      | some m => pure (" " ++ m)
      | none => pure ""
    else pure ""
  let kind ← match ← oneOf ["TRANSACTION", "WORK", "TRAN"] with
    | some "TRAN" => pure " TRAN"
    | some k => pure (" " ++ k)
    | none => pure ""
  return .other [.text ("BEGIN" ++ modifier ++ kind ++ (← transactionModes))]

/-- ROLLBACK behind its keyword. -/
def rollback : Grammar Statement := do
  let again ← chain
  let target ←
    if ← keyword "TO" then do
      let _ ← keyword "SAVEPOINT"
      pure (" TO SAVEPOINT " ++ (← ident).render)
    else pure ""
  return .other [.text ("ROLLBACK" ++ again ++ target)]

/-- The values of a setting. -/
def settingValues : Grammar Phrase := Phrase.list <$> list do
  if isSymbol "(" (← peek) && isOneOf ["SELECT", "WITH"] (← peekAt 1) then
    return [.expr (.subquery (← parens query))]
  else return [.expr (← expr)]

/-- What stands between a setting and its value, if it is next. -/
def assigns : Grammar Bool := do
  if ← symbol "=" then return true else keyword "TO"

/-- The words for the time zone, if they are next. -/
def timeZone : Grammar Bool := do
  if ← keywords ["TIME", "ZONE"] then return true else keyword "TIMEZONE"

/-- SET behind its keyword. -/
def setting : Grammar Statement := do
  let scope ← match ← oneOf ["SESSION", "LOCAL", "GLOBAL"] with
    | some s => pure (s ++ " ")
    | none => pure ""
  let role ← attempt do
    expectKeyword "ROLE"
    if ← keyword "NONE" then return "NONE" else return (← ident).render
  match role with
  | some r => return .other [.text ("SET " ++ scope ++ "ROLE " ++ r)]
  | none =>
    if ← timeZone then
      if ← assigns then
        return .other (.text ("SET " ++ scope ++ "TIMEZONE = ") :: (← settingValues))
      else
        let here := if scope == "LOCAL " then scope else ""
        return .other [.text ("SET " ++ here ++ "TIME ZONE "), .expr (← expr)]
    else if ← keywords ["CHARACTERISTICS", "AS", "TRANSACTION"] then
      return .other [.text ("SET SESSION CHARACTERISTICS AS TRANSACTION" ++ (← transactionModes))]
    else if ← keyword "TRANSACTION" then
      if ← keyword "SNAPSHOT" then
        return .other [.text ("SET TRANSACTION SNAPSHOT " ++ (← value).render)]
      else return .other [.text ("SET TRANSACTION" ++ (← transactionModes))]
    else
      let variable_ ← nameText
      require (← assigns)
      return .other (.text ("SET " ++ scope ++ variable_ ++ " = ") :: (← settingValues))

/-- The words that follow SHOW; whatever stands between them is passed over. -/
def showWords : List Lexeme → List Ident
  | [] => []
  | ⟨.word text quote _, _⟩ :: rest => ⟨text, quote⟩ :: showWords rest
  | ⟨.symbol s, _⟩ :: rest => if s == "=" || s == ";" then [] else showWords rest
  | _ :: rest => showWords rest

/-- What is left behind the words that follow SHOW. -/
def behindShowWords : List Lexeme → List Lexeme :=
  List.dropWhile fun t => !(isSymbol "=" (some t.token) || isSymbol ";" (some t.token))

/-- SHOW behind its keyword. -/
def showSetting : Grammar Statement := do
  match ← oneOf ["TABLES", "VIEWS", "DATABASES", "SCHEMAS"] with
  | some what => return .other [.text ("SHOW " ++ what)]
  | none =>
    let tokens ← get
    set (behindShowWords tokens)
    return .other [.text ("SHOW" ++ String.join ((showWords tokens).map (" " ++ ·.render)))]

/-! ### The statement -/

/-- A statement behind its first word. -/
def statementBehind (key : String) : Grammar Statement := do
  match key with
  | "INSERT" => .insert <$> insert false
  | "REPLACE" =>
    require (← has Dialect.insertExtensions)
    .insert <$> insert true
  | "UPDATE" => update
  | "DELETE" => delete
  | "MERGE" => merge
  | "EXPLAIN" | "DESCRIBE" | "DESC" => explain key
  | "PREPARE" => prepare
  | "DECLARE" => declareCursor
  | "COPY" => copy
  | "CREATE" => create
  | "DROP" => drop
  | "TRUNCATE" => truncate
  | "ALTER" => alter
  | "BEGIN" => begin_
  | "START" =>
    expectKeyword "TRANSACTION"
    return .other [.text ("START TRANSACTION" ++ (← transactionModes))]
  | "COMMIT" | "END" => return .other [.text (key ++ (← chain))]
  | "ROLLBACK" => rollback
  | "SAVEPOINT" => return .other [.text ("SAVEPOINT " ++ (← ident).render)]
  | "RELEASE" =>
    let _ ← keyword "SAVEPOINT"
    return .other [.text ("RELEASE SAVEPOINT " ++ (← ident).render)]
  | "SET" => setting
  | "SHOW" => showSetting
  | _ => fail

/-- A statement. -/
def wholeStatement : Grammar Statement := do
  match ← peek with
  | some (.symbol "(") => .query <$> query
  | some (.word _ none key) =>
    if ["SELECT", "WITH", "VALUES", "FROM"].contains key then .query <$> query
    else
      skip
      statementBehind key
  | _ => fail

end Grammar

/-! ### Levels and whole texts -/

namespace Level

/-- The level on which a given number of levels is left to go down. -/
def ofDepth (d : Dialect) : Nat → Level
  | 0 => {
      dialect := d, inColumn := false
      statement := throw .tooDeep
      query := throw .tooDeep
      expr := fun _ _ => throw .tooDeep }
  | n + 1 =>
    let deeper := ofDepth d n
    { dialect := d, inColumn := false
      statement := Grammar.wholeStatement deeper
      query := Grammar.wholeQuery deeper
      expr := fun inColumn strength =>
        Grammar.expression strength { deeper with inColumn := inColumn } }

/-- How deep statements, queries and expressions may nest in each other. -/
def depth : Nat := 50

end Level

namespace Statement

/-- Takes away the semicolons at the front. -/
def dropSemicolons : List Lexeme → List Lexeme :=
  List.dropWhile fun t => Grammar.isSymbol ";" (some t.token)

/--
Reads statements up to the end.  Behind a statement there has to be a semicolon; a
loose `END` ends the whole text.  `n` bounds the number of statements.
-/
def readAll (level : Level) : Nat → List Lexeme → Except SyntaxError (List Statement)
  | 0, _ => .ok []
  | n + 1, tokens =>
    match dropSemicolons tokens with
    | [] => .ok []
    | first :: rest => do
      let (s, left) ← level.statement (first :: rest)
      match left.head?.map Lexeme.token with
      | none => return [s]
      | some t =>
        if Grammar.isSymbol ";" (some t) then return s :: (← readAll level n left)
        else if Grammar.isKeyword "END" (some t) then return [s]
        else throw .unexpected

/-- The statements of a text. -/
def parse (d : Dialect) (text : String) : Except SyntaxError (List Statement) :=
  match Token.read d text with
  | none => .error .unexpected
  | some tokens => readAll (Level.ofDepth d Level.depth) (tokens.length + 1) tokens

end Statement

end RowScope.Sql
