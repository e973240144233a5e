/-
The grammar of expressions.

An expression is a first operand and then operators with their right operands, as long
as they bind tighter than what stands around it.  A word at the front is read as a
construct of its own if it starts one; failing that it is a name, so that most
keywords may still name columns.
-/
import RowScope.Sql.Grammar.Call

namespace RowScope.Sql.Grammar

/-! ### Constructs that start with a word

Each of these is read behind its word.
-/

/-- `CASE`. -/
def caseExpr : Grammar Expr := do
  let operand : Phrase ←
    if ← keyword "WHEN" then pure []
    else
      let e ← expr
      expectKeyword "WHEN"
      pure [.text " ", .expr e]
  let first ← branch
  let rest ← many do
    if ← keyword "WHEN" then return some (← branch) else return none
  let otherwise ← exprBehind "ELSE"
  expectKeyword "END"
  return .phrase (.text "CASE" :: (operand ++ first ++ rest.flatten ++ otherwise ++ [.text " END"]))
where
  /-- One branch, behind its `WHEN`. -/
  branch : Grammar Phrase := do
    let condition ← expr
    expectKeyword "THEN"
    return [.text " WHEN ", .expr condition, .text " THEN ", .expr (← expr)]

/-- `CAST` and its kin. -/
def castExpr (verb : String) : Grammar Expr := parens do
  let e ← expr
  expectKeyword "AS"
  let type ← typeText
  let format ← if ← keyword "FORMAT" then (" FORMAT " ++ ·.render) <$> value else pure ""
  return .phrase [.text (verb ++ "("), .expr e, .text (" AS " ++ type ++ format ++ ")")]

/-- `CONVERT`. -/
def convertExpr : Grammar Expr := do
  require !((← read).dialect == .mssql)
  parens do
    let e ← expr
    if ← keyword "USING" then
      return .phrase [.text "CONVERT(", .expr e, .text (" USING " ++ (← nameText) ++ ")")]
    else
      expectSymbol ","
      let type ← typeText
      let charset ←
        if ← keywords ["CHARACTER", "SET"] then (" CHARACTER SET " ++ ·) <$> nameText else pure ""
      return .phrase [.text "CONVERT(", .expr e, .text (", " ++ type ++ charset ++ ")")]

/-- `EXISTS`. -/
def existsExpr (negated : Bool) : Grammar Expr := parens do
  let q ← query
  return .phrase [.text (if negated then "NOT EXISTS (" else "EXISTS ("), .query q, .text ")"]

/-- `EXTRACT`. -/
def extractExpr : Grammar Expr := parens do
  let field ← dateField
  let between ←
    if ← keyword "FROM" then pure " FROM "
    else do
      require (← has fun d => d.among [.generic, .snowflake])
      expectSymbol ","
      pure ", "
  return .phrase [.text ("EXTRACT(" ++ field ++ between), .expr (← expr), .text ")"]

/-- `CEIL` and `FLOOR`. -/
def roundExpr (verb : String) : Grammar Expr := parens do
  let e ← expr
  let how ←
    if ← keyword "TO" then (" TO " ++ ·) <$> dateField
    else do
      if ← symbol "," then
        match ← value with
        | .number digits long => pure (", " ++ Value.render (.number digits long))
        | _ => fail
      else pure ""
  return .phrase [.text (verb ++ "("), .expr e, .text (how ++ ")")]

/-- `POSITION`, or a function of that name. -/
def positionExpr (word : Ident) : Grammar Expr := do
  orElse
    (parens do
      let what ← exprAboveBinding .between
      expectKeyword "IN"
      return .phrase [.text "POSITION(", .expr what, .text " IN ", .expr (← expr), .text ")"])
    (call word.render)

/-- `SUBSTRING` and `SUBSTR`. -/
def substringExpr (verb : String) : Grammar Expr := parens do
  let e ← expr
  let special ← symbol ","
  let start : List Expr ←
    if special then do pure [← expr]
    else do
      if ← keyword "FROM" then pure [← expr] else pure []
  let stop : List Expr ←
    if ← keyword "FOR" then do pure [← expr]
    else do
      if ← symbol "," then pure [← expr] else pure []
  let part (mark : String) (es : List Expr) : Phrase :=
    es.flatMap fun x => [.text (if special then ", " else mark), .expr x]
  return .phrase (.text (verb ++ "(") :: .expr e :: (part " FROM " start ++ part " FOR " stop
    ++ [.text ")"]))

/-- `OVERLAY`. -/
def overlayExpr : Grammar Expr := parens do
  let e ← expr
  expectKeyword "PLACING"
  let what ← expr
  expectKeyword "FROM"
  let start ← expr
  let length ← exprBehind "FOR"
  return .phrase ([.text "OVERLAY(", .expr e, .text " PLACING ", .expr what, .text " FROM ",
    .expr start] ++ length ++ [.text ")"])

/-- `TRIM`. -/
def trimExpr : Grammar Expr := parens do
  let side ← match ← oneOf ["BOTH", "LEADING", "TRAILING"] with
    | some s => pure (s ++ " ")
    | none => pure ""
  let first ← expr
  if ← keyword "FROM" then return .trim side first (← expr)
  else if ← symbol "," then
    require (← has fun d => d.among [.duckdb, .snowflake, .generic])
    let what ← list expr
    let rest := Phrase.exprs what ++ [.text ")"]
    return .phrase (.text "TRIM(" :: .expr first :: .text ", " :: rest)
  else return .phrase [.text ("TRIM(" ++ side), .expr first, .text ")"]

/-- The elements of an array up to its closing bracket. -/
def arrayExpr (mark : String) : Grammar Expr := do
  let elements ← listBefore "]" expr
  expectSymbol "]"
  return .phrase (.text (mark ++ "[") :: (Phrase.exprs elements ++ [.text "]"]))

/-- `NOT` in front of an operand. -/
def notExpr : Grammar Expr := do
  if ← keyword "EXISTS" then existsExpr true
  else return .unary "NOT " (← exprAboveBinding .not)

/-- The value of an interval, an interval being as good as any other operand. -/
def intervalExpr (operand : Grammar Expr) : Grammar Expr := do
  let e ← if ← has Dialect.intervalsNeedUnit then expr else operand
  return .phrase [.text "INTERVAL ", .expr e, .text (← intervalUnits)]

/-- A construct that starts with a word, which has been taken; nothing if the word starts none. -/
def construct (operand : Grammar Expr) (word : Ident) (key : String) : Grammar (Option Expr) := do
  let d := (← read).dialect
  match key with
  | "TRUE" | "FALSE" =>
    if d.booleanLiterals then return some (.value (.boolean (key == "TRUE"))) else return none
  | "NULL" => return some (.value .null)
  | "CURRENT_CATALOG" | "CURRENT_USER" | "SESSION_USER" | "USER" =>
    if d.among [.postgres, .generic] then return some (.call word.render [] [] [] [])
    else return none
  | "CURRENT_TIMESTAMP" | "CURRENT_TIME" | "CURRENT_DATE" | "LOCALTIME" | "LOCALTIMESTAMP" =>
    let arguments ← if ← symbol "(" then arguments else pure []
    return some (.call word.render arguments [] [] [])
  | "CASE" => return some (← caseExpr)
  | "CONVERT" => return some (← convertExpr)
  | "CAST" | "TRY_CAST" | "SAFE_CAST" => return some (← castExpr key)
  | "EXISTS" => return some (← existsExpr false)
  | "EXTRACT" => return some (← extractExpr)
  | "CEIL" | "FLOOR" => return some (← roundExpr key)
  | "POSITION" => if ← atSymbol "(" then return some (← positionExpr word) else return none
  | "SUBSTR" | "SUBSTRING" => return some (← substringExpr key)
  | "OVERLAY" => return some (← overlayExpr)
  | "TRIM" => return some (← trimExpr)
  | "INTERVAL" => return some (← intervalExpr operand)
  | "ARRAY" =>
    if ← symbol "[" then return some (← arrayExpr "ARRAY")
    else if (← atSymbol "(") && d != .clickhouse then
      let q ← parens query
      return some (.call word.render [.text "(", .query q, .text ")"] [] [] [])
    else return none
  | "NOT" => return some (← notExpr)
  | _ => return none

/-! ### Operands -/

/-- A name, a call, or a text with a character set in front; its word has been taken. -/
def named (word : Ident) : Grammar Expr := do
  match ← peek with
  | some (.symbol "(") => call word.render
  | some (.symbol "->") =>
    if ← has Dialect.lambdas then
      skip
      return .phrase [.text (word.render ++ " -> "), .expr (← expr)]
    else return .ident word
  | some (.literal v) =>
    let introduced := match v with
      | .text _ | .doubleQuoted _ | .hex _ => word.value.startsWith "_"
      | _ => false
    if introduced then return .phrase [.text (word.render ++ " " ++ (← value).render)]
    else return .ident word
  | _ => return .ident word

/-- Words that are no names when the construct they start is broken. -/
def neverName (d : Dialect) : List String :=
  ["EXISTS", "STRUCT", "TRIM"] ++ (if d.intervalIsName then [] else ["INTERVAL"])

/-- An operand that starts with a word. -/
def wordOperand (operand : Grammar Expr) (word : Ident) (key : String) : Grammar Expr :=
  fun level tokens =>
    match (skip *> construct operand word key) level tokens with
    | .ok (some e, rest) => .ok (e, rest)
    | .ok (none, _) => (skip *> named word) level tokens
    | .error cause =>
      if (neverName level.dialect).contains key then .error cause
      else match (skip *> named word) level tokens with
        | .ok found => .ok found
        | .error .tooDeep => .error cause
        | .error .unexpected => .error cause

/-- A text with its type in front, as in `DATE '2020-01-01'`, or an interval. -/
def typedText (operand : Grammar Expr) : Grammar Expr := do
  match ← dataType with
  | .custom _ => fail
  | .interval _ => intervalExpr operand
  | .builtin "BINARY" =>
    if ← has Dialect.binaryCasts then
      return .phrase [.text "CAST(", .expr (← expr), .text " AS BINARY)"]
    else return .phrase [.text "BINARY ", .expr (.value (← value))]
  | .builtin type => return .phrase [.text (type ++ " "), .expr (.value (← value))]

/-- A function without a name, behind the parenthesis that opens its parameters. -/
def lambdaExpr : Grammar Expr := do
  require (← has Dialect.lambdas)
  let parameters ← list ident
  expectSymbol ")"
  expectSymbol "->"
  return .phrase [.text ("(" ++ identList parameters ++ ") -> "), .expr (← expr)]

/-- What stands between parentheses: a query, an expression, or several. -/
def parenthesized : Grammar Expr := do
  expectSymbol "("
  if ← atQuery then
    let q ← query
    expectSymbol ")"
    return .subquery q
  else match ← attempt lambdaExpr with
    | some e => return e
    | none =>
      match ← inColumn false (list expr) with
      | [e] =>
        expectSymbol ")"
        return .nested e
      | es =>
        expectSymbol ")"
        return .phrase (Phrase.parens (Phrase.exprs es))

/-- The operators in front of an operand that only the server dialect has, as they are printed. -/
def serverPrefixes : List (String × String) :=
  [("!!", "!!"), ("|/", "|/"), ("||/", "||/"), ("@", "@"), ("#", "# "), ("@-@", "@-@ "),
   ("@@", "@@ "), ("?-", "?- "), ("?|", "?| ")]

/-- An operand that starts with a symbol. -/
def symbolOperand (s : String) : Grammar Expr := do
  match s with
  | "(" => parenthesized
  | "[" =>
    skip
    arrayExpr ""
  | "-" | "+" =>
    skip
    return .unary s (← exprAboveBinding .product)
  | "~" =>
    skip
    return .unary s (← exprAboveBinding .sum)
  | _ =>
    let op := if (← read).dialect.serverOperators then serverPrefixes.lookup s else none
    match op with
    | some op =>
      skip
      return .unary op (← exprAboveBinding .sum)
    | none => return .value (← value)

/-- A collation behind an operand. -/
def collated (e : Expr) : Grammar Expr := do
  if ← keywordIf (!(← read).inColumn) "COLLATE" then
    return .phrase [.expr e, .text (" COLLATE " ++ (← nameText))]
  else return e

/-- An operand, before any access to its parts; intervals nest up to a number of times. -/
def operand : Nat → Grammar Expr
  | 0 => fail
  | n + 1 => do
    let next ← peek
    let typed ←
      if Token.isWord (next.getD (.symbol "")) then attempt (typedText (operand n)) else pure none
    match typed with
    | some e => return e
    | none =>
      let e ← match next with
        | some (.word text quote key) => wordOperand (operand n) ⟨text, quote⟩ key
        | some (.literal _) => do pure (.value (← value))
        | some (.symbol s) => symbolOperand s
        | none => fail
      collated e

/-! ### Access to parts -/

/-- A step from a value to a part of it: a field, or what has been read as one piece. -/
inductive Link where
  | field (e : Expr)
  | part (pieces : Phrase)

/-- The pieces of a step. -/
def Link.pieces : Link → Phrase
  | field e => [.text ".", .expr e]
  | part pieces => pieces

/-- The identifier of a step that is no more than that. -/
def Link.ident? : Link → Option Ident
  | field (.ident i) => some i
  | _ => none

/-- The bounds of a subscript, behind its opening bracket. -/
def subscript : Grammar Phrase := do
  let low : Phrase ← if ← atSymbol ":" then pure [] else do pure [.expr (← exprAboveBinding .bar)]
  if ← symbolIf (!low.isEmpty) "]" then return .text "[" :: (low ++ [.text "]"])
  else
    expectSymbol ":"
    if ← symbol "]" then return .text "[" :: (low ++ [.text ":]"])
    else
      let high ← exprAboveBinding .bar
      if ← symbol "]" then return .text "[" :: (low ++ [.text ":", .expr high, .text "]"])
      else
        expectSymbol ":"
        if ← symbol "]" then return .text "[" :: (low ++ [.text ":", .expr high, .text "]"])
        else
          let stride ← expr
          expectSymbol "]"
          return .text "[" :: (low ++ [.text ":", .expr high, .text ":", .expr stride, .text "]"])

/-- The steps a field access adds, an access inside it being part of the same chain. -/
def linksOf : Expr → Option (List Link)
  | .access root chain => some [.part (.text "." :: .expr root :: chain)]
  | .path names => some (names.map fun i => .field (.ident i))
  | .ident i => some [.field (.ident i)]
  | .value v => some [.field (.value v)]
  | .call name arguments within filter window =>
    some [.field (.call name arguments within filter window)]
  | _ => none

/-- The steps behind a period. -/
def field : Grammar (List Link) := do
  match ← peek with
  | some (.literal (.text s)) =>
    skip
    return [.field (.ident (.withQuote '\'' s))]
  | some (.literal (.placeholder s)) =>
    skip
    return [.field (.ident (.bare s))]
  | _ =>
    let found ← attempt do
      match linksOf (← exprAboveBinding .period) with
      | some links => return links
      | none => fail
    match found with
    | some links => return links
    | none => return [.field (.ident (← ident))]

/-- The steps behind an operand, if there are any. -/
def links : Grammar (Option (List Link)) := do
  if isSymbol "." (← peek) then
    if isSymbol "*" (← peekAt 1) then return none
    else
      skip
      return some (← field)
  else if ← symbolIf (← has Dialect.subscripts) "[" then
    return some [.part (← subscript)]
  else return none

/-- An operand and the steps behind it, as one expression. -/
def accessed (root : Expr) (chain : List Link) : Expr :=
  if chain.isEmpty then root
  else match root with
    | .ident first =>
      match chain.mapM Link.ident? with
      | some names => .path (first :: names)
      | none =>
        match chain.reverse with
        | .field (.call name arguments within filter window) :: before =>
          match before.reverse.mapM Link.ident? with
          | some names =>
            .call (Ident.renderPath (first :: names) ++ "." ++ name) arguments within filter window
          | none => .access root (chain.flatMap Link.pieces)
        | _ => .access root (chain.flatMap Link.pieces)
    | _ => .access root (chain.flatMap Link.pieces)

/-- A dotted name that ends in a star, where it may stand for the columns of a table. -/
def rowStar (root : Expr) (chain : List Link) : Grammar Expr := do
  if (← atSymbol ".") && isSymbol "*" (← peekAt 1) && (← read).dialect == .postgres then
    skip
    skip
    match accessed root chain with
    | .ident i => return .phrase [.text (starText [i])]
    | .path names => return .phrase [.text (starText names)]
    | _ => fail
  else return accessed root chain

/-! ### Operators -/

/-- A binary operator by its symbol. -/
def binaryOp (s : String) : BinaryOp :=
  if s == "=" || s == "==" then .eq else .other s

/-- The right side of an operator: an operand, or a set of them behind `ANY`, `ALL` or `SOME`. -/
def rightSide (left : Expr) (op : BinaryOp) (compares : Bool) (strength : Nat) : Grammar Expr := do
  match ← oneOf ["ANY", "ALL", "SOME"] with
  | none => return .binary left op (← exprAbove strength)
  | some quantifier =>
    let head : Phrase := [.expr left, .text (" " ++ op.render ++ " " ++ quantifier)]
    require (← atSymbol "(")
    if isOneOf ["SELECT", "WITH"] (← peekAt 1) then
      let right ← exprAbove strength
      require compares
      match right with
      | .subquery q => return .phrase (head ++ [.expr (.subquery q)])
      | _ => return .phrase (head ++ [.text "(", .expr right, .text ")"])
    else
      skip
      let right ← exprAbove strength
      expectSymbol ")"
      require compares
      return .phrase (head ++ [.text "(", .expr right, .text ")"])

/-- `IS` and what it tests for. -/
def isTest (left : Expr) : Grammar Expr := do
  let negation ← wordsBefore ["NOT"]
  let head := .text (" IS " ++ negation)
  match ← oneOf ["NULL", "TRUE", "FALSE", "UNKNOWN"] with
  | some what => return .phrase [.expr left, .text (" IS " ++ negation ++ what)]
  | none =>
    if ← keywords ["DISTINCT", "FROM"] then
      return .phrase [.expr left, head, .text "DISTINCT FROM ", .expr (← expr)]
    else
      let form ← match ← oneOf ["NFC", "NFD", "NFKC", "NFKD"] with
        | some f => pure (f ++ " ")
        | none => pure ""
      expectKeyword "NORMALIZED"
      return .phrase [.expr left, head, .text (form ++ "NORMALIZED")]

/-- `IN` and the set it tests for. -/
def inTest (left : Expr) (negation : String) : Grammar Expr := do
  let head : Phrase := [.expr left, .text (" " ++ negation ++ "IN ")]
  if ← keyword "UNNEST" then
    let e ← parens expr
    return .phrase (head ++ [.text "UNNEST(", .expr e, .text ")"])
  else
    expectSymbol "("
    match ← attempt query with
    | some q =>
      expectSymbol ")"
      return .phrase (head ++ [.text "(", .query q, .text ")"])
    | none =>
      let es ← if ← has Dialect.emptyInLists then listBefore ")" expr else list expr
      expectSymbol ")"
      return .phrase (head ++ Phrase.parens (Phrase.exprs es))

/-- `BETWEEN` and its bounds. -/
def betweenTest (left : Expr) (negation : String) : Grammar Expr := do
  let low ← exprAboveBinding .between
  expectKeyword "AND"
  let high ← exprAboveBinding .between
  return .phrase [.expr left, .text (" " ++ negation ++ "BETWEEN "), .expr low, .text " AND ",
    .expr high]

/-- `LIKE` and its kin, with the character that escapes. -/
def likeTest (left : Expr) (verb : String) : Grammar Expr := do
  let pattern ← exprAboveBinding .like
  let escape ← if ← keyword "ESCAPE" then (" ESCAPE " ++ ·.render) <$> value else pure ""
  return .phrase [.expr left, .text (" " ++ verb), .expr pattern, .text escape]

/-- A test that may have `NOT` in front. -/
def negatableTest (left : Expr) : Grammar Expr := do
  let negation ← wordsBefore ["NOT"]
  match ← oneOf ["REGEXP", "RLIKE"] with
  | some verb =>
    return .phrase [.expr left, .text (" " ++ negation ++ verb ++ " "),
      .expr (← exprAboveBinding .like)]
  | none =>
    if ← keywordIf (negation != "" && !(← read).inColumn) "NULL" then
      return .phrase [.expr left, .text " IS NOT NULL"]
    else if ← keyword "IN" then inTest left negation
    else if ← keyword "BETWEEN" then betweenTest left negation
    else if ← keyword "LIKE" then likeTest left (negation ++ "LIKE " ++ (← wordsBefore ["ANY"]))
    else if ← keyword "ILIKE" then likeTest left (negation ++ "ILIKE " ++ (← wordsBefore ["ANY"]))
    else if ← keywords ["SIMILAR", "TO"] then likeTest left (negation ++ "SIMILAR TO ")
    else
      expectKeywords ["MEMBER", "OF"]
      let e ← parens expr
      return .phrase [.expr left, .text (" " ++ negation ++ "MEMBER OF("), .expr e, .text ")"]

/-- The parts of an operator's full name. -/
def operatorName : Grammar String := parens do
  let first ← part
  let rest ← many do
    if ← symbol "." then return some (← part) else return none
  return "OPERATOR(" ++ ".".intercalate (first :: rest) ++ ")"
where
  /-- One part of the name. -/
  part : Grammar String := do
    match ← peek with
    | some t =>
      skip
      return t.render
    | none => fail

/-- An operator that is a word, behind its left operand. -/
def wordOperator (left : Expr) (key : String) (strength : Nat) : Grammar Expr := do
  match key with
  | "AND" =>
    skip
    rightSide left .and false strength
  | "OR" =>
    skip
    rightSide left .or false strength
  | "XOR" =>
    skip
    rightSide left .xor false strength
  | "OVERLAPS" =>
    skip
    rightSide left (.other key) false strength
  | "OPERATOR" =>
    require (← has fun d => d.among [.postgres, .generic])
    skip
    rightSide left (.other (← operatorName)) false strength
  | "DIV" =>
    require (← has fun d => d == .mysql)
    skip
    return .binary left (.other key) (← expr)
  | "IS" =>
    skip
    isTest left
  | "AT" =>
    expectKeywords ["AT", "TIME", "ZONE"]
    return .phrase [.expr left, .text " AT TIME ZONE ", .expr (← exprAbove strength)]
  | "NOTNULL" =>
    skip
    return .phrase [.expr left, .text " IS NOT NULL"]
  | "MATCH" | "REGEXP" =>
    if ← has Dialect.wideMatches then
      skip
      return .binary left (.other key) (← expr)
    else negatableTest left
  | _ => negatableTest left

/-- An operator and its right operand, behind its left operand. -/
def infixed (left : Expr) (strength : Nat) : Grammar Expr := do
  match ← peek with
  | some (.word _ _ key) => wordOperator left key strength
  | some (.symbol "::") =>
    skip
    return .phrase [.expr left, .text ("::" ++ (← typeText))]
  | some (.symbol "!") =>
    require (← read).dialect.serverOperators
    skip
    return .phrase [.expr left, .text "!"]
  | some (.symbol s) =>
    skip
    rightSide left (binaryOp s) (comparisons.contains s) strength
  | _ => fail

/-- Operators behind a left operand, as long as they bind tighter; at most a number of them. -/
def climb (strength : Nat) : Nat → Expr → Grammar Expr
  | 0, left => do
    require ((← nextStrength) ≤ strength)
    return left
  | n + 1, left => do
    let next ← nextStrength
    if next ≤ strength then return left
    else climb strength n (← infixed left next)

/-- An expression whose operators all bind tighter than a given strength. -/
def expression (strength : Nat) : Grammar Expr := do
  let tokens ← get
  let root ← operand (tokens.length + 1)
  let chain ← many links
  let e ← collated (← rowStar root chain.flatten)
  climb strength (tokens.length + 1) e

end RowScope.Sql.Grammar
