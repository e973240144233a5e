/-
The grammar of data types and of the fields of a date.

A type is kept as its text, since nothing below it is ever looked at: the keywords of
the built-in types in upper case, the numbers behind them without blanks, and any
other name as it was written.
-/
import RowScope.Sql.Grammar.Names

namespace RowScope.Sql.Grammar

/-- A data type, sorted by what may follow it: a text literal, an interval, or neither. -/
inductive TypeText where
  | builtin (text : String)
  | interval (text : String)
  | custom (text : String)
deriving DecidableEq, Repr, Inhabited

/-- The text of a type. -/
def TypeText.render : TypeText → String
  | builtin text | interval text | custom text => text

/-! ### Numbers behind a type -/

/-- A number without a fraction. -/
def uint : Grammar String := do
  match ← peek with
  | some (.literal (.number digits _)) =>
    require (digits.toList.all Char.isDigit)
    skip
    return toString (digits.toList.foldl (fun n c => 10 * n + (c.toNat - '0'.toNat)) 0)
  | _ => fail

/-- A length in parentheses, if there is one. -/
def lengthText : Grammar String := do
  if ← symbol "(" then
    let n ← uint
    expectSymbol ")"
    return "(" ++ n ++ ")"
  else return ""

/-- A length of characters in parentheses, if there is one; it may be `MAX` or have a unit. -/
def charLengthText : Grammar String := do
  if ← symbol "(" then
    let n ← if ← keyword "MAX" then pure "MAX" else do
      let n ← uint
      let unit ← match ← oneOf ["CHARACTERS", "OCTETS"] with
        | some u => pure (" " ++ u)
        | none => pure ""
      pure (n ++ unit)
    expectSymbol ")"
    return "(" ++ n ++ ")"
  else return ""

/-- The precision of a number and perhaps its scale, in parentheses, if they are there. -/
def scaleText : Grammar String := do
  if ← symbol "(" then
    let p ← uint
    let s ← if ← symbol "," then do
        let sign ← if ← symbol "-" then pure "-" else do
          let _ ← symbol "+"
          pure ""
        pure ("," ++ sign ++ (← uint))
      else pure ""
    expectSymbol ")"
    return "(" ++ p ++ s ++ ")"
  else return ""

/-- What tells whether a time has a zone. -/
def zoneText : Grammar String := do
  if ← keyword "WITH" then
    expectKeywords ["TIME", "ZONE"]
    return " WITH TIME ZONE"
  else if ← keyword "WITHOUT" then
    expectKeywords ["TIME", "ZONE"]
    return " WITHOUT TIME ZONE"
  else return ""

/-! ### Types -/

/-- Types that are a single word. -/
def plainTypes : List String :=
  ["BOOLEAN", "BOOL", "FLOAT4", "FLOAT8", "FLOAT32", "FLOAT64", "UUID", "DATE", "DATE32",
   "JSON", "JSONB", "REGCLASS", "TEXT", "TINYTEXT", "MEDIUMTEXT", "LONGTEXT", "BYTEA", "TSVECTOR",
   "TSQUERY", "INT16", "INT32", "INT64", "INT128", "INT256", "UINT8", "UINT16", "UINT32", "UINT64",
   "HUGEINT", "UBIGINT", "USMALLINT", "UTINYINT", "UINTEGER", "UHUGEINT", "TINYBLOB", "MEDIUMBLOB",
   "LONGBLOB", "TRIGGER"]

/-- Geometric types, where the dialect has them. -/
def shapeTypes : List String := ["POINT", "LINE", "LSEG", "BOX", "PATH", "POLYGON", "CIRCLE"]

/-- Whole numbers, which may have a width and be unsigned. -/
def integerTypes : List String :=
  ["TINYINT", "SMALLINT", "INT2", "MEDIUMINT", "INT", "INT4", "INT8", "INTEGER", "BIGINT"]

/-- Types with a length behind them. -/
def sizedTypes : List String :=
  ["BLOB", "CLOB", "BYTES", "STRING", "DATETIME", "TIMESTAMPTZ", "TIMETZ", "VARBIT"]

/-- Types with a length of characters behind them. -/
def charTypes : List String := ["VARCHAR", "NVARCHAR", "VARBINARY", "BINARY"]

/-- Decimal numbers. -/
def decimalTypes : List String :=
  ["NUMERIC", "DECIMAL", "DEC", "BIGNUMERIC", "BIGDECIMAL", "FLOAT", "REAL"]

/-- The text of a built-in type whose keyword has been read, if it is one. -/
def builtinType (key : String) : Grammar (Option String) := do
  if plainTypes.contains key then return some key
  else if shapeTypes.contains key && (← has fun d => d.among [.postgres, .generic]) then
    return some key
  else if integerTypes.contains key then
    let width ← lengthText
    return some (key ++ width ++ (← wordsAfter ["UNSIGNED"]))
  else if decimalTypes.contains key then
    let scale ← scaleText
    return some (key ++ scale ++ (← wordsAfter ["UNSIGNED"]))
  else if sizedTypes.contains key then return some (key ++ (← lengthText))
  else if charTypes.contains key then return some (key ++ (← charLengthText))
  else if key == "CHARACTER" || key == "CHAR" then
    let large ← wordsAfter ["LARGE", "OBJECT"]
    let varying ← if large == "" then wordsAfter ["VARYING"] else pure large
    return some (key ++ varying ++ (← charLengthText))
  else if key == "BIT" then
    let varying ← wordsAfter ["VARYING"]
    return some (key ++ varying ++ (← lengthText))
  else if key == "DOUBLE" then
    let precision ← wordsAfter ["PRECISION"]
    return some (key ++ precision ++ (← if precision == "" then scaleText else pure ""))
  else if key == "TIMESTAMP" || key == "TIME" then
    let length ← lengthText
    return some (key ++ length ++ (← zoneText))
  else if (key == "UNSIGNED" || key == "SIGNED") && (← has fun d => d.among [.mysql, .generic]) then
    return some (key ++ (← wordsAfter ["INTEGER"]))
  else return none

/-- Words, numbers and texts in parentheses behind the name of a type. -/
def typeModifiers : Grammar String := do
  if ← symbol "(" then
    let items ← list do
      match ← peek with
      | some (.word text none _) =>
        skip
        return text
      | some (.literal (.number digits long)) =>
        skip
        return Value.render (.number digits long)
      | some (.literal (.text s)) =>
        skip
        return s
      | _ => fail
    expectSymbol ")"
    return "(" ++ ", ".intercalate items ++ ")"
  else return ""

/-- A type without the brackets of an array. -/
def elementType : Grammar TypeText := do
  match ← peek with
  | some (.word _ _ key) =>
    if key == "INTERVAL" then
      skip
      return .interval "INTERVAL"
    else
      let found ← attempt do
        skip
        match ← builtinType key with
        | some text => return text
        | none => fail
      match found with
      | some text => return .builtin text
      | none =>
        let others := ["CHARACTER", "CHAR", "BIT", "DOUBLE", "TIMESTAMP", "TIME", "ARRAY", "STRUCT"]
        require !(plainTypes ++ integerTypes ++ decimalTypes ++ sizedTypes ++ charTypes
          ++ others).contains key
        let n ← nameText
        return .custom (n ++ (← typeModifiers))
  | _ => fail

/-- The brackets behind the type of an array's elements. -/
def arraySuffix : Grammar (Option String) := do
  if ← symbolIf (← has Dialect.bracketTypes) "[" then
    let size ← attempt uint
    expectSymbol "]"
    return some ("[" ++ size.getD "" ++ "]")
  else return none

/-- A data type. -/
def dataType : Grammar TypeText := do
  let element ← elementType
  let suffixes ← many arraySuffix
  if suffixes.isEmpty then return element
  else return .builtin (element.render ++ "".intercalate suffixes)

/-- The text of a data type. -/
def typeText : Grammar String := TypeText.render <$> dataType

/-! ### Fields of a date -/

/-- Units an interval may be counted in. -/
def units : List String :=
  ["YEAR", "YEARS", "MONTH", "MONTHS", "WEEK", "WEEKS", "DAY", "DAYS", "HOUR", "HOURS", "MINUTE",
   "MINUTES", "SECOND", "SECONDS", "CENTURY", "DECADE", "DOY", "DOW", "EPOCH", "ISODOW",
   "ISOYEAR", "JULIAN", "MICROSECOND", "MICROSECONDS", "MILLENIUM", "MILLENNIUM", "MILLISECOND",
   "MILLISECONDS", "NANOSECOND", "NANOSECONDS", "QUARTER", "TIMEZONE", "TIMEZONE_HOUR",
   "TIMEZONE_MINUTE"]

/-- A field of a date: a unit, or any name where the dialect allows it. -/
def dateField : Grammar String := do
  match ← oneOf (units ++ ["DATE", "DATETIME", "DAYOFWEEK", "DAYOFYEAR", "TIME", "TIMEZONE_ABBR",
      "TIMEZONE_REGION", "ISOWEEK"]) with
  | some unit => return unit
  | none =>
    require (← has fun d => d.among [.postgres, .generic, .snowflake])
    return (← ident).render

end RowScope.Sql.Grammar
