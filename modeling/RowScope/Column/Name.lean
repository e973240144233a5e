/-
The identifier of a column, from its name.

An identifier without quotes is folded to small letters by the database and must not be
a reserved word, so only names that survive both are written without quotes.
-/
import RowScope.Sql.Ident

namespace RowScope.Column

/-- The words that cannot be identifiers, in order. -/
def reservedWords : List String :=
  ["all", "analyse", "analyze", "and", "any", "array", "as", "asc", "asymmetric", "both",
   "case", "cast", "check", "collate", "column", "constraint", "create", "current_catalog",
   "current_date", "current_role", "current_time", "current_timestamp", "current_user",
   "default", "deferrable", "desc", "distinct", "do", "else", "end", "except", "false",
   "fetch", "for", "foreign", "from", "grant", "group", "having", "in", "initially",
   "intersect", "into", "lateral", "leading", "limit", "localtime", "localtimestamp", "not",
   "null", "offset", "on", "only", "or", "order", "placing", "primary", "references",
   "returning", "select", "session_user", "some", "symmetric", "table", "then", "to",
   "trailing", "true", "union", "unique", "user", "using", "variadic", "when", "where",
   "window", "with"]

/--
Looks a word up among words in order, going on in the half of them that it can be in;
`steps` is a bound on how often.
-/
def search (word : String) : (steps : Nat) → List String → Bool
  | 0, _ => false
  | steps + 1, words =>
    let front := words.take (words.length / 2)
    match words.drop (words.length / 2) with
    | [] => false
    | middle :: behind =>
      if word = middle then true
      else if word < middle then search word steps front
      else search word steps behind

/-- Whether a word cannot be an identifier. -/
def isReserved (word : String) : Bool := search word reservedWords.length reservedWords

/-- The characters a name may start with that is written without quotes. -/
def isPlainStart (c : Char) : Bool := c.isLower || c == '_'

/-- The characters such a name may go on with. -/
def isPlainRest (c : Char) : Bool := c.isLower || c.isDigit || c == '_' || c == '$'

/-- Whether a name has the form of an identifier without quotes. -/
def isPlain (name : String) : Bool :=
  match name.toList with
  | [] => false
  | c :: cs => isPlainStart c && cs.all isPlainRest

/-- The identifier of the column with a given name. -/
def ident (name : String) : Sql.Ident :=
  if isPlain name && !isReserved name then .bare name else .withQuote '"' name

end RowScope.Column
