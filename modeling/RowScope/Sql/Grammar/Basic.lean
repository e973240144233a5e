/-
The reading of statements: what every part of the grammar is made of.

A grammar reads tokens from the front of a list and hands back a part of the tree and
the tokens that are left.  Statements, queries and expressions nest in each other
without bound, so a grammar does not call itself for them: it asks its *level*, which
holds the three readers for what stands one level deeper.  `Level.ofDepth` in
`Sql/Grammar/Statement` builds the levels on top of each other, and the number of
levels is the deepest nesting that is read at all.

A text is refused for one of two causes.  They differ in one point: an alternative
that fails with `unexpected` may be tried again in another way, but one that was
nested too deep ends the whole reading.
-/
import RowScope.Sql.Token
import RowScope.Sql.Tree

namespace RowScope.Sql

/-- Why a text is no list of statements. -/
inductive SyntaxError where
  | unexpected
  | tooDeep
deriving DecidableEq, Repr, Inhabited

/-- A reader of tokens. -/
abbrev Reader := StateT (List Lexeme) (Except SyntaxError)

/--
What a grammar may ask for: the dialect, and the readers of one level deeper.  While
the options of a column are read, `inColumn` is set, and `NOT NULL` and `COLLATE` end
an expression instead of going on with it.
-/
structure Level where
  dialect : Dialect
  inColumn : Bool
  statement : Reader Statement
  query : Reader Query
  expr : (inColumn : Bool) → (precedence : Nat) → Reader Expr

/-- A reader that depends on its level. -/
abbrev Grammar := ReaderT Level Reader

namespace Grammar

/-! ### Failing and trying -/

/-- Refuses what comes next. -/
def fail {α : Type} : Grammar α := throw .unexpected

/-- Goes on only under a condition. -/
def require (condition : Bool) : Grammar Unit := if condition then pure () else fail

/-- Tries a grammar, and reads nothing when it fails; too deep a nesting is no failure. -/
def attempt {α : Type} (g : Grammar α) : Grammar (Option α) := fun level tokens =>
  match g level tokens with
  | .ok (a, rest) => .ok (some a, rest)
  | .error .unexpected => .ok (none, tokens)
  | .error .tooDeep => .error .tooDeep

/-- The first grammar if it does not fail, else the second. -/
def orElse {α : Type} (g : Grammar α) (h : Grammar α) : Grammar α := do
  match ← attempt g with
  | some a => return a
  | none => h

/-- Whether the dialect has a feature. -/
def has (feature : Dialect → Bool) : Grammar Bool := return feature (← read).dialect

/-- What stands one level deeper: a statement. -/
def statement : Grammar Statement := do (← read).statement

/-- What stands one level deeper: a query. -/
def query : Grammar Query := do (← read).query

/-- An expression whose operators all bind tighter than a precedence. -/
def exprAbove (precedence : Nat) : Grammar Expr := do
  let level ← read
  level.expr level.inColumn precedence

/-- Any expression. -/
def expr : Grammar Expr := exprAbove 0

/-- Reads with `NOT NULL` and `COLLATE` taken as options of a column, or as operators. -/
def inColumn {α : Type} (flag : Bool) (g : Grammar α) : Grammar α := fun level =>
  g { level with inColumn := flag }

/-! ### Single tokens -/

/-- The token at a distance from the front. -/
def peekAt (n : Nat) : Grammar (Option Token) :=
  return ((← get)[n]?).map Lexeme.token

/-- The next token. -/
def peek : Grammar (Option Token) := peekAt 0

/-- Takes the next token away. -/
def skip : Grammar Unit := modify (List.drop 1)

/-- Whether a token is a given keyword. -/
def isKeyword (key : String) : Option Token → Bool
  | some (.word _ none k) => k == key
  | _ => false

/-- Whether a token is one of several keywords. -/
def isOneOf (keys : List String) : Option Token → Bool
  | some (.word _ none k) => keys.contains k
  | _ => false

/-- Whether a token is a given symbol. -/
def isSymbol (s : String) : Option Token → Bool
  | some (.symbol t) => t == s
  | _ => false

/-- Whether the next token is a given keyword. -/
def atKeyword (key : String) : Grammar Bool := return isKeyword key (← peek)

/-- Whether the next token is one of several keywords. -/
def atOneOf (keys : List String) : Grammar Bool := return isOneOf keys (← peek)

/-- Whether the next token is a given symbol. -/
def atSymbol (s : String) : Grammar Bool := return isSymbol s (← peek)

/-- Takes a keyword if it is next. -/
def keyword (key : String) : Grammar Bool := do
  if ← atKeyword key then
    skip
    return true
  else return false

/-- Takes a keyword if it is next, where a condition holds. -/
def keywordIf (condition : Bool) (key : String) : Grammar Bool :=
  if condition then keyword key else return false

/-- Whether tokens start with the given keywords. -/
def startsWith : List String → List Lexeme → Bool
  | [], _ => true
  | key :: keys, t :: ts => isKeyword key (some t.token) && startsWith keys ts
  | _ :: _, [] => false

/-- Takes several keywords in a row, or none of them. -/
def keywords (keys : List String) : Grammar Bool := do
  if startsWith keys (← get) then
    modify (List.drop keys.length)
    return true
  else return false

/-- Takes the first of several keywords that is next, and tells which. -/
def oneOf (keys : List String) : Grammar (Option String) := do
  match ← peek with
  | some (.word _ none k) =>
    if keys.contains k then
      skip
      return some k
    else return none
  | _ => return none

/-- Takes a symbol if it is next. -/
def symbol (s : String) : Grammar Bool := do
  if ← atSymbol s then
    skip
    return true
  else return false

/-- Takes a symbol if it is next, where a condition holds. -/
def symbolIf (condition : Bool) (s : String) : Grammar Bool :=
  if condition then symbol s else return false

/-- Takes a keyword that has to be next. -/
def expectKeyword (key : String) : Grammar Unit := do require (← keyword key)

/-- Takes keywords that have to be next. -/
def expectKeywords (keys : List String) : Grammar Unit := do require (← keywords keys)

/-- Takes a symbol that has to be next. -/
def expectSymbol (s : String) : Grammar Unit := do require (← symbol s)

/-- Takes one of several keywords, one of which has to be next. -/
def expectOneOf (keys : List String) : Grammar String := do
  match ← oneOf keys with
  | some key => return key
  | none => fail

/-! ### Repetition

A repetition is bounded by the number of tokens that are left, since each turn takes
at least one of them away.
-/

/-- Repeats while the step gives a result, up to a number of times. -/
def manyUpTo {α : Type} (step : Grammar (Option α)) : Nat → Grammar (List α)
  | 0 => return []
  | n + 1 => do
    match ← step with
    | none => return []
    | some a => return a :: (← manyUpTo step n)

/-- Repeats while the step gives a result. -/
def many {α : Type} (step : Grammar (Option α)) : Grammar (List α) := do
  manyUpTo step ((← get).length + 1)

/-- One or more items with commas between them, `ends` telling where a comma was the last. -/
def listUntil {α : Type} (ends : Option Token → Bool) (item : Grammar α) : Grammar (List α) := do
  let first ← item
  let rest ← many do
    if ← symbol "," then
      if ends (← peek) then return none else return some (← item)
    else return none
  return first :: rest

/-- One or more items with commas between them. -/
def list {α : Type} (item : Grammar α) : Grammar (List α) := listUntil (fun _ => false) item

/-- Items with commas between them up to a symbol, or no item at all. -/
def listBefore {α : Type} (close : String) (item : Grammar α) : Grammar (List α) := do
  if ← atSymbol close then return [] else list item

/-- What stands between parentheses. -/
def parens {α : Type} (g : Grammar α) : Grammar α := do
  expectSymbol "("
  let a ← g
  expectSymbol ")"
  return a

/-- An expression behind a keyword, if the keyword is next. -/
def exprBehind (key : String) : Grammar Phrase := do
  if ← keyword key then return [.text (" " ++ key ++ " "), .expr (← expr)] else return []

/-- Keywords that may be next, as a text with a blank behind it. -/
def wordsBefore (keys : List String) : Grammar String := do
  return if ← keywords keys then " ".intercalate keys ++ " " else ""

/-- Keywords that may be next, as a text with a blank in front of it. -/
def wordsAfter (keys : List String) : Grammar String := do
  return if ← keywords keys then " " ++ " ".intercalate keys else ""

end Grammar

end RowScope.Sql
