/-
Matchers for the name of a table or of a schema.

A matcher is a name, a wildcard pattern, a regular expression or a test that the
program supplies.  Expressions are read when the matcher is made, so a matcher that
exists can always be asked.
-/
import RowScope.Pattern.Glob
import RowScope.Text.Quoted

namespace RowScope.Pattern

/-- A pattern that is no regular expression, or too large a one. -/
structure Invalid where
  pattern : String
deriving DecidableEq, Repr, Inhabited

/-- What a name is compared with. -/
inductive Matcher where
  /-- The name itself. -/
  | exact (name : String)
  | glob (source : String) (compiled : Regex)
  /-- An expression that may match anywhere in the name. -/
  | regex (source : String) (compiled : Regex)
  | predicate (test : String → Bool)

instance : Inhabited Matcher := ⟨.exact ""⟩

namespace Matcher

/-- The matcher of a wildcard pattern. -/
def ofGlob (source : String) : Except Invalid Matcher :=
  match Regex.compile (Glob.toRegex source) with
  | some r => .ok (.glob source r)
  | none => .error ⟨source⟩

/-- The matcher of a regular expression. -/
def ofRegex (source : String) : Except Invalid Matcher :=
  match Regex.compile source with
  | some r => .ok (.regex source r)
  | none => .error ⟨source⟩

/-- Whether a name matches. -/
def accepts : Matcher → String → Bool
  | exact name, candidate => name == candidate
  | glob _ r, candidate => r.isMatch candidate
  | regex _ r, candidate => r.isMatch candidate
  | predicate test, candidate => test candidate

/-- A matcher as messages show it. -/
def describe : Matcher → String
  | exact name => "Exact(" ++ Text.quoted name ++ ")"
  | glob source _ => "Glob(" ++ Text.quoted source ++ ")"
  | regex source _ => "Regex(" ++ Text.quoted source ++ ")"
  | predicate _ => "Predicate(..)"

end Matcher

/-! ### Tests of names -/

/-- A named test, to be supplied as a predicate. -/
inductive NameTest where
  | startsWith (part : String)
  | endsWith (part : String)
  | contains (part : String)
  /-- The number of characters, in decimal digits. -/
  | length (digits : String)
  | always
  | never
deriving DecidableEq, Repr, Inhabited

namespace NameTest

/-- Whether one list of characters occurs inside another. -/
def occursIn (part : List Char) : List Char → Bool
  | [] => part.isEmpty
  | c :: cs => part.isPrefixOf (c :: cs) || occursIn part cs

/-- Whether a name passes. -/
def passes : NameTest → String → Bool
  | startsWith part, name => part.toList.isPrefixOf name.toList
  | endsWith part, name => part.toList.isSuffixOf name.toList
  | contains part, name => occursIn part.toList name.toList
  | length digits, name => toString name.length == digits
  | always, _ => true
  | never, _ => false

/-- The matcher that applies a test. -/
def toMatcher (t : NameTest) : Matcher := .predicate t.passes

end NameTest

end RowScope.Pattern
