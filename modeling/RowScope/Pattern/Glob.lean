/-
Wildcard patterns.

A star stands for any run of characters, a question mark for one character, and
everything else for itself.  A wildcard pattern is read as the regular expression that
has the same meaning, anchored at both ends.
-/
import RowScope.Pattern.Regex.Reader

namespace RowScope.Pattern.Glob

/-- The regular expression for a text that stands for itself. -/
def escape (text : List Char) : List Char :=
  text.flatMap fun c => if Regex.isMeta c then ['\\', c] else [c]

/--
The regular expression for the rest of a pattern.  The characters since the last
wildcard, last first, wait in `run` until the next one, or the end, has them escaped.
-/
def translate : (run : List Char) → List Char → List Char
  | run, [] => escape run.reverse
  | run, c :: cs =>
    if c = '*' then escape run.reverse ++ '.' :: '*' :: translate [] cs
    else if c = '?' then escape run.reverse ++ '.' :: translate [] cs
    else translate (c :: run) cs

/-- The regular expression for a pattern. -/
def toRegex (source : String) : String :=
  String.ofList ('^' :: (translate [] source.toList ++ ['$']))

end RowScope.Pattern.Glob
