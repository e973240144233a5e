/-
Sets of characters, as patterns write them.

A set is kept as it was written, and asked whether it contains a character.  A folded
set contains a character if it contains some character that differs from it in case
only.
-/
import RowScope.Text.CaseFold
import RowScope.Text.Category
import RowScope.Text.Script

namespace RowScope.Pattern

/-- A property that some characters have. -/
inductive Property where
  | any
  | assigned
  | ascii
  /-- A general category, or a whole group of them. -/
  | category (group : Char) (member : Option Char)
  /-- The letters that have a case. -/
  | cased
  | script (s : Text.Script)
  | blank
  | letter
  | decimal
  | word
deriving DecidableEq, Repr, Inhabited

namespace Property

/-- Whether a character has a property. -/
def has (p : Property) (c : Char) : Bool :=
  match p with
  | any => true
  | assigned => Text.Category.of c != ⟨'C', 'n'⟩
  | ascii => c.toNat < 128
  | category group none => (Text.Category.of c).group == group
  | category group (some member) => Text.Category.of c == ⟨group, member⟩
  | cased =>
    let cat := Text.Category.of c
    cat.group == 'L' && (cat.member == 'u' || cat.member == 'l' || cat.member == 't')
  | script s => s.has c
  | blank => Text.isBlank c
  | letter => Text.isLetter c
  | decimal => Text.isDecimal c
  | word => Text.isWordChar c

/-- The general categories by their long names. -/
def categoryNames : List (String × Property) :=
  [("letter", .category 'L' none), ("uppercaseletter", .category 'L' 'u'),
   ("lowercaseletter", .category 'L' 'l'), ("titlecaseletter", .category 'L' 't'),
   ("casedletter", .cased), ("lc", .cased), ("modifierletter", .category 'L' 'm'),
   ("otherletter", .category 'L' 'o'), ("mark", .category 'M' none),
   ("combiningmark", .category 'M' none), ("nonspacingmark", .category 'M' 'n'),
   ("spacingmark", .category 'M' 'c'), ("enclosingmark", .category 'M' 'e'),
   ("number", .category 'N' none), ("decimalnumber", .category 'N' 'd'),
   ("digit", .category 'N' 'd'), ("letternumber", .category 'N' 'l'),
   ("othernumber", .category 'N' 'o'), ("punctuation", .category 'P' none),
   ("punct", .category 'P' none), ("connectorpunctuation", .category 'P' 'c'),
   ("dashpunctuation", .category 'P' 'd'), ("openpunctuation", .category 'P' 's'),
   ("closepunctuation", .category 'P' 'e'), ("initialpunctuation", .category 'P' 'i'),
   ("finalpunctuation", .category 'P' 'f'), ("otherpunctuation", .category 'P' 'o'),
   ("symbol", .category 'S' none), ("mathsymbol", .category 'S' 'm'),
   ("currencysymbol", .category 'S' 'c'), ("modifiersymbol", .category 'S' 'k'),
   ("othersymbol", .category 'S' 'o'), ("separator", .category 'Z' none),
   ("spaceseparator", .category 'Z' 's'), ("lineseparator", .category 'Z' 'l'),
   ("paragraphseparator", .category 'Z' 'p'), ("other", .category 'C' none),
   ("control", .category 'C' 'c'), ("cntrl", .category 'C' 'c'), ("format", .category 'C' 'f'),
   ("privateuse", .category 'C' 'o'), ("unassigned", .category 'C' 'n'),
   ("any", .any), ("assigned", .assigned), ("ascii", .ascii)]

/-- The members of each group of general categories. -/
def categoryMembers : List (Char × List Char) :=
  [('l', ['u', 'l', 't', 'm', 'o']), ('m', ['n', 'c', 'e']), ('n', ['d', 'l', 'o']),
   ('p', ['c', 'd', 's', 'e', 'i', 'f', 'o']), ('s', ['m', 'c', 'k', 'o']), ('z', ['s', 'l', 'p']),
   ('c', ['c', 'f', 'o', 'n'])]

/-- A general category by its name, written in small letters without separators. -/
def ofCategory? (name : String) : Option Property :=
  match categoryNames.lookup name with
  | some p => some p
  | none =>
    match name.toList with
    | [g] => (categoryMembers.lookup g).map fun _ => .category g.toUpper none
    | [g, m] => do
      let members ← categoryMembers.lookup g
      if members.contains m then some (.category g.toUpper (some m)) else none
    | _ => none

/-- The properties that are neither a category nor a script. -/
def otherNames : List (String × Property) :=
  [("alphabetic", .letter), ("alpha", .letter), ("lowercase", .category 'L' 'l'),
   ("lower", .category 'L' 'l'), ("uppercase", .category 'L' 'u'), ("upper", .category 'L' 'u'),
   ("whitespace", .blank), ("wspace", .blank), ("space", .blank)]

/-- A name in small letters, without separators and without a leading `is`. -/
def plainName (name : List Char) : String :=
  let body := match name with
    | i :: s :: rest => if i.toLower == 'i' && s.toLower == 's' then rest else name
    | _ => name
  let plain := body.filter fun c => c.toNat < 128 && c != ' ' && c != '_' && c != '-'
  String.ofList (plain.map Char.toLower)

/-- A property by its name. -/
def ofName? (name : List Char) : Option Property :=
  let n := plainName name
  match otherNames.lookup n with
  | some p => some p
  | none =>
    match ofCategory? n with
    | some p => some p
    | none => (Text.Script.names.lookup n).map .script

/-- A property by the name of its kind and its own name. -/
def ofNames? (kind name : List Char) : Option Property :=
  let k := plainName kind
  let n := plainName name
  if k == "gc" || k == "generalcategory" then ofCategory? n
  else if k == "sc" || k == "script" || k == "scx" || k == "scriptextensions" then
    (Text.Script.names.lookup n).map .script
  else none

end Property

/-- A set of characters. -/
inductive CharSet where
  | empty
  | range (first last : Char)
  | property (p : Property)
  | complement (s : CharSet)
  | union (s t : CharSet)
  | inter (s t : CharSet)
  | diff (s t : CharSet)
  /-- The characters in exactly one of two sets. -/
  | symmDiff (s t : CharSet)
  /-- A set without regard to case. -/
  | folded (s : CharSet)
deriving DecidableEq, Repr, Inhabited

namespace CharSet

/-- The set of one character. -/
def singleton (c : Char) : CharSet := .range c c

/-- Whether a set contains a character. -/
def contains : CharSet → Char → Bool
  | empty, _ => false
  | range first last, c => first ≤ c && c ≤ last
  | property p, c => p.has c
  | complement s, c => !s.contains c
  | union s t, c => s.contains c || t.contains c
  | inter s t, c => s.contains c && t.contains c
  | diff s t, c => s.contains c && !t.contains c
  | symmDiff s t, c => s.contains c != t.contains c
  | folded s, c => (Text.CaseFold.variants c).any s.contains

/-- The union of several sets. -/
def unions (ss : List CharSet) : CharSet := ss.foldr .union .empty

/-- The characters between pairs of bounds. -/
def ranges (rs : List (Char × Char)) : CharSet := unions (rs.map fun (a, b) => .range a b)

/-- The classes of ASCII characters by their names. -/
def asciiClass? (name : String) : Option CharSet :=
  match name with
  | "alnum" => some (ranges [('0', '9'), ('A', 'Z'), ('a', 'z')])
  | "alpha" => some (ranges [('A', 'Z'), ('a', 'z')])
  | "ascii" => some (ranges [('\x00', '\x7F')])
  | "blank" => some (ranges [('\t', '\t'), (' ', ' ')])
  | "cntrl" => some (ranges [('\x00', '\x1F'), ('\x7F', '\x7F')])
  | "digit" => some (ranges [('0', '9')])
  | "graph" => some (ranges [('!', '~')])
  | "lower" => some (ranges [('a', 'z')])
  | "print" => some (ranges [(' ', '~')])
  | "punct" => some (ranges [('!', '/'), (':', '@'), ('[', '`'), ('\x7B', '~')])
  | "space" => some (ranges [('\t', '\r'), (' ', ' ')])
  | "upper" => some (ranges [('A', 'Z')])
  | "word" => some (ranges [('0', '9'), ('A', 'Z'), ('_', '_'), ('a', 'z')])
  | "xdigit" => some (ranges [('0', '9'), ('A', 'F'), ('a', 'f')])
  | _ => none

end CharSet

end RowScope.Pattern
