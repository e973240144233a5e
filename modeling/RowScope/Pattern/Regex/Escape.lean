/-
The flags of a regular expression, and what a backslash stands for.

Whatever can be switched inside an expression is kept in `Flags`: how letters of
either case, lines and dots are read, and whether blanks and comments may be strewn
in.  An escape yields an `Atom`, which is a character, a set or a position; where it
stands decides which of them are allowed.
-/
import RowScope.Pattern.Regex

namespace RowScope.Pattern.Regex

/-- The switches of an expression. -/
structure Flags where
  ignoreCase : Bool := false
  /-- `^` and `$` stand for the ends of lines. -/
  byLine : Bool := false
  /-- A dot stands for a line feed as well. -/
  dotAll : Bool := false
  /-- Lines may end in a carriage return. -/
  anyLineEnd : Bool := false
  /-- Classes, word edges and letters of either case go beyond ASCII. -/
  unicode : Bool := true
  /-- Blanks and comments between the parts are skipped. -/
  spaced : Bool := false
deriving DecidableEq, Repr, Inhabited

/-- Drops blanks and comments; a comment runs to the end of its line. -/
def dropBlanks : (inComment : Bool) → List Char → List Char
  | _, [] => []
  | true, c :: cs => dropBlanks (c != '\n') cs
  | false, c :: cs =>
    if Text.isBlank c then dropBlanks false cs
    else if c = '#' then dropBlanks true cs
    else c :: cs

namespace Flags

/-- Drops what the flags allow between two parts of an expression. -/
def skip (f : Flags) (cs : List Char) : List Char :=
  if f.spaced then dropBlanks false cs else cs

/-- The ASCII characters. -/
def asciiSet : CharSet := .range '\x00' '\x7F'

/-- A set as the flags read it: with the letters of the other case, if case is ignored. -/
def fold (f : Flags) (s : CharSet) : CharSet :=
  if !f.ignoreCase then s
  else if f.unicode then .folded s
  else .inter asciiSet (.folded s)

/-- A set or its complement; a complement always goes beyond ASCII. -/
def negateIf (f : Flags) (negated : Bool) (s : CharSet) : Option CharSet :=
  if !negated then some s
  else if f.unicode then some (.complement s)
  else none

/-- The set of one character as the flags read it. -/
def single (f : Flags) (c : Char) : CharSet :=
  if f.unicode || c.toNat < 128 then f.fold (.singleton c) else .singleton c

end Flags

/-! ### Escapes -/

/-- What an escape stands for. -/
inductive Atom where
  | char (c : Char)
  | set (s : CharSet)
  | look (l : Look)
deriving DecidableEq, Repr, Inhabited

/-- The characters that have a meaning of their own somewhere in an expression. -/
def isMeta (c : Char) : Bool :=
  ['\\', '.', '+', '*', '?', '(', ')', '|', '[', ']', '{', '}', '^', '$', '#', '&', '-',
    '~'].contains c

/-- The characters that stand for themselves behind a backslash. -/
def isEscapable (c : Char) : Bool :=
  isMeta c || (c.toNat < 128 && !c.isAlphanum && c != '<' && c != '>')

/-- The value of a hexadecimal digit. -/
def hexValue? (c : Char) : Option Nat :=
  if c.isDigit then some (c.toNat - '0'.toNat)
  else if 'a' ≤ c && c ≤ 'f' then some (c.toNat - 'a'.toNat + 10)
  else if 'A' ≤ c && c ≤ 'F' then some (c.toNat - 'A'.toNat + 10)
  else none

/-- The character of a code point, if it has one. -/
def charOf? (n : Nat) : Option Char :=
  if n.isValidChar then some (Char.ofNat n) else none

/-- A code point of a fixed number of digits; the blanks behind it are dropped. -/
def fixedHex (f : Flags) : (digits value : Nat) → List Char → Option (Char × List Char)
  | 0, value, cs => (charOf? value).map (·, cs)
  | n + 1, value, cs =>
    match cs with
    | [] => none
    | c :: rest => do fixedHex f n (16 * value + (← hexValue? c)) (f.skip rest)

/-- A code point up to a closing brace. -/
def bracedHex (f : Flags) : (fuel : Nat) → (value : Option Nat) → List Char →
    Option (Char × List Char)
  | 0, _, _ => none
  | fuel + 1, value, cs =>
    match f.skip cs with
    | [] => none
    | '}' :: rest => do return (← charOf? (← value), f.skip rest)
    | c :: rest => do bracedHex f fuel (some (16 * value.getD 0 + (← hexValue? c))) rest

/-- A code point by its digits, which may stand in braces. -/
def hexChar (f : Flags) (digits : Nat) (cs : List Char) : Option (Char × List Char) :=
  match f.skip cs with
  | '{' :: rest => bracedHex f (rest.length + 1) none rest
  | rest => do
    let (c, rest) ← fixedHex f digits 0 rest
    if digits == 2 && !f.unicode && 128 ≤ c.toNat then none else some (c, rest)

/-- The text before a closing brace, without what may be skipped. -/
def bracedName (f : Flags) : (fuel : Nat) → List Char → Option (List Char × List Char)
  | 0, _ => none
  | fuel + 1, cs =>
    match f.skip cs with
    | [] => none
    | '}' :: rest => some ([], rest)
    | c :: rest => do
      let (name, rest) ← bracedName f fuel rest
      return (c :: name, rest)

/-- Cuts a text at the first place where another one stands. -/
def cutAt (mark : List Char) : List Char → Option (List Char × List Char)
  | [] => none
  | c :: cs =>
    if mark.isPrefixOf (c :: cs) then some ([], (c :: cs).drop mark.length)
    else (cutAt mark cs).map fun (front, back) => (c :: front, back)

/-- The set that a property name stands for, and whether it is the complement that is meant. -/
def namedSet (name : List Char) : Option (CharSet × Bool) :=
  match cutAt ['!', '='] name with
  | some (kind, value) => (Property.ofNames? kind value).map (.property ·, true)
  | none =>
    match cutAt [':'] name with
    | some (kind, value) => (Property.ofNames? kind value).map (.property ·, false)
    | none =>
      match cutAt ['='] name with
      | some (kind, value) => (Property.ofNames? kind value).map (.property ·, false)
      | none => (Property.ofName? name).map (.property ·, false)

/-- A property behind `\p` or `\P`. -/
def propertySet (f : Flags) (negated : Bool) (cs : List Char) : Option (CharSet × List Char) := do
  if !f.unicode then none
  match f.skip cs with
  | [] => none
  | '\\' :: _ => none
  | '{' :: rest =>
    let (name, rest) ← bracedName f (rest.length + 1) rest
    let (s, other) ← namedSet name
    return (← f.negateIf (negated != other) (f.fold s), rest)
  | c :: rest =>
    let (s, _) ← namedSet [c]
    return (← f.negateIf negated (f.fold s), f.skip rest)

/-- The sets with a letter of their own: digits, blanks and the characters of words. -/
def letterSet (f : Flags) (c : Char) : Option CharSet :=
  if f.unicode then
    match c with
    | 'd' => some (.property .decimal)
    | 's' => some (.property .blank)
    | _ => some (.property .word)
  else
    match c with
    | 'd' => CharSet.asciiClass? "digit"
    | 's' => CharSet.asciiClass? "space"
    | _ => CharSet.asciiClass? "word"

/-- The letters and dashes of the name of a word edge. -/
def edgeName (f : Flags) : (fuel : Nat) → List Char → List Char × List Char
  | 0, cs => ([], cs)
  | fuel + 1, cs =>
    match cs with
    | c :: rest =>
      if c.isAlpha || c == '-' then
        let (name, rest) := edgeName f fuel (f.skip rest)
        (c :: name, rest)
      else ([], cs)
    | [] => ([], [])

/--
What follows `\b`: a kind of word edge in braces, or nothing.  Braces that do not
begin with a letter or a dash are left to be read as a repetition.
-/
def wordEdge (f : Flags) (cs : List Char) : Option (Look × List Char) :=
  let ascii := !f.unicode
  match cs with
  | '{' :: rest =>
    match f.skip rest with
    | [] => none
    | c :: more =>
      if c.isAlpha || c == '-' then
        match edgeName f (more.length + 1) (c :: more) with
        | (name, '}' :: rest) =>
          match String.ofList name with
          | "start" => some (.wordStart ascii, rest)
          | "end" => some (.wordStop ascii, rest)
          | "start-half" => some (.wordStartHalf ascii, rest)
          | "end-half" => some (.wordStopHalf ascii, rest)
          | _ => none
        | _ => none
      else some (.wordEdge ascii, cs)
  | _ => some (.wordEdge ascii, cs)

/-- Reads an escape, behind its backslash. -/
def escape (f : Flags) : List Char → Option (Atom × List Char)
  | [] => none
  | c :: rest =>
    if isEscapable c then some (.char c, rest)
    else match c with
      | 'x' => (hexChar f 2 rest).map fun (c, rest) => (.char c, rest)
      | 'u' => (hexChar f 4 rest).map fun (c, rest) => (.char c, rest)
      | 'U' => (hexChar f 8 rest).map fun (c, rest) => (.char c, rest)
      | 'p' => (propertySet f false rest).map fun (s, rest) => (.set s, rest)
      | 'P' => (propertySet f true rest).map fun (s, rest) => (.set s, rest)
      | 'd' => (letterSet f 'd').map (.set ·, rest)
      | 's' => (letterSet f 's').map (.set ·, rest)
      | 'w' => (letterSet f 'w').map (.set ·, rest)
      | 'D' => ((letterSet f 'd').bind (f.negateIf true)).map (.set ·, rest)
      | 'S' => ((letterSet f 's').bind (f.negateIf true)).map (.set ·, rest)
      | 'W' => ((letterSet f 'w').bind (f.negateIf true)).map (.set ·, rest)
      | 'a' => some (.char '\x07', rest)
      | 'f' => some (.char '\x0C', rest)
      | 't' => some (.char '\t', rest)
      | 'n' => some (.char '\n', rest)
      | 'r' => some (.char '\r', rest)
      | 'v' => some (.char '\x0B', rest)
      | 'A' => some (.look .start, rest)
      | 'z' => some (.look .stop, rest)
      | 'b' => (wordEdge f rest).map fun (l, rest) => (.look l, rest)
      | 'B' => some (.look (.noWordEdge !f.unicode), rest)
      | '<' => some (.look (.wordStart !f.unicode), rest)
      | '>' => some (.look (.wordStop !f.unicode), rest)
      | _ => none

end RowScope.Pattern.Regex
