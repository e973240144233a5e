/-
Regular expressions as they are written.

The reader keeps a stack of the groups that are still open.  Each `Scope` holds what
its group has read so far: the finished alternatives, the items of the one under way,
and the flags to go back to when the group ends.  A step reads one part of the
expression, so the number of steps is at most the number of characters, which is the
bound `read` passes down.

Look-around and references back to a group are no part of the language: an expression
that uses them cannot be read.
-/
import RowScope.Pattern.Regex.Class

namespace RowScope.Pattern.Regex

/-- A part of a sequence.  A switch of flags is a part that cannot be repeated. -/
structure Item where
  regex : Regex
  depth : Nat
  repeatable : Bool
deriving DecidableEq, Repr, Inhabited

/-- An item that has no parts of its own. -/
def Item.leaf (r : Regex) : Item := ⟨r, 0, true⟩

/-- How deeply several things are nested that stand side by side. -/
def depthOf (depths : List Nat) : Nat :=
  let deepest := depths.foldl max 0
  if depths.length < 2 then deepest else deepest + 1

/-- What has been read of a group. -/
structure Scope where
  /-- The finished alternatives, last first. -/
  branches : List (Nested Regex)
  /-- The items of the alternative under way, last first. -/
  items : List Item
  flags : Flags
deriving Inhabited

namespace Scope

/-- A group of which nothing has been read. -/
def fresh (f : Flags) : Scope := ⟨[], [], f⟩

/-- Adds an item. -/
def push (s : Scope) (i : Item) : Scope := { s with items := i :: s.items }

/-- The alternative under way. -/
def branch (s : Scope) : Nested Regex :=
  ⟨seqs (s.items.reverse.map Item.regex), depthOf (s.items.map Item.depth)⟩

/-- Ends an alternative. -/
def alternate (s : Scope) : Scope := ⟨s.branch :: s.branches, [], s.flags⟩

/-- All that was read. -/
def close (s : Scope) : Nested Regex :=
  let all := s.branch :: s.branches
  ⟨alts (all.reverse.map Nested.value), depthOf (all.map Nested.depth)⟩

/-- Repeats the last item. -/
def repeatLast (s : Scope) (least : Nat) (most : Option Nat) : Option Scope :=
  match s.items with
  | i :: rest =>
    if i.repeatable then
      some { s with items := ⟨.repeated i.regex least most, i.depth + 1, true⟩ :: rest }
    else none
  | [] => none

end Scope

/-! ### Repetitions -/

/-- Drops the mark of a repetition that prefers to be short; it matches the same texts. -/
def dropLazy : List Char → List Char
  | '?' :: rest => rest
  | cs => cs

/-- The digits of a number, with what may be skipped behind each of them. -/
def countDigits (f : Flags) : (fuel : Nat) → List Char → List Char × List Char
  | 0, cs => ([], cs)
  | fuel + 1, cs =>
    match cs with
    | c :: rest =>
      if c.isDigit then
        let (ds, rest) := countDigits f fuel (f.skip rest)
        (c :: ds, rest)
      else ([], cs)
    | [] => ([], [])

/-- A number between blanks: `none` inside if there is no digit. -/
def count (f : Flags) (cs : List Char) : Option (Option Nat × List Char) :=
  let cs := cs.dropWhile Text.isBlank
  let (ds, rest) := countDigits f cs.length cs
  let rest := f.skip (rest.dropWhile Text.isBlank)
  if ds.isEmpty then some (none, rest)
  else
    let n := ds.foldl (fun n d => 10 * n + (d.toNat - '0'.toNat)) 0
    if n < 4294967296 then some (some n, rest) else none

/-- The bounds of a counted repetition, behind its opening brace. -/
def bounds (f : Flags) (cs : List Char) : Option (Nat × Option Nat × List Char) := do
  let (least, rest) ← count f (f.skip cs)
  let least ← least
  match rest with
  | '}' :: rest => return (least, some least, rest)
  | ',' :: rest =>
    match f.skip rest with
    | '}' :: rest => return (least, none, rest)
    | rest =>
      let (most, rest) ← count f rest
      let most ← most
      let '}' :: rest := rest | none
      if most < least then none else return (least, some most, rest)
  | _ => none

/-! ### Groups -/

/-- Switches the flag of a letter. -/
def Flags.set (f : Flags) (c : Char) (on : Bool) : Flags :=
  match c with
  | 'i' => { f with ignoreCase := on }
  | 'm' => { f with byLine := on }
  | 's' => { f with dotAll := on }
  | 'R' => { f with anyLineEnd := on }
  | 'u' => { f with unicode := on }
  | 'x' => { f with spaced := on }
  | _ => f

/--
Reads letters of flags up to the colon or bracket behind them, which stays.  Each may
stand once, and so may the dash that turns the letters behind it off.
-/
def readFlags : (seen : List Char) → Flags → List Char → Option (Flags × List Char)
  | _, _, [] => none
  | seen, f, c :: rest =>
    if c = ':' || c = ')' then
      if seen.head? = some '-' then none else some (f, c :: rest)
    else if seen.contains c then none
    else if c = '-' then readFlags (c :: seen) f rest
    else if ['i', 'm', 's', 'U', 'u', 'R', 'x'].contains c then
      readFlags (c :: seen) (f.set c !seen.contains '-') rest
    else none

/-- Whether a character may stand in the name of a group. -/
def isNameChar (first : Bool) (c : Char) : Bool :=
  c == '_' || Text.isLetter c
    || (!first && (c == '.' || c == '[' || c == ']' || Text.isNumeric c))

/-- The name of a group, up to the angle bracket that ends it. -/
def groupName : (first : Bool) → List Char → Option (List Char × List Char)
  | _, [] => none
  | first, c :: rest =>
    if c = '>' then (if first then none else some ([], rest))
    else if isNameChar first c then
      (groupName false rest).map fun (name, rest) => (c :: name, rest)
    else none

/-- How a group begins. -/
inductive Opening where
  /-- The flags change up to the end of the group around. -/
  | switch (f : Flags)
  | group (name : Option (List Char)) (f : Flags)
deriving Inhabited

/-- Reads the start of a group, behind its bracket. -/
def opening (f : Flags) (cs : List Char) : Option (Opening × List Char) := do
  match f.skip cs with
  | '?' :: '=' :: _ | '?' :: '!' :: _ => none
  | '?' :: '<' :: '=' :: _ | '?' :: '<' :: '!' :: _ => none
  | '?' :: 'P' :: '<' :: rest | '?' :: '<' :: rest =>
    let (name, rest) ← groupName true rest
    return (.group (some name) f, rest)
  | '?' :: rest =>
    let (f', rest') ← readFlags [] f rest
    match rest' with
    | ')' :: rest'' => if rest.head? = some ')' then none else return (.switch f', rest'')
    | _ :: rest'' => return (.group none f', rest'')
    | [] => none
  | rest => return (.group none f, rest)

/-! ### The whole expression -/

/-- What a dot stands for. -/
def dot (f : Flags) : Option Regex :=
  if !f.unicode then none
  else if f.dotAll then some (.set (.complement .empty))
  else if f.anyLineEnd then some (.set (.complement (.union (.singleton '\r') (.singleton '\n'))))
  else some (.set (.complement (.singleton '\n')))

/-- What a caret stands for. -/
def caret (f : Flags) : Look :=
  if !f.byLine then .start else if f.anyLineEnd then .anyLineStart else .lineStart

/-- What a dollar sign stands for. -/
def dollar (f : Flags) : Look :=
  if !f.byLine then .stop else if f.anyLineEnd then .anyLineStop else .lineStop

/-- The expression of an escape. -/
def ofAtom (f : Flags) : Atom → Regex
  | .char c => Regex.set (f.single c)
  | .set s => Regex.set s
  | .look l => Regex.look l

/-- Reads an expression to its end; `outer` are the groups around the one under way. -/
def readFrom : (fuel : Nat) → (names : List (List Char)) → (outer : List Scope) → Scope →
    List Char → Option (Nested Regex)
  | 0, _, _, _, _ => none
  | fuel + 1, names, outer, s, cs =>
    let f := s.flags
    match f.skip cs with
    | [] => if outer.isEmpty then some s.close else none
    | '(' :: rest => do
      match ← opening f rest with
      | (.switch f', rest) =>
        readFrom fuel names outer { s.push ⟨.empty, 0, false⟩ with flags := f' } rest
      | (.group name f', rest) =>
        if name.any names.contains then none
        else readFrom fuel (name.toList ++ names) (s :: outer) (.fresh f') rest
    | ')' :: rest =>
      match outer with
      | [] => none
      | around :: outer =>
        let r := s.close
        readFrom fuel names outer (around.push ⟨r.value, r.depth + 1, true⟩) rest
    | '|' :: rest => readFrom fuel names outer s.alternate rest
    | '[' :: rest => do
      let (members, rest) ← readClass f rest
      readFrom fuel names outer (s.push ⟨.set members.value, members.depth, true⟩) rest
    | '?' :: rest => do readFrom fuel names outer (← s.repeatLast 0 (some 1)) (dropLazy rest)
    | '*' :: rest => do readFrom fuel names outer (← s.repeatLast 0 none) (dropLazy rest)
    | '+' :: rest => do readFrom fuel names outer (← s.repeatLast 1 none) (dropLazy rest)
    | '{' :: rest => do
      let (least, most, rest) ← bounds f rest
      readFrom fuel names outer (← s.repeatLast least most) (dropLazy (f.skip rest))
    | '\\' :: rest => do
      let (a, rest) ← escape f rest
      readFrom fuel names outer (s.push (.leaf (ofAtom f a))) rest
    | '.' :: rest => do readFrom fuel names outer (s.push (.leaf (← dot f))) rest
    | '^' :: rest => readFrom fuel names outer (s.push (.leaf (.look (caret f)))) rest
    | '$' :: rest => readFrom fuel names outer (s.push (.leaf (.look (dollar f)))) rest
    | c :: rest => readFrom fuel names outer (s.push (.leaf (.set (f.single c)))) rest

/-- How deeply the parts of an expression may be nested. -/
def maxDepth : Nat := 250

/-- Reads an expression. -/
def read (text : String) : Option Regex := do
  let cs := text.toList
  let r ← readFrom (cs.length + 1) [] [] (.fresh {}) cs
  if r.depth ≤ maxDepth then some r.value else none

/-! ### Size -/

/-- How many sets and positions an expression has, once its counted repetitions are written out. -/
def size : Regex → Nat
  | empty => 0
  | set _ | look _ => 1
  | seq r s | alt r s => r.size + s.size
  | repeated r least most => r.size * max 1 (most.getD least)

/-- How large an expression may be. -/
def maxSize : Nat := 327680

/-- Reads an expression and refuses one that is too large to search with. -/
def compile (text : String) : Option Regex :=
  (read text).filter fun r => r.size ≤ maxSize

end RowScope.Pattern.Regex
