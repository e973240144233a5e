/-
The text of scalars.

Plain and quoted scalars may run over several lines; the white space between two words
is a `Gap`, and what it stands for depends on the line breaks in it.  A block scalar
keeps its lines, or folds them, below a line of its own.

The readers are bounded by the number of characters.
-/
import RowScope.Yaml.Cursor

namespace RowScope.Yaml

/-- How a scalar is written. -/
inductive Style where
  | plain
  | singleQuoted
  | doubleQuoted
  | literal
  | folded
deriving DecidableEq, Repr, Inhabited

/-! ### White space between words -/

/-- The white space between two words. -/
structure Gap where
  /-- Whether a line has been broken. -/
  broken : Bool := false
  /-- The blanks, if no line has been broken. -/
  blanks : List Char := []
  /-- The first line break. -/
  first : List Char := []
  /-- The line breaks behind the first one. -/
  more : List Char := []
deriving Repr, Inhabited

namespace Gap

/-- What a gap stands for: one line break is folded to a blank, of several the first goes. -/
def text (g : Gap) : List Char :=
  if !g.broken then g.blanks
  else if g.first.head? == some '\n' then (if g.more.isEmpty then [' '] else g.more)
  else g.first ++ g.more

/-- Reads a gap; at the start of a line no tab may stand before column `indent`. -/
def read (indent : Nat) : (fuel : Nat) → Gap → Cursor → Option (Gap × Cursor)
  | 0, _, _ => none
  | fuel + 1, g, c =>
    match c.head with
    | none => some (g, c)
    | some x =>
      if isBlank x then
        if x == '\t' && g.broken && c.column < indent then none
        else read indent fuel (if g.broken then g else { g with blanks := g.blanks ++ [x] }) c.next
      else if isBreak x then
        let (text, c) := c.takeBreak
        if g.broken then read indent fuel { g with more := g.more ++ text } c
        else read indent fuel { broken := true, first := text } c
      else some (g, c)

end Gap

/-! ### Plain scalars -/

/-- Whether a character separates the parts of a flow collection. -/
def isFlowMark (c : Char) : Bool := [',', '[', ']', '{', '}'].contains c

/-- Reads a word of a plain scalar; in a flow collection a colon must not touch a mark. -/
def plainWord (flow : Bool) : (fuel : Nat) → Cursor → Option (List Char × Cursor)
  | 0, _ => none
  | fuel + 1, c =>
    match c.head with
    | none => some ([], c)
    | some x =>
      if c.spaceAt 0 then some ([], c)
      else if flow && x == ':' && (c.peek 1).any (fun y => isFlowMark y || y == '?') then none
      else if (x == ':' && c.spaceAt 1) || (flow && isFlowMark x) then some ([], c)
      else (plainWord flow fuel c.next).map fun (word, c) => (x :: word, c)

/--
Reads a plain scalar.  Outside of flow collections its lines are indented by `indent`.
The result tells whether white space at the end has broken a line.
-/
def plainScalar (flow : Bool) (indent : Nat) :
    (fuel : Nat) → (text : List Char) → Gap → Cursor → Option (List Char × Bool × Cursor)
  | 0, _, _, _ => none
  | fuel + 1, text, g, c =>
    if c.atDocumentMark || c.at_ '#' then some (text, g.broken, c)
    else do
      let (word, c) ← plainWord flow (c.rest.length + 1) c
      let (text, g) := if word.isEmpty then (text, g) else (text ++ g.text ++ word, {})
      if !c.rest.isEmpty && c.spaceAt 0 then
        let (g, c) ← Gap.read indent (c.rest.length + 1) g c
        if !flow && c.column < indent then return (text, g.broken, c)
        else plainScalar flow indent fuel text g c
      else return (text, g.broken, c)

/-! ### Quoted scalars -/

/-- The value of a hexadecimal digit. -/
def hexDigit? (c : Char) : Option Nat :=
  if c.isDigit then some (c.toNat - '0'.toNat)
  else if 'a' ≤ c && c ≤ 'f' then some (c.toNat - 'a'.toNat + 10)
  else if 'A' ≤ c && c ≤ 'F' then some (c.toNat - 'A'.toNat + 10)
  else none

/-- The value of hexadecimal digits. -/
def hexValue? (cs : List Char) : Option Nat :=
  cs.foldlM (fun n c => (hexDigit? c).map (16 * n + ·)) 0

/-- The characters that an escape of one letter stands for. -/
def escapes : List (Char × Char) :=
  [('0', '\x00'), ('a', '\x07'), ('b', '\x08'), ('t', '\t'), ('\t', '\t'), ('n', '\n'),
   ('v', '\x0B'), ('f', '\x0C'), ('r', '\r'), ('e', '\x1B'), (' ', ' '), ('"', '"'), ('/', '/'),
   ('\\', '\\'), ('N', '\x85'), ('_', '\xA0'), ('L', '\u2028'), ('P', '\u2029')]

/-- How many digits follow an escape by number. -/
def escapeDigits : List (Char × Nat) := [('x', 2), ('u', 4), ('U', 8)]

/-- Reads an escape, behind its backslash. -/
def escapedChar (c : Cursor) : Option (Char × Cursor) := do
  let letter ← c.head
  match escapes.lookup letter with
  | some x => return (x, c.next)
  | none =>
    let digits ← escapeDigits.lookup letter
    let ds := c.next.rest.take digits
    if ds.length < digits then none
    let n ← hexValue? ds
    if n.isValidChar then return (Char.ofNat n, c.skip (digits + 1)) else none

/-- Reads a word of a quoted scalar; the flag tells that an escaped line break ended it. -/
def quotedWord (quote : Char) : (fuel : Nat) → Cursor → Option (List Char × Bool × Cursor)
  | 0, _ => none
  | fuel + 1, c =>
    match c.head with
    | none => some ([], false, c)
    | some x =>
      if c.spaceAt 0 then some ([], false, c)
      else if quote == '\'' && x == '\'' && c.peek 1 == some '\'' then
        (quotedWord quote fuel (c.skip 2)).map fun (word, r) => ('\'' :: word, r)
      else if x == quote then some ([], false, c)
      else if quote == '"' && x == '\\' then
        if c.next.atBreak then some ([], true, c.next.skipBreak)
        else do
          let (y, c) ← escapedChar c.next
          let (word, r) ← quotedWord quote fuel c
          return (y :: word, r)
      else (quotedWord quote fuel c.next).map fun (word, r) => (x :: word, r)

/-- Reads a quoted scalar, behind its opening quote. -/
def quotedScalar (quote : Char) : (fuel : Nat) → (text : List Char) → Cursor →
    Option (List Char × Cursor)
  | 0, _, _ => none
  | fuel + 1, text, c =>
    if c.atDocumentMark || c.rest.isEmpty then none
    else do
      let (word, escaped, c) ← quotedWord quote (c.rest.length + 1) c
      if c.at_ quote then return (text ++ word, c.next)
      else
        let (g, c) ← Gap.read 0 (c.rest.length + 1) { broken := escaped } c
        quotedScalar quote fuel (text ++ word ++ g.text) c

/-! ### Block scalars -/

/-- The last line breaks of a block scalar: dropped, one of them kept, or all of them. -/
inductive Chomping where
  | strip
  | clip
  | keep
deriving DecidableEq, Repr, Inhabited

/-- Reads a sign for the last line breaks. -/
def chomping? (c : Cursor) : Option (Chomping × Cursor) :=
  if c.at_ '+' then some (.keep, c.next)
  else if c.at_ '-' then some (.strip, c.next)
  else none

/-- Reads a digit for the indentation; zero is none. -/
def increment? (c : Cursor) : Option (Option Nat × Cursor) :=
  match c.head with
  | some x =>
    if x == '0' then none
    else if x.isDigit then some (some (x.toNat - '0'.toNat), c.next)
    else some (none, c)
  | none => some (none, c)

/-- The signs behind the indicator of a block scalar, in either order. -/
def blockHeader (c : Cursor) : Option (Chomping × Option Nat × Cursor) :=
  match chomping? c with
  | some (chomping, c) => (increment? c).map fun (increment, c) => (chomping, increment, c)
  | none => do
    let (increment, c) ← increment? c
    if increment.isNone then return (.clip, none, c)
    match chomping? c with
    | some (chomping, c) => return (chomping, increment, c)
    | none => return (.clip, increment, c)

/--
Skips indentation and empty lines, up to the indentation `indent` if it is known.  The
results are the line breaks and the largest column that was met.
-/
def blockBreaks (indent : Option Nat) : (fuel : Nat) → (breaks : List Char) → (deepest : Nat) →
    Cursor → Option (List Char × Nat × Cursor)
  | 0, _, _, _ => none
  | fuel + 1, breaks, deepest, c =>
    let inside (c : Cursor) : Bool := indent.all (c.column < ·)
    let blanks := (c.rest.takeWhile (· == ' ')).length
    let c := c.skip (match indent with
      | none => blanks
      | some n => min blanks (n - c.column))
    let deepest := max deepest c.column
    if inside c && c.at_ '\t' then none
    else if c.atBreak then
      let (text, c) := c.takeBreak
      blockBreaks indent fuel (breaks ++ text) deepest c
    else some (breaks, deepest, c)

/-- The lines of a block scalar so far. -/
structure BlockText where
  text : List Char := []
  /-- The break of the last line, not yet written. -/
  lineBreak : List Char := []
  /-- The breaks of the empty lines behind it. -/
  breaks : List Char := []
  /-- Whether the last line starts with a blank. -/
  blank : Bool := false
deriving Repr, Inhabited

/--
The text in front of the next line: a break between two lines that start without a blank
may fold.
-/
def BlockText.join (b : BlockText) (folds nextBlank : Bool) : List Char :=
  if folds && b.lineBreak.head? == some '\n' && !b.blank && !nextBlank then
    (if b.breaks.isEmpty then [' '] else b.breaks)
  else b.lineBreak ++ b.breaks

/-- Reads the lines of a block scalar. -/
def blockLines (folds : Bool) (indent : Nat) : (fuel : Nat) → BlockText → Cursor →
    Option (BlockText × Cursor)
  | 0, _, _ => none
  | fuel + 1, b, c =>
    if c.column == indent && !c.rest.isEmpty then do
      let line := c.rest.takeWhile (!isBreak ·)
      let text := b.text ++ b.join folds c.atBlank ++ line
      let blank := c.atBlank
      let (lineBreak, c) := c.toLineEnd.takeBreak
      let (breaks, _, c) ← blockBreaks (some indent) (c.rest.length + 1) [] 0 c
      blockLines folds indent fuel ⟨text, lineBreak, breaks, blank⟩ c
    else some (b, c)

/-- Reads a block scalar behind its indicator; `parent` is the indentation of what holds it. -/
def blockScalar (folds : Bool) (parent : Int) (c : Cursor) : Option (List Char × Cursor) := do
  let (chomping, increment, c) ← blockHeader c
  let c ← c.finishLine
  let known := increment.map fun (n : Nat) => if 0 ≤ parent then (parent + n).toNat else n
  let (breaks, deepest, c) ← blockBreaks known (c.rest.length + 1) [] 0 c
  let indent := known.getD (max (max deepest (parent + 1).toNat) 1)
  let (b, c) ← blockLines folds indent (c.rest.length + 1) { breaks } c
  return (match chomping with
    | .strip => b.text
    | .clip => b.text ++ b.lineBreak
    | .keep => b.text ++ b.lineBreak ++ b.breaks, c)

end RowScope.Yaml
