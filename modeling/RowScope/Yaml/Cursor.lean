/-
A place in a document.

YAML is sensitive to lines and columns, so a place knows them beside the characters that
are still to come.  A carriage return with a line feed counts as one line break; there
are breaks beyond ASCII too.
-/

namespace RowScope.Yaml

/-! ### Kinds of characters -/

/-- Blanks and tabs. -/
def isBlank (c : Char) : Bool := c == ' ' || c == '\t'

/-- The characters that end a line. -/
def isBreak (c : Char) : Bool :=
  c == '\n' || c == '\r' || c == '\x85' || c == '\u2028' || c == '\u2029'

/-- The characters of names: letters, digits, dashes and underscores of ASCII. -/
def isNameChar (c : Char) : Bool := c.isAlphanum || c == '-' || c == '_'

/-- The characters that a document may contain. -/
def isAllowed (c : Char) : Bool :=
  let n := c.toNat
  n == 9 || n == 10 || n == 13 || (0x20 ≤ n && n ≤ 0x7E) || n == 0x85
    || (0xA0 ≤ n && n ≤ 0xFFFD) || 0x10000 ≤ n

/-- The mark of byte order, which may stand at the start of a line. -/
def byteOrderMark : Char := '\uFEFF'

/-! ### Places -/

/-- A place in a document. -/
structure Cursor where
  /-- The characters from here on. -/
  rest : List Char
  /-- How many characters came before. -/
  index : Nat
  line : Nat
  column : Nat
deriving Repr, Inhabited

namespace Cursor

/-- The start of a document. -/
def start (text : String) : Cursor := ⟨text.toList, 0, 0, 0⟩

/-- The character `n` places ahead. -/
def peek (c : Cursor) (n : Nat) : Option Char := (c.rest.drop n).head?

/-- The next character. -/
def head (c : Cursor) : Option Char := c.rest.head?

/-- Whether the next character is a given one. -/
def at_ (c : Cursor) (x : Char) : Bool := c.head == some x

/-- Whether the character `n` places ahead is white space or the end. -/
def spaceAt (c : Cursor) (n : Nat) : Bool :=
  match c.peek n with
  | none => true
  | some x => isBlank x || isBreak x

/-- Whether the line ends here. -/
def atLineEnd (c : Cursor) : Bool :=
  match c.head with
  | none => true
  | some x => isBreak x

/-- Whether a break comes next. -/
def atBreak (c : Cursor) : Bool := c.head.any isBreak

/-- Whether a blank or a tab comes next. -/
def atBlank (c : Cursor) : Bool := c.head.any isBlank

/-- The place behind the next character. -/
def next (c : Cursor) : Cursor :=
  match c.rest with
  | [] => c
  | _ :: rest => ⟨rest, c.index + 1, c.line, c.column + 1⟩

/-- The place behind the next `n` characters. -/
def skip (c : Cursor) : Nat → Cursor
  | 0 => c
  | n + 1 => skip c.next n

/-- The place behind all characters with a property. -/
def skipWhile (c : Cursor) (p : Char → Bool) : Cursor :=
  c.skip (c.rest.takeWhile p).length

/-- The place behind the rest of the line. -/
def toLineEnd (c : Cursor) : Cursor := c.skipWhile (!isBreak ·)

/-- The place behind a line break, and the break as a scalar keeps it. -/
def takeBreak (c : Cursor) : List Char × Cursor :=
  match c.rest with
  | '\r' :: '\n' :: rest => (['\n'], ⟨rest, c.index + 2, c.line + 1, 0⟩)
  | x :: rest =>
    if isBreak x then
      ([if x == '\u2028' || x == '\u2029' then x else '\n'], ⟨rest, c.index + 1, c.line + 1, 0⟩)
    else ([], c)
  | [] => ([], c)

/-- The place behind a line break, if there is one. -/
def skipBreak (c : Cursor) : Cursor := c.takeBreak.2

/-- Whether the line starts with a mark of three characters. -/
def atMark (c : Cursor) (x : Char) : Bool :=
  c.column == 0 && c.peek 0 == some x && c.peek 1 == some x && c.peek 2 == some x && c.spaceAt 3

/-- Whether the line starts or ends a document. -/
def atDocumentMark (c : Cursor) : Bool := c.atMark '-' || c.atMark '.'

/-- Skips blanks and a comment; only a line break or the end may follow. -/
def finishLine (c : Cursor) : Option Cursor :=
  let c := c.skipWhile isBlank
  let c := if c.at_ '#' then c.toLineEnd else c
  if c.atLineEnd then some c.skipBreak else none

end Cursor

end RowScope.Yaml
