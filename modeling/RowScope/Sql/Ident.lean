/-
Identifiers and the quoting they share with text literals.

A quoted text is written between two quote characters, and a quote inside it has to
be written twice.  The text held in a tree may or may not have been doubled already,
so `escapeQuotes` leaves alone what looks escaped: a quote behind a backslash, and
two quotes side by side.
-/

namespace RowScope.Sql

/-- An identifier as written: its characters and the quote it stood in, if any. -/
structure Ident where
  value : String
  quote : Option Char
deriving DecidableEq, Repr, Inhabited

/-! ### Quoting -/

/--
Doubles each quote `q` that stands alone.  A quote behind a backslash is kept, and so
is the pair in two adjacent quotes.  `escaped` says that the last character taken as
itself was a backslash; a kept quote behind a backslash does not change that.
-/
def escapeQuotes (q : Char) : (escaped : Bool) → List Char → List Char
  | _, [] => []
  | escaped, [c] =>
    if c = q then (if escaped then [c] else [c, c]) else [c]
  | escaped, c :: d :: rest =>
    if c = q then
      if escaped then c :: escapeQuotes q true (d :: rest)
      else if d = q then c :: d :: escapeQuotes q false rest
      else c :: c :: escapeQuotes q false (d :: rest)
    else c :: escapeQuotes q (c = '\\') (d :: rest)

/-- A text between two quotes, with the quotes inside it escaped. -/
def quoted (q : Char) (text : String) : String :=
  String.ofList (q :: (escapeQuotes q false text.toList ++ [q]))

namespace Ident

/-- An identifier written without quotes. -/
def bare (value : String) : Ident := ⟨value, none⟩

/-- An identifier written between quotes. -/
def withQuote (q : Char) (value : String) : Ident := ⟨value, some q⟩

/-- The text of an identifier; brackets enclose it as it is, other quotes escape it. -/
def render (i : Ident) : String :=
  match i.quote with
  | none => i.value
  | some '[' => "[" ++ i.value ++ "]"
  | some q => quoted q i.value

/-- The text of a dotted name. -/
def renderPath (is : List Ident) : String := ".".intercalate (is.map render)

end Ident

end RowScope.Sql
