/-
Literal values and bind parameters, as a statement writes them.

Each form of literal keeps the text it denotes, not the text it was written with, so
printing escapes it again by the rule of its form.
-/
import RowScope.Sql.Ident

namespace RowScope.Sql

/-- A literal or a bind parameter. -/
inductive Value where
  /-- A number, by its digits; `long` is the suffix `L`. -/
  | number (digits : String) (long : Bool)
  /-- A text between single quotes. -/
  | text (s : String)
  /-- A text between double quotes, in dialects where that is no identifier. -/
  | doubleQuoted (s : String)
  /-- A national text `N'..'`. -/
  | national (s : String)
  /-- Hexadecimal digits `X'..'`. -/
  | hex (digits : String)
  /-- Bits `B'..'`. -/
  | bits (digits : String)
  /-- A text with backslash escapes `E'..'`. -/
  | escaped (s : String)
  /-- A text with Unicode escapes `U&'..'`. -/
  | unicode (s : String)
  /-- A text between dollar quotes, with the tag between the dollars. -/
  | dollarQuoted (tag : Option String) (s : String)
  | boolean (b : Bool)
  | null
  /-- A bind parameter, with its mark. -/
  | placeholder (name : String)
deriving DecidableEq, Repr, Inhabited

namespace Value

/-- Upper-case hexadecimal digits, filled up with zeros to the given width. -/
def hexDigits (width n : Nat) : List Char :=
  let ds := (Nat.toDigits 16 n).map Char.toUpper
  List.replicate (width - ds.length) '0' ++ ds

/-- One character of a text with backslash escapes. -/
def escapeChar (c : Char) : List Char :=
  if c = '\'' then ['\\', '\'']
  else if c = '\\' then ['\\', '\\']
  else if c = '\n' then ['\\', 'n']
  else if c = '\t' then ['\\', 't']
  else if c = '\r' then ['\\', 'r']
  else [c]

/-- One character of a text with Unicode escapes: what is not ASCII is written by its number. -/
def unicodeChar (c : Char) : List Char :=
  if c = '\'' then ['\'', '\'']
  else if c = '\\' then ['\\', '\\']
  else if c.toNat < 128 then [c]
  else if c.toNat ≤ 0xFFFF then '\\' :: hexDigits 4 c.toNat
  else '\\' :: '+' :: hexDigits 6 c.toNat

/-- The text of a value. -/
def render : Value → String
  | number digits long => digits ++ (if long then "L" else "")
  | text s => quoted '\'' s
  | doubleQuoted s => quoted '"' s
  | national s => "N'" ++ s ++ "'"
  | hex digits => "X'" ++ digits ++ "'"
  | bits digits => "B'" ++ digits ++ "'"
  | escaped s => "E'" ++ String.ofList (s.toList.flatMap escapeChar) ++ "'"
  | unicode s => "U&'" ++ String.ofList (s.toList.flatMap unicodeChar) ++ "'"
  | dollarQuoted tag s => let mark := "$" ++ tag.getD "" ++ "$"; mark ++ s ++ mark
  | boolean b => if b then "true" else "false"
  | null => "NULL"
  | placeholder name => name

end Value

end RowScope.Sql
