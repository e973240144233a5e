/-
The tokens of a SQL text.

A text is cut into words, literals and symbols; blanks and comments only leave behind
the mark that something stood between two tokens.  A word keeps its characters and, if
it was not quoted, its spelling as a keyword, since keywords are told from names by
position only.

An operator is the longest known one that the text starts with.  Where operators may
be made up freely, the operator characters that follow belong to it as well.
-/
import RowScope.Sql.Dialect
import RowScope.Sql.Value

namespace RowScope.Sql

/-- A token.  The spelling `key` of an unquoted word is in upper case; a quoted word has none. -/
inductive Token where
  | word (text : String) (quote : Option Char) (key : String)
  | literal (v : Value)
  | symbol (text : String)
deriving DecidableEq, Repr, Inhabited

/-- A token and whether a blank or a comment stood in front of it. -/
structure Lexeme where
  token : Token
  spaced : Bool
deriving DecidableEq, Repr, Inhabited

namespace Token

/-! ### Words -/

/-- The upper case of a letter, for those letters whose upper case is plain. -/
def upperChar (c : Char) : List Char :=
  if c.toNat < 128 then [c.toUpper]
  else match c with
    | 'ſ' => ['S']
    | 'ı' => ['I']
    | 'ß' => ['S', 'S']
    | 'ﬀ' => ['F', 'F']
    | 'ﬁ' => ['F', 'I']
    | 'ﬂ' => ['F', 'L']
    | 'ﬃ' => ['F', 'F', 'I']
    | 'ﬄ' => ['F', 'F', 'L']
    | 'ﬅ' => ['S', 'T']
    | 'ﬆ' => ['S', 'T']
    | _ => [c]

/-- The spelling by which a word is compared with keywords. -/
def keyOf (cs : List Char) : String := String.ofList (cs.flatMap upperChar)

/-- An unquoted word. -/
def ofWord (cs : List Char) : Token := .word (String.ofList cs) none (keyOf cs)

/-- The text of a token. -/
def render : Token → String
  | .word text quote _ => Ident.render ⟨text, quote⟩
  | .literal v => v.render
  | .symbol text => text

/-! ### Texts between quotes -/

/-- The character a backslash escape stands for. -/
def unescaped (c : Char) : Char :=
  match c with
  | '0' => Char.ofNat 0
  | 'a' => Char.ofNat 7
  | 'b' => Char.ofNat 8
  | 'f' => Char.ofNat 12
  | 'n' => '\n'
  | 'r' => '\r'
  | 't' => '\t'
  | 'Z' => Char.ofNat 26
  | c => c

/--
The characters up to the closing quote, a doubled quote read as one.  The result holds
them and what follows the quote.
-/
def untilQuote (d : Dialect) (escapes : Bool) (q : Char) :
    List Char → Option (List Char × List Char)
  | [] => none
  | [c] => if c = q then some ([], []) else none
  | c :: n :: rest =>
    if c = q then
      if n = q then (untilQuote d escapes q rest).map fun (s, r) => (q :: s, r)
      else some ([], n :: rest)
    else if escapes && c = '\\' then
      if d.keepsWildcardEscapes && (n = '%' || n = '_') then
        (untilQuote d escapes q rest).map fun (s, r) => (c :: n :: s, r)
      else (untilQuote d escapes q rest).map fun (s, r) => (unescaped n :: s, r)
    else (untilQuote d escapes q (n :: rest)).map fun (s, r) => (c :: s, r)

/-- The value of a digit. -/
def digitValue (c : Char) : Nat :=
  if c.isDigit then c.toNat - '0'.toNat
  else if 'a' ≤ c ∧ c ≤ 'f' then c.toNat - 'a'.toNat + 10
  else if 'A' ≤ c ∧ c ≤ 'F' then c.toNat - 'A'.toNat + 10
  else 99

/-- The number that digits to a base denote. -/
def digitsValue (base : Nat) (cs : List Char) : Nat :=
  cs.foldl (fun n c => base * n + digitValue c) 0

/-- A character by its number; zero, and what is no character, are refused. -/
def charOf (n : Nat) : Option Char :=
  if n = 0 then none
  else if h : n.isValidChar then some (Char.ofNatAux n h) else none

/-- As many digits to a base as there are, up to a number of them. -/
def takeDigits (base : Nat) : Nat → List Char → List Char × List Char
  | 0, cs => ([], cs)
  | _, [] => ([], [])
  | n + 1, c :: cs =>
    if digitValue c < base then
      let (ds, rest) := takeDigits base n cs
      (c :: ds, rest)
    else ([], c :: cs)

/-- The character behind a backslash of an escaped text, and what follows it. -/
def escapedChar : List Char → Option (Char × List Char)
  | [] => none
  | c :: cs =>
    match c with
    | 'b' => some (Char.ofNat 8, cs)
    | 'f' => some (Char.ofNat 12, cs)
    | 'n' => some ('\n', cs)
    | 'r' => some ('\r', cs)
    | 't' => some ('\t', cs)
    | 'u' =>
      let (ds, rest) := takeDigits 16 4 cs
      if ds.length = 4 then (charOf (digitsValue 16 ds)).map (·, rest) else none
    | 'U' =>
      let (ds, rest) := takeDigits 16 8 cs
      if ds.length = 8 then (charOf (digitsValue 16 ds)).map (·, rest) else none
    | 'x' =>
      let (ds, rest) := takeDigits 16 2 cs
      if ds.isEmpty then some ('x', cs) else (charOf (digitsValue 16 ds)).map (·, rest)
    | _ =>
      if digitValue c < 8 then
        let (ds, rest) := takeDigits 8 2 cs
        (charOf (digitsValue 8 (c :: ds) % 256)).map (·, rest)
      else (if c.toNat = 0 then none else some (c, cs))

/-- The characters of an escaped text up to its closing quote, and what follows it. -/
def untilEscapedQuote : Nat → List Char → Option (List Char × List Char)
  | 0, _ => none
  | _, [] => none
  | n + 1, c :: cs =>
    if c = '\'' then
      match cs with
      | '\'' :: rest => (untilEscapedQuote n rest).map fun (s, r) => ('\'' :: s, r)
      | _ => some ([], cs)
    else if c = '\\' then do
      let (e, rest) ← escapedChar cs
      let (s, r) ← untilEscapedQuote n rest
      return (e :: s, r)
    else (untilEscapedQuote n cs).map fun (s, r) => (c :: s, r)

/-- The characters of a text with Unicode escapes up to its closing quote, and what follows it. -/
def untilUnicodeQuote : Nat → List Char → Option (List Char × List Char)
  | 0, _ => none
  | _, [] => none
  | n + 1, c :: cs =>
    if c = '\'' then
      match cs with
      | '\'' :: rest => (untilUnicodeQuote n rest).map fun (s, r) => ('\'' :: s, r)
      | _ => some ([], cs)
    else if c = '\\' then
      match cs with
      | '\\' :: rest => (untilUnicodeQuote n rest).map fun (s, r) => ('\\' :: s, r)
      | '+' :: rest =>
        let (ds, rest) := takeDigits 16 6 rest
        if ds.length = 6 then do
          let e ← charOf (digitsValue 16 ds)
          let (s, r) ← untilUnicodeQuote n rest
          return (e :: s, r)
        else none
      | _ =>
        let (ds, rest) := takeDigits 16 4 cs
        if ds.length = 4 then do
          let e ← charOf (digitsValue 16 ds)
          let (s, r) ← untilUnicodeQuote n rest
          return (e :: s, r)
        else none
    else (untilUnicodeQuote n cs).map fun (s, r) => (c :: s, r)

/-- The characters up to a closing mark, and what follows it. -/
def untilMark (mark : List Char) : List Char → Option (List Char × List Char)
  | [] => if mark.isEmpty then some ([], []) else none
  | c :: cs =>
    if mark.isPrefixOf (c :: cs) then some ([], (c :: cs).drop mark.length)
    else (untilMark mark cs).map fun (s, r) => (c :: s, r)

/-- A parameter or a dollar-quoted text, behind its first dollar. -/
def dollar (d : Dialect) (cs : List Char) : Option (Token × List Char) :=
  let tag := cs.takeWhile fun c =>
    Text.isLetter c || Text.isNumeric c || c == '_' || (c == '$' && d.dollarParameters)
  let rest := cs.dropWhile fun c =>
    Text.isLetter c || Text.isNumeric c || c == '_' || (c == '$' && d.dollarParameters)
  match rest with
  | '$' :: body =>
    if d.dollarParameters then some (.literal (.placeholder (String.ofList ('$' :: tag))), rest)
    else
      (untilMark ('$' :: (tag ++ ['$'])) body).map fun (s, r) =>
        (.literal (.dollarQuoted (if tag.isEmpty then none else some (String.ofList tag))
          (String.ofList s)), r)
  | _ => some (.literal (.placeholder (String.ofList ('$' :: tag))), rest)

/-! ### Numbers -/

/-- Digits, with single underscores between them where the dialect groups digits. -/
def digits (d : Dialect) (isDigit : Char → Bool) : List Char → List Char × List Char
  | [] => ([], [])
  | [c] => if isDigit c then ([c], []) else ([], [c])
  | c :: n :: rest =>
    if isDigit c || (d.groupsDigits && c == '_' && digitValue n < 16) then
      let (ds, r) := digits d isDigit (n :: rest)
      (c :: ds, r)
    else ([], c :: n :: rest)

/-- An exponent, if one follows. -/
def exponent : List Char → List Char × List Char
  | [] => ([], [])
  | e :: cs =>
    if e == 'e' || e == 'E' then
      let (sign, rest) := match cs with
        | s :: r => if s == '+' || s == '-' then ([s], r) else ([], cs)
        | [] => ([], [])
      let ds := rest.takeWhile Char.isDigit
      if ds.isEmpty then ([], e :: cs) else (e :: (sign ++ ds), rest.dropWhile Char.isDigit)
    else ([], e :: cs)

/--
A number, or the period that did not turn out to start one.  Where words may start with
digits, those that go on with a letter are a word.
-/
def number (d : Dialect) (cs : List Char) : Token × List Char :=
  let (whole, rest) := digits d Char.isDigit cs
  match whole, rest with
  | ['0'], 'x' :: hex =>
    let (ds, r) := digits d (fun c => decide (digitValue c < 16)) hex
    (.literal (.hex (String.ofList ds)), r)
  | _, _ =>
    let (point, rest) := match rest with
      | '.' :: r => (['.'], r)
      | _ => ([], rest)
    let (fraction, rest) := digits d Char.isDigit rest
    if whole.isEmpty && fraction.isEmpty then (.symbol ".", rest)
    else
      let (power, rest) := exponent rest
      let word := if d.numericWords && power.isEmpty then rest.takeWhile d.continuesIdent else []
      if !word.isEmpty then
        (ofWord (whole ++ point ++ fraction ++ word), rest.drop word.length)
      else
        let (long, rest) := match rest with
          | 'L' :: r => (true, r)
          | _ => (false, rest)
        (.literal (.number (String.ofList (whole ++ point ++ fraction ++ power)) long), rest)

/-! ### Operators -/

/-- The characters an operator may be made up of. -/
def isOperatorChar (c : Char) : Bool :=
  ['+', '-', '*', '/', '<', '>', '=', '~', '!', '@', '#', '%', '^', '&', '|', '`', '?'].contains c

/--
The known symbols, each ahead of its own beginnings.  The flag tells which of them go
on with any operator characters, where operators may be made up.
-/
def symbols : List (String × Bool) :=
  [("->>", true), ("->", true), ("-", true), ("+", false), ("*", false), ("/", false),
   ("%", true), ("||/", true), ("||", true), ("|/", true), ("|", true),
   ("=>", false), ("==", false), ("=", false),
   ("!~~*", false), ("!~~", false), ("!~*", false), ("!~", false), ("!!", false), ("!=", false),
   ("!", false), ("<=>", true), ("<=", true), ("<>", true), ("<<", true), ("<@", true),
   ("<", true), (">=", true), (">>", true), (">", true), ("::", false), (":=", false),
   (":", false), ("&&", true), ("&", true), ("^@", false), ("^", false), ("~~*", true),
   ("~~", true), ("~*", true), ("~", true), ("#>>", true), ("#>", true), ("#-", true),
   ("#", true), ("@@", false), ("@>", true), ("@?", true), ("@", true), ("(", false),
   (")", false), (",", false), (";", false), ("\\", false), ("[", false), ("]", false),
   ("\x7b", false), ("\x7d", false)]

/-- The symbols that only some dialects have. -/
def dialectSymbols (d : Dialect) : List (String × Bool) :=
  (if d.pipes then [("|>", false)] else [])
  ++ (if d.slashDivides then [("//", false)] else [])
  ++ (if d.questionOperators then
      [("?||", false), ("?-|", false), ("?|", false), ("?&", false), ("?-", false), ("?#", false),
       ("?", false)] else [])

/-- The symbol a text starts with. -/
def symbol? (d : Dialect) (cs : List Char) : Option (Token × List Char) :=
  match (dialectSymbols d ++ symbols).find? fun (s, _) => s.toList.isPrefixOf cs with
  | none => none
  | some (s, grows) =>
    let rest := cs.drop s.length
    let more := if grows && d.freeOperators then rest.takeWhile isOperatorChar else []
    some (.symbol (if s = "!=" then "<>" else s ++ String.ofList more), rest.drop more.length)

/-! ### One step -/

/-- What follows a comment of several lines; `depth` counts the comments still open. -/
def skipComment (nests : Bool) : (depth : Nat) → List Char → Option (List Char)
  | _, [] => none
  | _, [_] => none
  | depth, c :: n :: rest =>
    if c = '*' ∧ n = '/' then
      match depth with
      | 0 => some rest
      | depth + 1 => skipComment nests depth rest
    else if nests ∧ c = '/' ∧ n = '*' then skipComment nests (depth + 1) rest
    else skipComment nests depth (n :: rest)

/-- What follows a comment that ends with its line. -/
def skipLine (d : Dialect) (cs : List Char) : List Char :=
  (cs.dropWhile fun c => c != '\n' && !(c == '\r' && d == .postgres)).drop 1

/-- A word that starts with the given characters. -/
def wordFrom (d : Dialect) (start rest : List Char) : Token × List Char :=
  (ofWord (start ++ rest.takeWhile d.continuesIdent), rest.dropWhile d.continuesIdent)

/-- A text literal whose quote has been read. -/
def textLiteral (d : Dialect) (make : String → Value) (cs : List Char) :
    Option (Option Token × List Char) :=
  (untilQuote d d.backslashEscapes '\'' cs).map fun (s, r) =>
    (some (.literal (make (String.ofList s))), r)

/-- The quote that closes a quoted identifier. -/
def closing (q : Char) : Char := if q = '[' then ']' else q

/-- The token behind a letter that may introduce a literal; the letter has been read. -/
def prefixed? (d : Dialect) (c : Char) (cs : List Char) :
    Option (Option (Option Token × List Char)) :=
  match c.toUpper, cs with
  | 'B', '\'' :: rest =>
    if d.bitTexts then
      some ((untilQuote d false '\'' rest).map fun (s, r) =>
        (some (.literal (.bits (String.ofList s))), r))
    else none
  | 'N', '\'' :: rest => some (textLiteral d .national rest)
  | 'E', '\'' :: rest =>
    if d.escapeTexts then
      some ((untilEscapedQuote (rest.length + 1) rest).map fun (s, r) =>
        (some (.literal (.escaped (String.ofList s))), r))
    else none
  | 'U', '&' :: '\'' :: rest =>
    if d.escapeTexts then
      some ((untilUnicodeQuote (rest.length + 1) rest).map fun (s, r) =>
        (some (.literal (.unicode (String.ofList s))), r))
    else none
  | 'X', '\'' :: rest =>
    some ((untilQuote d true '\'' rest).map fun (s, r) =>
      (some (.literal (.hex (String.ofList s))), r))
  | _, _ => none

/-- A symbol, a parameter, a blank or a name: whatever is no literal and no comment. -/
def plain (d : Dialect) (c : Char) (cs : List Char) : Option (Option Token × List Char) :=
  let n := cs.headD ' '
  if (c == '#' || c == '@') && d.startsIdent c && n != ' ' && d.continuesIdent n then
    let (t, r) := wordFrom d [c] cs
    some (some t, r)
  else match symbol? d (c :: cs) with
    | some (t, r) => some (some t, r)
    | none =>
      if c == '?' then
        some (some (.literal (.placeholder (String.ofList (c :: cs.takeWhile Text.isNumeric)))),
          cs.dropWhile Text.isNumeric)
      else if d.startsIdent c then
        let (t, r) := wordFrom d [c] cs
        some (some t, r)
      else if c == '$' then (dollar d cs).map fun (t, r) => (some t, r)
      else if Text.isBlank c then some (none, cs)
      else some (some (.symbol (String.singleton c)), cs)

/--
One step: a token, or nothing for a blank or a comment, and the characters behind it.
`afterWord` says whether the token before was a word.
-/
def step (d : Dialect) (afterWord : Bool) (c : Char) (cs : List Char) :
    Option (Option Token × List Char) :=
  if c == ' ' || c == '\t' || c == '\n' || c == '\r' then some (none, cs)
  else match prefixed? d c cs with
    | some found => found
    | none =>
      if c == '\'' then textLiteral d .text cs
      else if d.opensQuoted c then
        (untilQuote d false (closing c) cs).map fun (s, r) =>
          (some (.word (String.ofList s) (some c) ""), r)
      else if c == '"' then textLiteral' d cs
      else if c.isDigit || c == '.' then
        if c == '.' && cs.headD ' ' == '_' then
          if afterWord then some (some (.symbol "."), cs) else none
        else if c == '.' && afterWord && d.numericWords then some (some (.symbol "."), cs)
        else
          let (t, r) := number d (c :: cs)
          some (some t, r)
      else if c == '-' && cs.headD ' ' == '-'
          && (!d.dashesNeedBlank || (cs.drop 1).headD 'x' == ' ') then
        some (none, skipLine d cs)
      else if c == '/' && cs.headD ' ' == '*' then
        (skipComment d.nestsComments 0 (cs.drop 1)).map (none, ·)
      else if (c == '/' && cs.headD ' ' == '/' && d.slashComments)
          || (c == '#' && d.hashComments) then
        some (none, skipLine d cs)
      else plain d c cs
where
  /-- A text between double quotes. -/
  textLiteral' (d : Dialect) (cs : List Char) : Option (Option Token × List Char) :=
    (untilQuote d d.backslashEscapes '"' cs).map fun (s, r) =>
      (some (.literal (.doubleQuoted (String.ofList s))), r)

/-- Whether a token is a word. -/
def isWord : Token → Bool
  | .word .. => true
  | _ => false

/-- Cuts characters into tokens; as many steps are taken as there are characters. -/
def lexemes (d : Dialect) : Nat → (afterWord spaced : Bool) → List Char → Option (List Lexeme)
  | _, _, _, [] => some []
  | 0, _, _, _ :: _ => none
  | n + 1, afterWord, spaced, c :: cs =>
    match step d afterWord c cs with
    | none => none
    | some (none, rest) => lexemes d n false true rest
    | some (some t, rest) => (lexemes d n t.isWord false rest).map (⟨t, spaced⟩ :: ·)

/-- The tokens of a text, or nothing when a literal or a comment is not closed. -/
def read (d : Dialect) (text : String) : Option (List Lexeme) :=
  let cs := text.toList
  lexemes d cs.length false false cs

end Token

end RowScope.Sql
