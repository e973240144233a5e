/-
The tokens of a document.

Brackets, dashes and signs are tokens of their own, and so is every change of
indentation.  That a scalar is a key becomes known only at the colon behind it, so the
scanner remembers where a key may have begun and puts the missing tokens in front of it
when the colon comes.  As long as a key may still begin at some token, neither that token
nor any behind it is handed out: if the document turns out to be malformed before the
question is settled, those tokens are lost.
-/
import RowScope.Yaml.Token.Scalar

namespace RowScope.Yaml

/-- A token. -/
inductive Token where
  | streamEnd
  | version (major minor : Nat)
  /-- A handle for tags, and the text it stands for. -/
  | handle (name meaning : String)
  | documentStart
  | documentEnd
  | blockSequenceStart
  | blockMappingStart
  | blockEnd
  | flowSequenceStart
  | flowSequenceEnd
  | flowMappingStart
  | flowMappingEnd
  | blockEntry
  | flowEntry
  | key
  | value
  | reference (name : String)
  | anchor (name : String)
  /-- A tag by its handle, which may be empty, and the text behind it. -/
  | tag (handle suffix : String)
  | scalar (text : String) (style : Style)
deriving DecidableEq, Repr, Inhabited

/-! ### Names and tags -/

/-- The name of an anchor or alias. -/
def anchorName (c : Cursor) : Option (String × Cursor) :=
  let name := c.rest.takeWhile isNameChar
  let c := c.skip name.length
  let ends := match c.head with
    | none => true
    | some x => c.spaceAt 0 || ['?', ':', ',', ']', '}', '%', '@', '\x60'].contains x
  if name.isEmpty || !ends then none else some (String.ofList name, c)

/-- The bytes of percent escapes in a tag. -/
def percentBytes : (fuel : Nat) → Cursor → Option (List UInt8 × Cursor)
  | 0, _ => none
  | fuel + 1, c =>
    if c.at_ '%' then do
      let hi ← (c.peek 1).bind hexDigit?
      let lo ← (c.peek 2).bind hexDigit?
      let (bytes, c) ← percentBytes fuel (c.skip 3)
      return (UInt8.ofNat (16 * hi + lo) :: bytes, c)
    else some ([], c)

/-- Whether a character may stand in a tag; some only between angle brackets. -/
def isTagChar (verbatim : Bool) (x : Char) : Bool :=
  isNameChar x || [';', '/', '?', ':', '@', '&', '=', '+', '$', '.', '!', '~', '*', '\'', '(',
    ')'].contains x
    || (verbatim && (x == ',' || x == '[' || x == ']'))

/-- The text of a tag. -/
def tagText (verbatim : Bool) : (fuel : Nat) → Cursor → Option (List Char × Cursor)
  | 0, _ => none
  | fuel + 1, c =>
    match c.head with
    | none => some ([], c)
    | some x =>
      if x == '%' then do
        let (bytes, c) ← percentBytes (c.rest.length + 1) c
        let chars ← String.fromUTF8? ⟨bytes.toArray⟩
        let (text, c) ← tagText verbatim fuel c
        return (chars.toList ++ text, c)
      else if isTagChar verbatim x then
        (tagText verbatim fuel c.next).map fun (text, c) => (x :: text, c)
      else some ([], c)

/-- An exclamation mark with a name behind it, and the mark that may follow the name. -/
def tagHandle (c : Cursor) : List Char × Cursor :=
  let name := '!' :: c.next.rest.takeWhile isNameChar
  let c := c.skip name.length
  if c.at_ '!' then (name ++ ['!'], c.next) else (name, c)

/-- Reads a tag: verbatim, by a handle, or local. -/
def scanTag (flow : Bool) (c : Cursor) : Option (Token × Cursor) := do
  let fuel := c.rest.length + 1
  let (handle, suffix, c) ←
    if c.peek 1 == some '<' then do
      let (text, c) ← tagText true fuel (c.skip 2)
      if text.isEmpty || !c.at_ '>' then none
      else pure ([], text, c.next)
    else do
      let (name, c) := tagHandle c
      if 1 < name.length && name.getLast? == some '!' then
        let (text, c) ← tagText false fuel c
        if text.isEmpty then none else pure (name, text, c)
      else
        let (text, c) ← tagText false fuel c
        let suffix := name.drop 1 ++ text
        if suffix.isEmpty then pure ([], ['!'], c) else pure (['!'], suffix, c)
  if c.spaceAt 0 || (flow && c.at_ ',') then
    return (.tag (String.ofList handle) (String.ofList suffix), c)
  else none

/-! ### Directives -/

/-- A number of at most nine digits. -/
def versionNumber (c : Cursor) : Option (Nat × Cursor) :=
  let ds := c.rest.takeWhile Char.isDigit
  if ds.isEmpty || 9 < ds.length then none
  else some (ds.foldl (fun n d => 10 * n + (d.toNat - '0'.toNat)) 0, c.skip ds.length)

/-- Reads a directive: a version, or a handle for tags. -/
def scanDirective (c : Cursor) : Option (Token × Cursor) := do
  let c := c.next
  let name := c.rest.takeWhile isNameChar
  let c := c.skip name.length
  if name.isEmpty || !c.spaceAt 0 then none
  let c' := c.skipWhile isBlank
  match String.ofList name with
  | "YAML" =>
    let (major, c) ← versionNumber c'
    if !c.at_ '.' then none
    let (minor, c) ← versionNumber c.next
    return (.version major minor, ← c.finishLine)
  | "TAG" =>
    if !c'.at_ '!' then none
    let (handle, c) := tagHandle c'
    if 1 < handle.length && handle.getLast? != some '!' then none
    if !c.atBlank then none
    let c := c.skipWhile isBlank
    let (meaning, c) ← tagText true (c.rest.length + 1) c
    if meaning.isEmpty || !c.spaceAt 0 then none
    return (.handle (String.ofList handle) (String.ofList meaning), ← c.finishLine)
  | _ => none

/-! ### The scanner -/

/-- A place where a key may have begun. -/
structure PossibleKey where
  /-- Something must be a key here, for its line to make sense. -/
  required : Bool
  /-- The number of the token that would be the key. -/
  token : Nat
  index : Nat
  line : Nat
  column : Nat
deriving Repr, Inhabited

/-- The state of the scanner. -/
structure Scanner where
  cursor : Cursor
  tokens : Array Token := #[]
  /-- How many flow collections are open. -/
  flow : Nat := 0
  /-- The indentation of the block collection under way. -/
  indent : Int := -1
  /-- The indentations of the block collections around it. -/
  outer : List Int := []
  /-- Whether a key may begin here. -/
  keyAllowed : Bool := true
  /-- The possible key of each flow collection, the innermost first. -/
  keys : List (Option PossibleKey) := [none]
deriving Inhabited

namespace Scanner

/-- Adds a token. -/
def push (s : Scanner) (t : Token) : Scanner := { s with tokens := s.tokens.push t }

/-- Puts a token in front of another one. -/
def insertAt (s : Scanner) (n : Nat) (t : Token) : Scanner :=
  { s with tokens := (s.tokens.take n).push t ++ s.tokens.drop n }

/-- The column of the place the scanner has come to. -/
def column (s : Scanner) : Int := s.cursor.column

/-- Forgets the possible keys that lie too far back; a required one is an error. -/
def dropStale (s : Scanner) : Option Scanner := do
  let keys ← s.keys.mapM fun k => match k with
    | none => some none
    | some k =>
      if k.line < s.cursor.line || k.index + 1024 < s.cursor.index then
        (if k.required then none else some none)
      else some (some k)
  return { s with keys }

/-- How many tokens can be handed out. -/
def ready (s : Scanner) : Nat :=
  s.keys.foldl (fun n k => match k with | some k => min n k.token | none => n) s.tokens.size

/-- Forgets the possible key of the innermost collection. -/
def dropKey (s : Scanner) : Option Scanner :=
  match s.keys with
  | some k :: rest => if k.required then none else some { s with keys := none :: rest }
  | _ => some s

/-- Notes that a key may begin here. -/
def saveKey (s : Scanner) : Option Scanner := do
  if !s.keyAllowed then return s
  let s ← s.dropKey
  let key : PossibleKey :=
    ⟨s.flow == 0 && s.indent == s.column, s.tokens.size, s.cursor.index, s.cursor.line,
      s.cursor.column⟩
  return { s with keys := some key :: s.keys.drop 1 }

/-- Opens a block collection at a column that is deeper than the one under way. -/
def roll (s : Scanner) (column : Int) (token : Nat) (t : Token) : Scanner :=
  if s.flow == 0 && s.indent < column then
    { s.insertAt token t with indent := column, outer := s.indent :: s.outer }
  else s

/-- Closes the block collections that are deeper than a column. -/
def unroll (s : Scanner) (column : Int) : Scanner :=
  if s.flow != 0 then s
  else
    let deeper := (s.indent :: s.outer).takeWhile (column < ·)
    let rest := (s.indent :: s.outer).drop deeper.length
    { s with
      tokens := s.tokens ++ Array.replicate deeper.length Token.blockEnd
      indent := rest.headD (-1)
      outer := rest.drop 1 }

/-- Moves on by `n` characters. -/
def advance (s : Scanner) (n : Nat) : Scanner := { s with cursor := s.cursor.skip n }

/-- Takes a token that was read up to a new place. -/
def take (s : Scanner) (r : Option (Token × Cursor)) : Option Scanner :=
  r.map fun (t, c) => { s.push t with cursor := c }

/--
Skips white space, comments and line breaks up to the next token.  A tab is white space
only where no key may begin.
-/
def skipSpace (s : Scanner) : (fuel : Nat) → Scanner
  | 0 => s
  | fuel + 1 =>
    let c := s.cursor
    let c := if c.column == 0 && c.at_ byteOrderMark then c.next else c
    let c := c.skipWhile fun x => x == ' ' || (x == '\t' && (s.flow != 0 || !s.keyAllowed))
    let c := if c.at_ '#' then c.toLineEnd else c
    if c.atBreak then
      skipSpace { s with cursor := c.skipBreak, keyAllowed := s.keyAllowed || s.flow == 0 } fuel
    else { s with cursor := c }

/-! ### Reading one token -/

/-- The end of the text. -/
def fetchEnd (s : Scanner) : Option Scanner := do
  let c := s.cursor
  let s := { s with cursor := if c.column == 0 then c else ⟨c.rest, c.index, c.line + 1, 0⟩ }
  let s ← (s.unroll (-1)).dropKey
  return { s with keyAllowed := false }.push .streamEnd

/-- A directive, or a mark between documents. -/
def fetchDocumentToken (s : Scanner) (r : Option (Token × Cursor)) : Option Scanner := do
  let s ← (s.unroll (-1)).dropKey
  { s with keyAllowed := false }.take r

/-- The start of a flow collection. -/
def fetchFlowStart (s : Scanner) (t : Token) : Option Scanner := do
  let s ← s.saveKey
  let inside := { s with flow := s.flow + 1, keys := none :: s.keys, keyAllowed := true }
  return (inside.push t).advance 1

/-- The end of a flow collection. -/
def fetchFlowEnd (s : Scanner) (t : Token) : Option Scanner := do
  let s ← s.dropKey
  let s := if s.flow == 0 then s else { s with flow := s.flow - 1, keys := s.keys.drop 1 }
  return ({ s with keyAllowed := false }.push t).advance 1

/-- A comma between the entries of a flow collection. -/
def fetchFlowEntry (s : Scanner) : Option Scanner := do
  let s ← s.dropKey
  return ({ s with keyAllowed := true }.push .flowEntry).advance 1

/-- A dash in front of an entry of a block sequence. -/
def fetchBlockEntry (s : Scanner) : Option Scanner := do
  if s.flow == 0 && !s.keyAllowed then none
  let s ← (s.roll s.column s.tokens.size .blockSequenceStart).dropKey
  return ({ s with keyAllowed := true }.push .blockEntry).advance 1

/-- A question mark in front of a key. -/
def fetchKey (s : Scanner) : Option Scanner := do
  if s.flow == 0 && !s.keyAllowed then none
  let s ← (s.roll s.column s.tokens.size .blockMappingStart).dropKey
  return ({ s with keyAllowed := s.flow == 0 }.push .key).advance 1

/-- A colon: what began at the possible key is a key, or the colon follows one of its own line. -/
def fetchValue (s : Scanner) : Option Scanner :=
  match s.keys with
  | some k :: rest =>
    let s := (s.insertAt k.token .key).roll k.column k.token .blockMappingStart
    some (({ s with keys := none :: rest, keyAllowed := false }.push .value).advance 1)
  | _ =>
    if s.flow == 0 && !s.keyAllowed then none
    else
      let s := s.roll s.column s.tokens.size .blockMappingStart
      some (({ s with keyAllowed := s.flow == 0 }.push .value).advance 1)

/-- A token that may be a key, or begin one. -/
def fetchNodeToken (s : Scanner) (r : Option (Token × Cursor)) : Option Scanner := do
  let s ← s.saveKey
  { s with keyAllowed := false }.take r

/-- A block scalar. -/
def fetchBlockScalar (s : Scanner) (style : Style) : Option Scanner := do
  let s ← s.dropKey
  let r := (blockScalar (style == .folded) s.indent s.cursor.next).map fun (text, c) =>
    (Token.scalar (String.ofList text) style, c)
  { s with keyAllowed := true }.take r

/-- A scalar between quotes. -/
def fetchQuoted (s : Scanner) (quote : Char) (style : Style) : Option Scanner :=
  s.fetchNodeToken <|
    (quotedScalar quote (s.cursor.rest.length + 1) [] s.cursor.next).map fun (text, c) =>
      (.scalar (String.ofList text) style, c)

/-- A plain scalar; if a line break follows it, a key may begin behind it. -/
def fetchPlain (s : Scanner) : Option Scanner := do
  let s ← s.saveKey
  let (text, broken, c) ←
    plainScalar (s.flow != 0) (s.indent + 1).toNat (s.cursor.rest.length + 1) [] {} s.cursor
  return { s.push (.scalar (String.ofList text) .plain) with cursor := c, keyAllowed := broken }

/-- Whether a character can only begin a token of its own kind. -/
def isIndicator (x : Char) : Bool :=
  ['-', '?', ':', ',', '[', ']', '{', '}', '#', '&', '*', '!', '|', '>', '\'', '"', '%', '@',
    '\x60'].contains x

/-- Whether a plain scalar may begin here. -/
def startsPlain (flow : Bool) (c : Cursor) : Bool :=
  match c.head with
  | none => false
  | some x =>
    !(isIndicator x || c.spaceAt 0) || (x == '-' && !(c.peek 1).any isBlank)
      || (!flow && (x == '?' || x == ':') && !c.spaceAt 1)

/-- Reads the token that begins with a given character. -/
def fetchAt (s : Scanner) (x : Char) : Option Scanner :=
  let c := s.cursor
  let flow := s.flow != 0
  if c.column == 0 && x == '%' then s.fetchDocumentToken (scanDirective c)
  else if c.atMark '-' then s.fetchDocumentToken (some (.documentStart, c.skip 3))
  else if c.atMark '.' then s.fetchDocumentToken (some (.documentEnd, c.skip 3))
  else if x == '[' then s.fetchFlowStart .flowSequenceStart
  else if x == '{' then s.fetchFlowStart .flowMappingStart
  else if x == ']' then s.fetchFlowEnd .flowSequenceEnd
  else if x == '}' then s.fetchFlowEnd .flowMappingEnd
  else if x == ',' then s.fetchFlowEntry
  else if x == '-' && c.spaceAt 1 then s.fetchBlockEntry
  else if x == '?' && (flow || c.spaceAt 1) then s.fetchKey
  else if x == ':' && (flow || c.spaceAt 1) then s.fetchValue
  else if x == '*' then
    s.fetchNodeToken ((anchorName c.next).map fun (name, c) => (.reference name, c))
  else if x == '&' then
    s.fetchNodeToken ((anchorName c.next).map fun (name, c) => (.anchor name, c))
  else if x == '!' then s.fetchNodeToken (scanTag flow c)
  else if x == '|' && !flow then s.fetchBlockScalar .literal
  else if x == '>' && !flow then s.fetchBlockScalar .folded
  else if x == '\'' then s.fetchQuoted '\'' .singleQuoted
  else if x == '"' then s.fetchQuoted '"' .doubleQuoted
  else if startsPlain flow c then s.fetchPlain
  else none

/-- Reads the next token, with those that a change of indentation puts in front of it. -/
def fetch (s : Scanner) : Option Scanner := do
  let s ← (s.skipSpace (s.cursor.rest.length + 1)).dropStale
  let s := s.unroll s.column
  match s.cursor.head with
  | none => s.fetchEnd
  | some x => s.fetchAt x

/-- Reads all tokens; `given` is how many had been handed out before the last of them was read. -/
def run : (fuel : Nat) → (given : Nat) → Scanner → List Token
  | 0, given, s => (s.tokens.take given).toList
  | fuel + 1, given, s =>
    match s.dropStale with
    | none => (s.tokens.take given).toList
    | some s =>
      if s.tokens.back? == some .streamEnd then s.tokens.toList
      else
        match s.fetch with
        | none => (s.tokens.take s.ready).toList
        | some next => run fuel s.ready next

end Scanner

/--
The tokens of a document, up to the first place where it is malformed.  Only a document
without such a place ends in `Token.streamEnd`.
-/
def Token.scan (text : String) : List Token :=
  if text.toList.all isAllowed then
    Scanner.run (2 * text.length + 2) 0 { cursor := Cursor.start text }
  else []

end RowScope.Yaml
