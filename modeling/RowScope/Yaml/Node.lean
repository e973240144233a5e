/-
The nodes of a document.

A document is a tree of scalars, sequences and mappings.  An alias stands for the node at
an anchor, which may be one of the nodes around it, so it is kept as the number of that
anchor.

A malformed document is read as far as it goes.  The place where it breaks off is the
node `cut`: whoever uses the tree from the front meets all that is well formed first.
-/
import RowScope.Yaml.Token

namespace RowScope.Yaml

/-- A node. -/
inductive Node where
  /-- The root of a text that holds no document. -/
  | void
  /-- The place where a malformed document breaks off. -/
  | cut
  | scalar (tag : Option String) (text : String) (style : Style)
  | sequence (tag : Option String) (items : List Node)
  | mapping (tag : Option String) (entries : List (Node × Node))
  | reference (anchor : Nat)
deriving Inhabited, Repr

/-- A scalar that was left out. -/
def Node.blank : Node := .scalar none "" .plain

/-- A document. -/
structure Document where
  root : Node
  /-- The nodes at anchors: the place of the anchor in the document, its number, the node. -/
  anchors : List (Nat × Nat × Node)
  /-- Whether nothing but the end follows the root. -/
  complete : Bool
deriving Inhabited

/-- The node at an anchor: the last one, if several share a number. -/
def Document.target (d : Document) (anchor : Nat) : Node :=
  let found := d.anchors.foldl (fun best (place, number, n) =>
    if number == anchor && best.all (·.1 ≤ place) then some (place, n) else best)
    (none : Option (Nat × Node))
  found.elim .cut Prod.snd

namespace Node

/-! ### The reader -/

/-- The state of the reader. -/
structure Reading where
  tokens : List Token
  /-- The handles of tags, with their meanings. -/
  handles : List (String × String) := []
  /-- The anchors by name, with their numbers; the newest first. -/
  names : List (String × Nat) := []
  anchors : List (Nat × Nat × Node) := []
  /-- How many anchors have been met. -/
  places : Nat := 0

/-- A reader. -/
abbrev Reader := StateM Reading

/-- The next token. -/
def peek : Reader (Option Token) := return (← get).tokens.head?

/-- Drops the next token. -/
def skip : Reader Unit := modify fun s => { s with tokens := s.tokens.drop 1 }

/-- Breaks off: there are no further tokens. -/
def breakOff : Reader Node := do
  modify fun s => { s with tokens := [] }
  return .cut

/-- The node of an alias; an anchor that is not known breaks the document off. -/
def aliasNamed (name : String) : Reader Node := do
  match (← get).names.lookup name with
  | some number => return .reference number
  | none => breakOff

/-- Notes that an anchor begins here; its number is the count of names so far. -/
def beginAnchor (name : Option String) : Reader (Option (Nat × Nat)) := do
  match name with
  | none => return none
  | some name =>
    let s ← get
    let number := s.names.length
    let names := (name, number) :: s.names.filter (·.1 != name)
    set { s with names, places := s.places + 1 }
    return some (s.places, number)

/-- Notes the node of an anchor. -/
def endAnchor (anchor : Option (Nat × Nat)) (n : Node) : Reader Node := do
  if let some (place, number) := anchor then
    modify fun s => { s with anchors := (place, number, n) :: s.anchors }
  return n

/-- What stands in front of the content of a node. -/
structure Properties where
  anchor : Option String := none
  tag : Option (String × String) := none

/-- Reads an anchor and a tag, in either order. -/
def properties : Reader Properties := do
  match ← peek with
  | some (.anchor name) =>
    skip
    match ← peek with
    | some (.tag handle suffix) => skip; return ⟨some name, some (handle, suffix)⟩
    | _ => return ⟨some name, none⟩
  | some (.tag handle suffix) =>
    skip
    match ← peek with
    | some (.anchor name) => skip; return ⟨some name, some (handle, suffix)⟩
    | _ => return ⟨none, some (handle, suffix)⟩
  | _ => return {}

/-- The whole text of a tag, if its handle is known. -/
def wholeTag (handles : List (String × String)) : Option (String × String) → Option (Option String)
  | none => some none
  | some ("", suffix) => some (some suffix)
  | some (handle, suffix) => (handles.lookup handle).map fun meaning => some (meaning ++ suffix)

/-- What the reader can be at. -/
inductive Goal where
  /-- A node; `block` allows block collections, `indentless` sequences without indentation. -/
  | node (block indentless : Bool)
  | blockItems
  | indentlessItems
  | blockEntries
  | flowItems (first : Bool)
  | flowEntries (first : Bool)

/-- What the reader has come up with. -/
inductive Yield where
  | node (n : Node)
  | items (ns : List Node)
  | entries (es : List (Node × Node))

/-- The node that was read. -/
def Yield.toNode : Yield → Node
  | .node n => n
  | _ => .cut

/-- The items that were read. -/
def Yield.toItems : Yield → List Node
  | .items ns => ns
  | _ => [.cut]

/-- The entries that were read. -/
def Yield.toEntries : Yield → List (Node × Node)
  | .entries es => es
  | _ => [(.cut, .cut)]

/-- The node at hand, unless the next token is one that cannot begin it: then it was left out. -/
def nodeUnless (ends : Token → Bool) (read : Reader Node) : Reader Node := do
  match ← peek with
  | none => return .cut
  | some t => if ends t then return .blank else read

/-- The value behind a key: left out if there is no colon, or nothing behind it. -/
def valueUnless (ends : Token → Bool) (read : Reader Node) : Reader Node := do
  match ← peek with
  | none => return .cut
  | some .value => skip; nodeUnless ends read
  | some _ => return .blank

/-- The tokens that end a key or a value of a block mapping. -/
def endsBlockEntry (t : Token) : Bool := t == .key || t == .value || t == .blockEnd

/-- The node whose content comes next. -/
def content (again : Goal → Reader Yield) (block indentless : Bool) : Reader Node := do
  let p ← properties
  let some tag := wholeTag (← get).handles p.tag | breakOff
  match ← peek with
  | some .blockEntry =>
    if indentless then
      let a ← beginAnchor p.anchor
      endAnchor a (.sequence tag (← again .indentlessItems).toItems)
    else left p tag
  | some (.scalar text style) =>
    skip
    let a ← beginAnchor p.anchor
    -- A lone exclamation mark only says that content has no tag.
    endAnchor a (.scalar (tag.filter (· != "!")) text style)
  | some .flowSequenceStart =>
    skip
    let a ← beginAnchor p.anchor
    endAnchor a (.sequence tag (← again (.flowItems true)).toItems)
  | some .flowMappingStart =>
    skip
    let a ← beginAnchor p.anchor
    endAnchor a (.mapping tag (← again (.flowEntries true)).toEntries)
  | some .blockSequenceStart =>
    if block then
      skip
      let a ← beginAnchor p.anchor
      endAnchor a (.sequence tag (← again .blockItems).toItems)
    else left p tag
  | some .blockMappingStart =>
    if block then
      skip
      let a ← beginAnchor p.anchor
      endAnchor a (.mapping tag (← again .blockEntries).toEntries)
    else left p tag
  | some _ => left p tag
  | none => return .cut
where
  /-- A node without content: it needs an anchor or a tag. -/
  left (p : Properties) (tag : Option String) : Reader Node := do
    if p.anchor.isNone && tag.isNone then breakOff
    else
      let a ← beginAnchor p.anchor
      endAnchor a (.scalar tag "" .plain)

/-- The single entry of a mapping that stands in a flow sequence without braces. -/
def loneEntry (read : Reader Node) : Reader Node := do
  let ends (t : Token) : Bool := t == .flowEntry || t == .flowSequenceEnd
  let k ← match ← peek with
    | none => pure .cut
    | some t => if t == .value || ends t then do skip; pure .blank else read
  let v ← valueUnless ends read
  return .mapping none [(k, v)]

/-- One step of the reader; `again` takes the steps behind it. -/
def step (again : Goal → Reader Yield) (goal : Goal) : Reader Yield := do
  let flowNode : Reader Node := return (← again (.node false false)).toNode
  match goal with
  | .node block indentless =>
    match ← peek with
    | none => return .node .cut
    | some (.reference name) => skip; return .node (← aliasNamed name)
    | some _ => return .node (← content again block indentless)
  | .blockItems =>
    match ← peek with
    | some .blockEntry =>
      skip
      let n ← nodeUnless (fun t => t == .blockEntry || t == .blockEnd)
        (return (← again (.node true false)).toNode)
      return .items (n :: (← again .blockItems).toItems)
    | some .blockEnd => skip; return .items []
    | _ => return .items [← breakOff]
  | .indentlessItems =>
    match ← peek with
    | some .blockEntry =>
      skip
      let n ← nodeUnless (fun t => t == .blockEntry || endsBlockEntry t)
        (return (← again (.node true false)).toNode)
      return .items (n :: (← again .indentlessItems).toItems)
    | some _ => return .items []
    | none => return .items [.cut]
  | .blockEntries =>
    match ← peek with
    | some .key =>
      skip
      let blockNode : Reader Node := return (← again (.node true true)).toNode
      let k ← nodeUnless endsBlockEntry blockNode
      let v ← valueUnless endsBlockEntry blockNode
      return .entries ((k, v) :: (← again .blockEntries).toEntries)
    | some .blockEnd => skip; return .entries []
    | _ => return .entries [(← breakOff, .cut)]
  | .flowItems first =>
    match ← peek with
    | none => return .items [.cut]
    | some .flowSequenceEnd => skip; return .items []
    | some t =>
      if !first && t != .flowEntry then return .items [← breakOff]
      if !first then skip
      match ← peek with
      | none => return .items [.cut]
      | some .flowSequenceEnd => skip; return .items []
      | some .key =>
        skip
        let n ← loneEntry flowNode
        return .items (n :: (← again (.flowItems false)).toItems)
      | some _ =>
        let n ← flowNode
        return .items (n :: (← again (.flowItems false)).toItems)
  | .flowEntries first =>
    let ends (t : Token) : Bool := t == .flowEntry || t == .flowMappingEnd
    match ← peek with
    | none => return .entries [(.cut, .cut)]
    | some .flowMappingEnd => skip; return .entries []
    | some t =>
      if !first && t != .flowEntry then return .entries [(← breakOff, .cut)]
      if !first then skip
      match ← peek with
      | none => return .entries [(.cut, .cut)]
      | some .flowMappingEnd => skip; return .entries []
      | some .key =>
        skip
        let k ← nodeUnless (fun t => t == .value || ends t) flowNode
        let v ← valueUnless ends flowNode
        return .entries ((k, v) :: (← again (.flowEntries false)).toEntries)
      | some _ =>
        let k ← flowNode
        return .entries ((k, .blank) :: (← again (.flowEntries false)).toEntries)

/-- Reads with a bounded number of steps, one inside the other. -/
def read : (fuel : Nat) → Goal → Reader Yield
  | 0, _ => return .node (← breakOff)
  | fuel + 1, goal => step (read fuel) goal

/-! ### Documents -/

/-- The handles that every document knows. -/
def commonHandles : List (String × String) := [("!", "!"), ("!!", "tag:yaml.org,2002:")]

/-- Reads the directives in front of a document; `false` if they contradict each other. -/
def directives (versioned : Bool) : List Token → List (String × String) →
    Bool × List (String × String) × List Token
  | .version major minor :: rest, handles =>
    if versioned || major != 1 || (minor != 1 && minor != 2) then (false, handles, rest)
    else directives true rest handles
  | .handle name meaning :: rest, handles =>
    if (handles.lookup name).isSome then (false, handles, rest)
    else directives versioned rest (handles ++ [(name, meaning)])
  | rest, handles => (true, handles, rest)

/-- Whether a token can only stand between documents. -/
def isOutside : Token → Bool
  | .version .. | .handle .. | .documentStart | .documentEnd | .streamEnd => true
  | _ => false

/-- Reads the root of a document. -/
def root (fuel : Nat) : Reader Node := do
  let whole : Reader Node := return (← read fuel (.node true false)).toNode
  let s ← get
  match s.tokens with
  | [] => return .cut
  | .streamEnd :: _ => return .void
  | .documentEnd :: _ => breakOff
  | t :: _ =>
    if !isOutside t then
      set { s with handles := commonHandles }
      whole
    else
      let (good, handles, rest) := directives false s.tokens []
      let missing := commonHandles.filter fun h => (handles.lookup h.1).isNone
      set { s with handles := handles ++ missing, tokens := rest }
      if !good || (← peek) != some .documentStart then breakOff
      else
        skip
        nodeUnless isOutside whole

end Node

/-- Reads a document. -/
def Document.read (text : String) : Document :=
  let tokens := Token.scan text
  let (root, s) := (Node.root (3 * tokens.length + 3)).run { tokens }
  let rest := s.tokens.dropWhile (· == .documentEnd)
  ⟨root, s.anchors, rest.head? == some .streamEnd⟩

end RowScope.Yaml
