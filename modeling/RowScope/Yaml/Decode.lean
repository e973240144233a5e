/-
Decoding a document.

What is wrong with a document is a `Problem` at a place in it.  A problem is found
without its place first, and takes on the place of the innermost part of the document
that was being decoded as a whole when it was found.

Where several shapes are allowed, the node is read as a `Content` first, which knows
nothing of what it is for; the shapes are then tried on the content.

Aliases are followed when they are come upon.  A document can lead round in circles that
way, so both the nesting of collections and the number of aliases followed are bounded.
-/
import RowScope.Decimal.Shortest
import RowScope.Text.Quoted
import RowScope.Yaml.Node
import RowScope.Yaml.Scalar

namespace RowScope.Yaml

/-! ### Problems -/

/-- What a node turned out to be. -/
inductive Found where
  | meaning (m : Meaning)
  | sequence
  | mapping
deriving Repr, Inhabited

/-- The text of what was found. -/
def Found.describe : Found → String
  | meaning .null => "unit value"
  | meaning (.boolean b) => "boolean \x60" ++ (if b then "true" else "false") ++ "\x60"
  | meaning (.integer _ n) =>
    let width := if Meaning.fits 64 n then "" else if n < 0 then " as i128" else " as u128"
    "integer \x60" ++ toString n ++ "\x60" ++ width
  | meaning (.float x) => "floating point \x60" ++ x.renderWithPoint ++ "\x60"
  | meaning (.text s) => "string " ++ Text.quoted s
  | sequence => "sequence"
  | mapping => "map"

/-- The text of a kind, as an expectation. -/
def Meaning.Kind.describe : Meaning.Kind → String
  | boolean => "a boolean"
  | integer => "an integer"
  | float => "a float"
  | null => "null"

/-- Why a document does not fit. -/
inductive Problem where
  | wrongType (found : Found) (expected : String)
  /-- A scalar that is not of the kind its tag asks for. -/
  | wrongValue (text : String) (expected : Meaning.Kind)
  | missingField (name : String)
  | duplicateField (name : String)
  /-- None of the shapes that are allowed for something fits. -/
  | noShape (name : String)
  /-- A tag where the shape has to be found out. -/
  | taggedShape
  /-- Collections are nested too deeply. -/
  | tooDeep
  /-- Too many aliases were followed. -/
  | tooManyAliases
  /-- The document fits, but what it says is not allowed. -/
  | rejected (message : String)
deriving Repr, Inhabited

/-- The text of a problem. -/
def Problem.describe : Problem → String
  | wrongType found expected => "invalid type: " ++ found.describe ++ ", expected " ++ expected
  | wrongValue text expected =>
    "invalid value: string " ++ Text.quoted text ++ ", expected " ++ expected.describe
  | missingField name => "missing field \x60" ++ name ++ "\x60"
  | duplicateField name => "duplicate field \x60" ++ name ++ "\x60"
  | noShape name => "data did not match any variant of untagged enum " ++ name
  | taggedShape => "untagged and internally tagged enums do not support enum input"
  | tooDeep => "recursion limit exceeded"
  | tooManyAliases => "repetition limit exceeded"
  | rejected message => message

/-- Whether a problem is tied to a place. -/
def Problem.hasPlace : Problem → Bool
  | tooDeep | tooManyAliases => false
  | _ => true

/-! ### Places -/

/-- One step down into a document. -/
inductive Step where
  | key (name : String)
  | index (n : Nat)
  /-- A value whose key is no scalar. -/
  | unknown
deriving DecidableEq, Repr, Inhabited

/-- The way from the root to a place, the last step first. -/
abbrev Place := List Step

/-- The text of a place. -/
def Place.describe : Place → String
  | [] => "."
  | .index n :: up => Place.describe up ++ "[" ++ toString n ++ "]"
  | .key name :: up => (if up.isEmpty then "" else Place.describe up ++ ".") ++ name
  | .unknown :: up => (if up.isEmpty then "" else Place.describe up ++ ".") ++ "?"

/-- The place of the value of an entry. -/
def Place.ofKey (up : Place) : Node → Place
  | .scalar _ text _ => .key text :: up
  | _ => .unknown :: up

/-- Why a document could not be decoded. -/
inductive DecodeError where
  /-- The document is malformed, holds an unknown alias, or is not the only one. -/
  | malformed
  | problem (place : Option Place) (p : Problem)
deriving Repr, Inhabited

/-- The text of a problem with its place, unless that is the root. -/
def Problem.message (place : Option Place) (p : Problem) : String :=
  match place with
  | none | some [] => p.describe
  | some place => Place.describe place ++ ": " ++ p.describe

/-! ### Decoders -/

/-- What decoders look up: the document, and how many aliases may be followed. -/
structure Source where
  document : Document
  maxAliases : Nat

/-- A decoder; the state is the number of aliases followed. -/
abbrev Decoder := ReaderT Source (StateT Nat (Except DecodeError))

namespace Decoder

/-- Fails with a problem. -/
def fail {α : Type} (p : Problem) : Decoder α := throw (.problem none p)

/-- Fails because the document breaks off. -/
def malformed {α : Type} : Decoder α := throw .malformed

/-- Gives the problems inside a decoder a place, if they have none. -/
def within {α : Type} (place : Place) (d : Decoder α) : Decoder α := fun source followed =>
  match d source followed with
  | .error (.problem none p) => .error (.problem (if p.hasPlace then some place else none) p)
  | r => r

/-- The node itself, or the one its alias stands for. -/
def follow : Node → Decoder Node
  | .reference anchor => do
    let source ← read
    let followed ← get
    if source.maxAliases < followed + 1 then fail .tooManyAliases
    set (followed + 1)
    return source.document.target anchor
  | n => return n

/-- The meaning of a scalar. -/
def meaning (tag : Option String) (text : String) (style : Style) : Decoder Meaning :=
  match Meaning.ofScalar tag text style with
  | .ok m => return m
  | .error kind => fail (.wrongValue text kind)

/-- Fails because a node is not what is expected. -/
def unexpected {α : Type} (n : Node) (expected : String) : Decoder α := do
  match n with
  | .scalar tag text style => fail (.wrongType (.meaning (← meaning tag text style)) expected)
  | .sequence .. => fail (.wrongType .sequence expected)
  | .mapping .. => fail (.wrongType .mapping expected)
  | .void => fail (.wrongType (.meaning .null) expected)
  | .reference _ | .cut => malformed

/-- The bound on the nesting inside a collection. -/
def deeper (depth : Nat) : Decoder Nat :=
  match depth with
  | 0 => fail .tooDeep
  | d + 1 => return d

end Decoder

/-! ### Nodes that are passed over -/

mutual

/-- Whether a document breaks off inside a node. -/
def Node.breaksOff : Node → Bool
  | .cut => true
  | .sequence _ items => breaksOffItems items
  | .mapping _ entries => breaksOffEntries entries
  | _ => false
termination_by structural n => n

/-- Whether a document breaks off inside one of several nodes. -/
def breaksOffItems : List Node → Bool
  | [] => false
  | n :: ns => n.breaksOff || breaksOffItems ns
termination_by structural ns => ns

/-- Whether a document breaks off inside one of several entries. -/
def breaksOffEntries : List (Node × Node) → Bool
  | [] => false
  | e :: es => breaksOffEntry e || breaksOffEntries es
termination_by structural es => es

/-- Whether a document breaks off inside an entry. -/
def breaksOffEntry : Node × Node → Bool
  | (k, v) => k.breaksOff || v.breaksOff
termination_by structural e => e

end

mutual

/-- How many scalars, aliases and brackets a node is written with. -/
def Node.weight : Node → Nat
  | .cut => 0
  | .sequence _ items => 2 + weightItems items
  | .mapping _ entries => 2 + weightEntries entries
  | _ => 1
termination_by structural n => n

/-- The weight of several nodes. -/
def weightItems : List Node → Nat
  | [] => 0
  | n :: ns => n.weight + weightItems ns
termination_by structural ns => ns

/-- The weight of several entries. -/
def weightEntries : List (Node × Node) → Nat
  | [] => 0
  | e :: es => weightEntry e + weightEntries es
termination_by structural es => es

/-- The weight of an entry. -/
def weightEntry : Node × Node → Nat
  | (k, v) => k.weight + v.weight
termination_by structural e => e

end

namespace Decoder

/-- Passes over a node; aliases in it are not followed. -/
def ignore (n : Node) : Decoder Unit := if n.breaksOff then malformed else return ()

/-! ### Contents -/

/-- A node without regard to what it is for. -/
inductive Content where
  | meaning (m : Meaning)
  | sequence (items : List Content)
  | mapping (entries : List (Content × Content))
deriving Inhabited

/-- Decoders applied to the items of a sequence, each with its number. -/
def items {α : Type} (item : Nat → Node → Decoder α) : Nat → List Node → Decoder (List α)
  | _, [] => return []
  | i, n :: ns => do
    let a ← item i n
    let as ← items item (i + 1) ns
    return a :: as

/-- The content of a node. -/
def content : (depth : Nat) → Place → Node → Decoder Content
  | depth, place, n => within place do
    match ← follow n with
    | .void => return .meaning .null
    | .cut | .reference _ => malformed
    | .scalar tag text style =>
      if tag.any Meaning.isLocal then fail .taggedShape
      let m ← meaning tag text style
      match m with
      | .integer _ k =>
        if Meaning.fits 64 k then return .meaning m
        else fail (.wrongType (.meaning m) "any value")
      | _ => return .meaning m
    | .sequence tag ns =>
      if tag.any Meaning.isLocal then fail .taggedShape
      match depth with
      | 0 => fail .tooDeep
      | d + 1 => return .sequence (← items (fun i => content d (.index i :: place)) 0 ns)
    | .mapping tag entries =>
      if tag.any Meaning.isLocal then fail .taggedShape
      match depth with
      | 0 => fail .tooDeep
      | d + 1 => return .mapping (← entries.mapM fun (k, v) => do
          let key ← content d place k
          let value ← content d (place.ofKey k) v
          return (key, value))

/-! ### Collections -/

/-- Whether a node is nothing where a collection is expected, which then is empty. -/
def isNothing : Node → Bool
  | .void => true
  | .scalar _ text style => text.isEmpty && style == .plain
  | _ => false

/-- The items of a sequence. -/
def sequence {α : Type} (item : Nat → Place → Node → Decoder α) (depth : Nat) (place : Place)
    (n : Node) : Decoder (List α) := within place do
  match ← follow n with
  | .sequence _ ns =>
    let depth ← deeper depth
    items (fun i => item depth (.index i :: place)) 0 ns
  | .cut => malformed
  | n => if isNothing n then return [] else unexpected n "a sequence"

/-- A key, by the text it is written with. -/
def key (expected : String) (place : Place) (n : Node) : Decoder String := within place do
  match ← follow n with
  | .scalar _ text _ => return text
  | .cut => malformed
  | n => unexpected n expected

/-- Reads the entries of a mapping one by one, threading what has been made of them so far. -/
def entries {σ : Type} (expectedKey : String) (entry : Nat → σ → String → Place → Node → Decoder σ)
    (depth : Nat) (place : Place) : σ → List (Node × Node) → Decoder σ
  | s, [] => return s
  | s, (k, v) :: rest => do
    let name ← key expectedKey place k
    let s ← entry depth s name (place.ofKey k) v
    entries expectedKey entry depth place s rest

/-- A mapping. -/
def mapping {σ : Type} (expected expectedKey : String)
    (entry : Nat → σ → String → Place → Node → Decoder σ) (start : σ)
    (depth : Nat) (place : Place) (n : Node) : Decoder σ := do
  match ← follow n with
  | .mapping _ es =>
    let depth ← deeper depth
    entries expectedKey entry depth place start es
  | .cut => malformed
  | n => if isNothing n then return start else unexpected n expected

/-- A truth value. -/
def boolean (place : Place) (n : Node) : Decoder Bool := within place do
  match ← follow n with
  | .scalar tag text style =>
    let plain := style == .plain
      || (style == .literal && tag == some "tag:yaml.org,2002:bool")
    match Meaning.boolean? text with
    | some b => if plain then return b else unexpected (.scalar tag text style) "a boolean"
    | none => unexpected (.scalar tag text style) "a boolean"
  | .cut => malformed
  | n => unexpected n "a boolean"

/-- Something that may be left out; an empty scalar or a null stands for nothing. -/
def optional {α : Type} (some_ : Node → Decoder α) (n : Node) : Decoder (Option α) := do
  match ← follow n with
  | .void => return none
  | .scalar tag text style =>
    if style != .plain then return some (← some_ (.scalar tag text style))
    match tag with
    | none =>
      if text.isEmpty || Meaning.isNull text then return none
      else return some (← some_ (.scalar tag text style))
    | some t =>
      if Meaning.kinds.lookup t == some .null then
        if Meaning.isNull text then return none else fail (.wrongValue text .null)
      else return some (← some_ (.scalar tag text style))
  | .cut => malformed
  | n => return some (← some_ n)

/-- How deeply collections may be nested. -/
def maxDepth : Nat := 128

/-- Decodes the one document of a text. -/
def run {α : Type} (root : Nat → Place → Node → Decoder α) (text : String) :
    Except DecodeError α := do
  let document := Document.read text
  let source : Source := ⟨document, 100 * document.root.weight⟩
  let (a, _) ← root maxDepth [] document.root source 0
  if document.complete then return a else throw .malformed

end Decoder

end RowScope.Yaml
