/-
Character classes in brackets.

A class lists characters, ranges, escapes, named classes and classes in brackets of
their own, and may be the result of intersections and differences of such lists.  It
is read with a stack that has one `Frame` for each bracket still open, so that how
deeply classes are nested is a matter of data and not of recursion.
-/
import RowScope.Pattern.Regex.Escape

namespace RowScope.Pattern.Regex

/-- Something read, and how deeply its parts are nested. -/
structure Nested (α : Type) where
  value : α
  depth : Nat
deriving DecidableEq, Repr, Inhabited

/-- The operators between the members of a class. -/
inductive SetOp where
  | inter
  | diff
  | symmDiff
deriving DecidableEq, Repr, Inhabited

/-- The result of an operator. -/
def SetOp.apply : SetOp → CharSet → CharSet → CharSet
  | inter => .inter
  | diff => .diff
  | symmDiff => .symmDiff

/-- A bracket that is still open. -/
structure Frame where
  negated : Bool
  /-- An operator that waits for its right side. -/
  pending : Option (SetOp × Nested CharSet)
  /-- The members since the bracket or the operator, last first. -/
  members : List (Nested CharSet)
deriving Inhabited

namespace Frame

/-- Adds a member. -/
def add (fr : Frame) (m : Nested CharSet) : Frame := { fr with members := m :: fr.members }

/-- Adds a member that has no parts. -/
def addLeaf (fr : Frame) (s : CharSet) : Frame := fr.add ⟨s, 0⟩

/-- The members together. -/
def union (members : List (Nested CharSet)) : Nested CharSet :=
  let depth := (members.map Nested.depth).foldl max 0
  ⟨CharSet.unions (members.reverse.map Nested.value),
    if members.length < 2 then depth else depth + 1⟩

/-- All that was read since the bracket, the operator in front included. -/
def value (f : Flags) (fr : Frame) : Nested CharSet :=
  let right := union fr.members
  match fr.pending with
  | none => right
  | some (op, left) =>
    ⟨op.apply (f.fold left.value) (f.fold right.value), max left.depth right.depth + 1⟩

/-- Reads an operator: all before it is its left side. -/
def operate (f : Flags) (fr : Frame) (op : SetOp) : Frame :=
  { fr with pending := some (op, fr.value f), members := [] }

/-- The set of the whole class. -/
def close (f : Flags) (fr : Frame) : Option (Nested CharSet) := do
  let v := fr.value f
  return ⟨← f.negateIf fr.negated (f.fold v.value), v.depth + 1⟩

end Frame

/-- The dashes at the start of a class, which stand for themselves. -/
def openingDashes (f : Flags) : (fuel : Nat) → Frame → List Char → Option (Frame × List Char)
  | 0, _, _ => none
  | fuel + 1, fr, cs =>
    match f.skip cs with
    | [] => none
    | '-' :: rest => openingDashes f fuel (fr.addLeaf (.singleton '-')) rest
    | cs => some (fr, cs)

/--
Reads the start of a class, behind its bracket: a caret turns the class into its
complement, and a bracket that would close an empty class stands for itself.
-/
def openClass (f : Flags) (cs : List Char) : Option (Frame × List Char) := do
  let (negated, cs) := match f.skip cs with
    | '^' :: rest => (true, rest)
    | cs => (false, cs)
  let (fr, cs) ← openingDashes f (cs.length + 1) ⟨negated, none, []⟩ cs
  match cs with
  | ']' :: rest =>
    if !fr.members.isEmpty then return (fr, cs)
    match f.skip rest with
    | [] => none
    | rest => return (fr.addLeaf (.singleton ']'), rest)
  | cs => return (fr, cs)

/-- A named class `[:name:]`, behind its first bracket. -/
def asciiClass? (f : Flags) (cs : List Char) : Option (CharSet × List Char) := do
  let ':' :: cs := cs | none
  let (negated, cs) := match cs with
    | '^' :: rest => (true, rest)
    | cs => (false, cs)
  let ':' :: ']' :: rest := cs.dropWhile (· != ':') | none
  let s ← CharSet.asciiClass? (String.ofList (cs.takeWhile (· != ':')))
  return (if negated then .complement (f.fold s) else f.fold s, rest)

/-- One character or escape of a class. -/
def classAtom (f : Flags) : List Char → Option (Atom × List Char)
  | [] => none
  | '\\' :: rest => escape f rest
  | c :: rest => some (.char c, rest)

/-- A character that may stand in a class. -/
def classChar (f : Flags) (c : Char) : Option Char :=
  if f.unicode || c.toNat < 128 then some c else none

/-- A member of a class: a character, a range or an escape. -/
def classMember (f : Flags) (cs : List Char) : Option (CharSet × List Char) := do
  let (a, rest) ← classAtom f cs
  let rest := f.skip rest
  let alone : Option (CharSet × List Char) := match a with
    | .char c => do return (.singleton (← classChar f c), rest)
    | .set s => some (s, rest)
    | .look _ => none
  match rest with
  | [] => none
  | '-' :: more =>
    match f.skip more with
    | [] => none
    | ']' :: _ => alone
    | '-' :: _ => alone
    | more =>
      let .char first := a | none
      let (.char last, rest) ← classAtom f more | none
      if last < first then none
      else return (.range (← classChar f first) (← classChar f last), rest)
  | _ => alone

/-- Reads up to the end of the outermost class. -/
def classMembers (f : Flags) : (fuel : Nat) → (outer : List Frame) → Frame → List Char →
    Option (Nested CharSet × List Char)
  | 0, _, _, _ => none
  | fuel + 1, outer, fr, cs =>
    match f.skip cs with
    | [] => none
    | '[' :: rest =>
      match asciiClass? f rest with
      | some (s, rest) =>
        if !f.unicode && s.contains '\x80' then none
        else classMembers f fuel outer (fr.addLeaf s) rest
      | none => do
        let (inner, rest) ← openClass f rest
        classMembers f fuel (fr :: outer) inner rest
    | ']' :: rest => do
      let s ← fr.close f
      match outer with
      | [] => return (s, rest)
      | around :: outer => classMembers f fuel outer (around.add s) rest
    | '&' :: '&' :: rest => classMembers f fuel outer (fr.operate f .inter) rest
    | '-' :: '-' :: rest => classMembers f fuel outer (fr.operate f .diff) rest
    | '~' :: '~' :: rest => classMembers f fuel outer (fr.operate f .symmDiff) rest
    | cs => do
      let (s, rest) ← classMember f cs
      classMembers f fuel outer (fr.addLeaf s) rest

/-- Reads a class, behind its opening bracket. -/
def readClass (f : Flags) (cs : List Char) : Option (Nested CharSet × List Char) := do
  let (fr, rest) ← openClass f cs
  classMembers f (rest.length + 1) [] fr rest

end RowScope.Pattern.Regex
