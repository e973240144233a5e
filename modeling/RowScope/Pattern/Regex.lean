/-
Regular expressions and the texts they match.

A text of `n` characters has `n + 1` positions.  An expression is read as a map on
sets of positions: from the positions where it may start to those where it may end.
So no position is tried twice and every search ends, whatever the expression.
-/
import RowScope.Pattern.CharSet

namespace RowScope.Pattern

/-- A condition on a position, by the characters around it. -/
inductive Look where
  | start
  | stop
  | lineStart
  | lineStop
  /-- The start of a line that may end in a carriage return, a line feed or both. -/
  | anyLineStart
  | anyLineStop
  | wordEdge (ascii : Bool)
  | noWordEdge (ascii : Bool)
  | wordStart (ascii : Bool)
  | wordStop (ascii : Bool)
  /-- The characters before are no part of a word. -/
  | wordStartHalf (ascii : Bool)
  /-- The characters behind are no part of a word. -/
  | wordStopHalf (ascii : Bool)
deriving DecidableEq, Repr, Inhabited

namespace Look

/-- Whether a character is part of a word. -/
def isWord (ascii : Bool) : Option Char → Bool
  | none => false
  | some c => if ascii then c.isAlphanum || c == '_' else Text.isWordChar c

/-- Whether a condition holds between two characters; at either end of a text there is none. -/
def holds (l : Look) (before after : Option Char) : Bool :=
  match l with
  | start => before.isNone
  | stop => after.isNone
  | lineStart => before.isNone || before == some '\n'
  | lineStop => after.isNone || after == some '\n'
  | anyLineStart =>
    before.isNone || before == some '\n' || (before == some '\r' && after != some '\n')
  | anyLineStop =>
    after.isNone || after == some '\r' || (after == some '\n' && before != some '\r')
  | wordEdge ascii => isWord ascii before != isWord ascii after
  | noWordEdge ascii => isWord ascii before == isWord ascii after
  | wordStart ascii => !isWord ascii before && isWord ascii after
  | wordStop ascii => isWord ascii before && !isWord ascii after
  | wordStartHalf ascii => !isWord ascii before
  | wordStopHalf ascii => !isWord ascii after

end Look

/-- A regular expression. -/
inductive Regex where
  | empty
  | set (s : CharSet)
  | look (l : Look)
  | seq (r s : Regex)
  | alt (r s : Regex)
  /-- At least `least` times, and at most `most` times if there is such a bound. -/
  | repeated (r : Regex) (least : Nat) (most : Option Nat)
deriving DecidableEq, Repr, Inhabited

namespace Regex

/-! ### Sets of positions -/

/-- A set of the positions of a text, from the first to the last. -/
abbrev Positions := List Bool

/-- The positions in either set. -/
def join (a b : Positions) : Positions := List.zipWith or a b

/-- The positions behind a character of a set. -/
def advance (s : CharSet) (text : List Char) (from_ : Positions) : Positions :=
  false :: List.zipWith (fun c b => b && s.contains c) text from_

/-- The positions of a set at which a condition holds; `before` is the character ahead of them. -/
def looking (l : Look) : (before : Option Char) → List Char → Positions → Positions
  | _, _, [] => []
  | before, [], b :: _ => [b && l.holds before none]
  | before, c :: cs, b :: bs => (b && l.holds before (some c)) :: looking l (some c) cs bs

/-- Applies a map a number of times. -/
def times (step : Positions → Positions) : Nat → Positions → Positions
  | 0, from_ => from_
  | n + 1, from_ => times step n (step from_)

/-- Adds what a map reaches, a number of times over. -/
def spread (step : Positions → Positions) : Nat → Positions → Positions
  | 0, from_ => from_
  | n + 1, from_ => spread step n (join from_ (step from_))

/--
The positions where an expression may end that starts in a set of positions.  A
repetition without bound need not be tried more often than the text has positions.
-/
def reach (text : List Char) : Regex → Positions → Positions
  | empty, from_ => from_
  | set s, from_ => advance s text from_
  | look l, from_ => looking l none text from_
  | seq r s, from_ => reach text s (reach text r from_)
  | alt r s, from_ => join (reach text r from_) (reach text s from_)
  | repeated r least most, from_ =>
    let rest := match most with
      | some m => min (m - least) (text.length + 1)
      | none => text.length + 1
    spread (reach text r) rest (times (reach text r) least from_)

/-- Whether an expression matches anywhere in a text. -/
def isMatch (r : Regex) (text : String) : Bool :=
  let cs := text.toList
  (reach cs r (List.replicate (cs.length + 1) true)).any id

/-! ### Combination -/

/-- Several expressions one after the other. -/
def seqs : List Regex → Regex
  | [] => empty
  | [r] => r
  | r :: rs => seq r (seqs rs)

/-- Any of several expressions. -/
def alts : List Regex → Regex
  | [] => empty
  | [r] => r
  | r :: rs => alt r (alts rs)

end Regex

end RowScope.Pattern
