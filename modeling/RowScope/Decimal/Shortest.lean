/-
The shortest decimal text of a number.

Each number stands for an interval of reals, those that round to it.  The text has as
few digits as a decimal inside that interval can have, and of those decimals it is the
one nearest to the number.  On the grid of decimals with a given count of digits only
the two neighbours of the number have to be tried: if any point of the grid lies in the
interval, one of them does.

Numbers are written by position, never with an exponent.
-/
import RowScope.Decimal.Double

namespace RowScope.Decimal.Double

/-- How many decimal digits a natural number has; zero has none. -/
def digitCount (n : Nat) : Nat := if n = 0 then 0 else (Nat.toDigits 10 n).length

/-- The least `k` such that a positive quotient is below `10 ^ k`. -/
def magnitude (n d : Nat) : Int :=
  if d ≤ n then digitCount (n / d)
  else 1 - (digitCount ((d - 1) / n) : Int)

/-- A quotient divided by a power of ten, as a quotient. -/
def scaleDownTen (n d : Nat) : Int → Nat × Nat
  | .ofNat k => (n, d * Nat.pow 10 k)
  | .negSucc k => (n * Nat.pow 10 (k + 1), d)

/--
The decimal with the given unit that lies in the interval of a number, nearest to it;
halfway between two, the upper one.
-/
def onGrid? (m : Nat) (q : Int) (unit : Int) : Option Nat :=
  let below := if m = Nat.pow 2 52 ∧ minExponent < q then 1 else 2
  let point (x : Nat) : Nat × Nat :=
    let (a, b) := scaleDown x 4 (-q)
    scaleDownTen a b unit
  let (value, d) := point (4 * m)
  let (low, _) := point (4 * m - below)
  let (high, _) := point (4 * m + 2)
  let inside (k : Nat) : Bool :=
    if m % 2 = 0 then low ≤ k * d && k * d ≤ high else low < k * d && k * d < high
  let k := value / d
  if inside k && (!inside (k + 1) || 2 * (value % d) < d) then some k
  else if inside (k + 1) then some (k + 1)
  else none

/-- The digits of a positive number and the power of ten of the last one. -/
def shortest (m : Nat) (q : Int) : Nat × Int :=
  let (a, b) := scaleDown m 1 (-q)
  let top := magnitude a b
  let hit := (List.range 17).findSome? fun (n : Nat) =>
    let unit := top - ((n : Int) + 1)
    (onGrid? m q unit).map (·, unit)
  hit.getD (m, q)

/-- Drops zeros at the end of a row of digits, and counts them. -/
def dropZeros (ds : List Char) : List Char × Nat :=
  let zeros := (ds.reverse.takeWhile (· = '0')).length
  (ds.take (ds.length - zeros), zeros)

/-- Digits written by position. -/
def positional (ds : List Char) : Int → List Char
  | .ofNat k => ds ++ List.replicate k '0'
  | .negSucc k =>
    let places := k + 1
    if places < ds.length then
      ds.take (ds.length - places) ++ '.' :: ds.drop (ds.length - places)
    else '0' :: '.' :: (List.replicate (places - ds.length) '0' ++ ds)

/-- The text of a number. -/
def render : Double → String
  | nan => "NaN"
  | infinite negative => if negative then "-inf" else "inf"
  | finite negative m q =>
    let body :=
      if m = 0 then ['0']
      else
        let (digits, unit) := shortest m q
        let (ds, zeros) := dropZeros (Nat.toDigits 10 digits)
        positional ds (unit + zeros)
    String.ofList (if negative then '-' :: body else body)

/-- The text of a number with at least one place behind the point. -/
def renderWithPoint (x : Double) : String :=
  let s := x.render
  if x.isFinite && !s.toList.contains '.' then s ++ ".0" else s

end RowScope.Decimal.Double
