/-
What scalars mean.

A plain scalar may be a null, a truth value, an integer or a number; whatever has none
of these forms is a text.  Integers may be written in four bases and with a sign.  A row
of digits with a zero in front is no integer and no number.  An integer keeps whether a minus
stands in front of it: a zero can have one, and then it is no number of a field.
-/
import RowScope.Decimal.Double
import RowScope.Yaml.Token.Scalar

namespace RowScope.Yaml

/-- The meaning of a scalar. -/
inductive Meaning where
  | null
  | boolean (b : Bool)
  /-- An integer, and whether it is written with a minus. -/
  | integer (minus : Bool) (n : Int)
  | float (x : Decimal.Double)
  | text (s : String)
deriving DecidableEq, Repr, Inhabited

namespace Meaning

/-- The null that a scalar is, if it is written. -/
def isNull (s : String) : Bool := ["null", "Null", "NULL", "~"].contains s

/-- The truth value that a scalar is. -/
def boolean? (s : String) : Option Bool :=
  if ["true", "True", "TRUE"].contains s then some true
  else if ["false", "False", "FALSE"].contains s then some false
  else none

/-! ### Integers -/

/-- Whether a character is a sign. -/
def isSign (c : Char) : Bool := c == '+' || c == '-'

/-- The characters behind a sign. -/
def unsign : List Char → List Char
  | c :: cs => if isSign c then cs else c :: cs
  | [] => []

/-- Digits with a zero in front of them. -/
def isPadded (cs : List Char) : Bool :=
  match unsign cs with
  | '0' :: d :: ds => (d :: ds).all Char.isDigit
  | _ => false

/-- The value of digits to a base; there must be one. -/
def digits? (base : Nat) (cs : List Char) : Option Nat :=
  if cs.isEmpty then none
  else cs.foldlM (fun n c => do
    let d ← hexDigit? c
    if d < base then some (base * n + d) else none) 0

/-- The value of digits behind the mark of their base. -/
def based? : List Char → Option Nat
  | '0' :: 'x' :: ds => digits? 16 ds
  | '0' :: 'o' :: ds => digits? 8 ds
  | '0' :: 'b' :: ds => digits? 2 ds
  | _ => none

/-- Whether a minus stands in front. -/
def hasMinus (cs : List Char) : Bool := cs.head? == some '-'

/-- The integer that a scalar is, of any size. -/
def whole? (cs : List Char) : Option Int :=
  let body := unsign cs
  let sign (n : Nat) : Int := if hasMinus cs then -(n : Int) else n
  match based? body with
  | some n => some (sign n)
  | none => if isPadded cs then none else (digits? 10 body).map sign

/-- Whether a number has at most so many bits, its sign being one of them. -/
def fitsSigned (bits : Nat) (n : Int) : Bool :=
  if n < 0 then n.natAbs ≤ Nat.pow 2 (bits - 1) else n.natAbs < Nat.pow 2 (bits - 1)

/-- Whether a number has no sign and at most so many bits. -/
def fitsUnsigned (bits : Nat) (n : Int) : Bool := 0 ≤ n && n.natAbs < Nat.pow 2 bits

/-- Whether a number has at most so many bits, with or without a sign. -/
def fits (bits : Nat) (n : Int) : Bool := fitsSigned bits n || fitsUnsigned bits n

/-- The integer that a scalar is, if it has at most 128 bits. -/
def integer? (s : String) : Option Int := (whole? s.toList).filter (fits 128)

/-! ### Numbers -/

/-- The number that a scalar is; the infinite ones and the undefined one have words of their own. -/
def float? (s : String) : Option Decimal.Double :=
  let positive := match s.toList with
    | '+' :: cs => if cs.head?.any isSign then none else some (String.ofList cs)
    | _ => some s
  match positive with
  | none => none
  | some p =>
    if [".inf", ".Inf", ".INF"].contains p then some (.infinite false)
    else if ["-.inf", "-.Inf", "-.INF"].contains s then some (.infinite true)
    else if [".nan", ".NaN", ".NAN"].contains s then some .nan
    else (Decimal.Double.ofText? p).filter Decimal.Double.isFinite

/-! ### Scalars -/

/-- The meaning of a plain scalar without a tag. -/
def ofPlain (s : String) : Meaning :=
  if s.isEmpty || isNull s then .null
  else match boolean? s with
    | some b => .boolean b
    | none => match integer? s with
      | some n => .integer (hasMinus s.toList) n
      | none =>
        if isPadded s.toList then .text s
        else match float? s with
          | some x => .float x
          | none => .text s

/-- The kinds that a tag can ask for. -/
inductive Kind where
  | boolean
  | integer
  | float
  | null
deriving DecidableEq, Repr, Inhabited

/-- The kinds by their tags. -/
def kinds : List (String × Kind) :=
  [("tag:yaml.org,2002:bool", .boolean), ("tag:yaml.org,2002:int", .integer),
   ("tag:yaml.org,2002:float", .float), ("tag:yaml.org,2002:null", .null)]

/-- The meaning of a scalar as a given kind. -/
def ofKind? (s : String) : Kind → Option Meaning
  | .boolean => (boolean? s).map .boolean
  | .integer => (integer? s).map (.integer (hasMinus s.toList))
  | .float => (float? s).map .float
  | .null => if isNull s then some .null else none

/-- Whether a tag belongs to the document alone. -/
def isLocal (tag : String) : Bool := tag.toList.head? == some '!'

/-- The meaning of a scalar, or the kind that its tag asks for in vain. -/
def ofScalar (tag : Option String) (s : String) (style : Style) : Except Kind Meaning :=
  match tag with
  | none => .ok (if style == .plain then ofPlain s else .text s)
  | some tag =>
    match kinds.lookup tag with
    | some kind => match ofKind? s kind with
      | some m => .ok m
      | none => .error kind
    | none => .ok (if isLocal tag && style == .plain then ofPlain s else .text s)

end Meaning

end RowScope.Yaml
