/-
What integers mean.

A scalar that is written as an integer need not mean one: beyond 128 bits it means a number of
double precision, or its text where even that fails (`OfWhole`).  To know which number, the
text has to be followed into the other reader, which knows nothing of integers and takes signs,
words and exponents in ways of its own.  What helps is that behind its sign an integer starts
with a digit.  No word does (`not_contains_of_unsign`), so nothing is left to the reader of
numbers but a row of digits, or a zero with the mark of a base that it does not know.
-/
import Mathlib.Data.List.TakeWhile
import RowScope.Proofs.Yaml.Gives

namespace RowScope

/-! ### Reading numbers -/

namespace Decimal.Double

/-- Of a whole number that is in range all digits are rounded together. -/
theorem ofDecimal_whole {negative : Bool} {n : Nat}
    (h : (ofDecimal negative n 0).isFinite = true) :
    ofDecimal negative n 0 = ofQuotient negative n 1 := by
  have hlength : ¬(Nat.toDigits 10 n).length + (0 : Int) < -400 := by omega
  unfold ofDecimal at h ⊢
  by_cases hn : n = 0
  · rw [ofQuotient, if_pos hn, if_pos hn]
  · by_cases hlarge : 400 < (Nat.toDigits 10 n).length + (0 : Int)
    · rw [if_neg hn, if_pos hlarge] at h
      cases h
    · rw [if_neg hn, if_neg hlarge, if_neg hlength]
      show ofQuotient negative (n * Nat.pow 10 0) 1 = _
      rw [Nat.pow_eq, Nat.pow_zero, Nat.mul_one]

/-- A row of digits is a whole number. -/
theorem unsigned?_digits {negative : Bool} {cs : List Char} (hne : cs ≠ [])
    (hcs : ∀ c ∈ cs, c.isDigit = true) :
    unsigned? negative cs = some (ofDecimal negative (digitsValue cs) 0) := by
  have htake : cs.takeWhile Char.isDigit = cs := by
    rw [List.takeWhile_eq_self_iff]
    exact hcs
  have hdrop : cs.dropWhile Char.isDigit = [] := by
    rw [List.dropWhile_eq_nil_iff]
    exact hcs
  have hempty : cs.isEmpty = false := by
    rw [List.isEmpty_eq_false_iff]
    exact hne
  unfold unsigned?
  simp [htake, hdrop, hempty, exponentOf?]

end Decimal.Double

namespace Yaml

open Decimal (Double)

namespace Meaning

variable {cs : List Char} {n : Nat} {k : Int} {s : String}

/-! ### Digits -/

/-- A hexadecimal digit below ten is a decimal one. -/
theorem isDigit_of_hexDigit? {c : Char} (h : hexDigit? c = some n) (hn : n < 10) :
    c.isDigit = true ∧ n = c.toNat - '0'.toNat := by
  unfold hexDigit? at h
  split at h
  · rename_i hdigit
    exact ⟨hdigit, (Option.some.inj h).symm⟩
  · split at h
    · have := Option.some.inj h
      omega
    · split at h
      · have := Option.some.inj h
        omega
      · cases h

/-- Digits to the base ten are read as a decimal text reads them. -/
theorem of_digits?_ten (h : digits? 10 cs = some n) :
    cs ≠ [] ∧ (∀ c ∈ cs, c.isDigit = true) ∧ Double.digitsValue cs = n := by
  have hread : ∀ (cs : List Char) (start : Nat), cs.foldlM (fun n c => do
        let d ← hexDigit? c
        if d < 10 then some (10 * n + d) else none) start = some n →
      (∀ c ∈ cs, c.isDigit = true) ∧
        cs.foldl (fun n d => 10 * n + (d.toNat - '0'.toNat)) start = n := by
    intro cs
    induction cs with
    | nil =>
      intro start h
      exact ⟨nofun, Option.some.inj h⟩
    | cons c rest ih =>
      intro start h
      rw [List.foldlM_cons, Option.bind_eq_bind, Option.bind_eq_some_iff] at h
      obtain ⟨next, hnext, hrest⟩ := h
      rw [Option.bind_eq_some_iff] at hnext
      obtain ⟨d, hd, hnext⟩ := hnext
      split at hnext
      · rename_i hlt
        obtain ⟨hdigit, rfl⟩ := isDigit_of_hexDigit? hd hlt
        obtain rfl := Option.some.inj hnext
        obtain ⟨hall, hvalue⟩ := ih _ hrest
        exact ⟨List.forall_mem_cons.mpr ⟨hdigit, hall⟩, hvalue⟩
      · cases hnext
  unfold digits? at h
  split at h
  · cases h
  · rename_i hne
    obtain ⟨hall, hvalue⟩ := hread cs 0 h
    exact ⟨by simpa using hne, hall, hvalue⟩

/-- Behind the mark of a base, the second character is a letter. -/
theorem of_based? (h : based? cs = some n) :
    ∃ x ds, cs = '0' :: x :: ds ∧ (x = 'x' ∨ x = 'o' ∨ x = 'b') := by
  unfold based? at h
  split at h
  · exact ⟨_, _, rfl, .inl rfl⟩
  · exact ⟨_, _, rfl, .inr (.inl rfl)⟩
  · exact ⟨_, _, rfl, .inr (.inr rfl)⟩
  · cases h

/-! ### Signs -/

/-- A text is what is behind its sign, with a sign in front of it or none. -/
theorem unsign_cases (cs : List Char) :
    (unsign cs = cs ∧ cs.head?.any isSign = false) ∨ cs = '+' :: unsign cs ∨
      cs = '-' :: unsign cs := by
  cases cs with
  | nil => exact .inl ⟨rfl, rfl⟩
  | cons c cs =>
    by_cases hsign : isSign c = true
    · rw [unsign, if_pos hsign]
      simp only [isSign, Bool.or_eq_true, beq_iff_eq] at hsign
      rcases hsign with rfl | rfl
      · exact .inr (.inl rfl)
      · exact .inr (.inr rfl)
    · refine .inl ⟨by rw [unsign, if_neg hsign], ?_⟩
      exact (Bool.not_eq_true _).mp hsign

/-- How an integer is written: digits, or the mark of a base and something behind it. -/
theorem of_whole? (h : whole? cs = some k) :
    isPadded cs = false ∧
      ((∃ x ds, unsign cs = '0' :: x :: ds ∧ (x = 'x' ∨ x = 'o' ∨ x = 'b')) ∨
        ∃ n, (unsign cs ≠ [] ∧ (∀ c ∈ unsign cs, c.isDigit = true) ∧
            Double.digitsValue (unsign cs) = n) ∧
          k = if hasMinus cs then -(n : Int) else n) := by
  unfold whole? at h
  dsimp only at h
  split at h
  · rename_i n hbased
    obtain ⟨x, ds, hbody, hx⟩ := of_based? hbased
    refine ⟨?_, .inl ⟨x, ds, hbody, hx⟩⟩
    rw [isPadded, hbody]
    rcases hx with rfl | rfl | rfl <;> rfl
  · split at h
    · cases h
    · rename_i hpadded
      obtain ⟨n, hn, rfl⟩ := Option.map_eq_some_iff.mp h
      exact ⟨(Bool.not_eq_true _).mp hpadded, .inr ⟨n, of_digits?_ten hn, rfl⟩⟩

/-! ### Numbers -/

theorem ne_of_isDigit {c d : Char} (hc : c.isDigit = true) (hd : d.isDigit = false) : c ≠ d := by
  rintro rfl
  rw [hc] at hd
  cases hd

theorem isSign_of_isDigit {c : Char} (hc : c.isDigit = true) : isSign c = false := by
  rw [isSign, Bool.or_eq_false_iff, beq_eq_false_iff_ne, beq_eq_false_iff_ne]
  exact ⟨ne_of_isDigit hc rfl, ne_of_isDigit hc rfl⟩

theorem toLower_of_isDigit {c : Char} (hc : c.isDigit = true) : c.toLower = c := by
  unfold Char.toLower
  split
  · rename_i hupper
    simp only [Char.isDigit, Bool.and_eq_true, decide_eq_true_eq] at hc
    exact absurd (UInt32.le_trans hupper.1 hc.2) (by decide)
  · rfl

section Digit

variable {c : Char} {ds : List Char} (hc : c.isDigit = true)

include hc

theorem unsign_of_isDigit : unsign (c :: ds) = c :: ds := by
  rw [unsign, if_neg (by rw [isSign_of_isDigit hc]; exact Bool.false_ne_true)]

/-- A text with a digit behind its sign is none of some words, if these have none there. -/
theorem not_contains_of_unsign (hs : unsign s.toList = c :: ds) {words : List String}
    (hwords : ∀ w ∈ words, (unsign w.toList).head?.any Char.isDigit = false) :
    words.contains s = false := by
  rw [← Bool.not_eq_true, List.contains_iff_mem]
  intro hmem
  have hnone := hwords s hmem
  rw [hs, List.head?_cons, Option.any_some, hc] at hnone
  cases hnone

/-- A text that starts with a digit is none of the words for numbers. -/
theorem word?_eq_none (negative : Bool) : Double.word? negative (c :: ds) = none := by
  have hunsign : unsign (String.ofList ((c :: ds).map Char.toLower)).toList
      = c :: ds.map Char.toLower := by
    rw [String.toList_ofList, List.map_cons, toLower_of_isDigit hc, unsign_of_isDigit hc]
  have hnone : ["inf", "infinity", "nan"].contains
      (String.ofList ((c :: ds).map Char.toLower)) = false :=
    not_contains_of_unsign hc hunsign (by decide)
  unfold Double.word?
  split
  · rename_i heq
    rw [heq] at hnone
    cases hnone
  · rename_i heq
    rw [heq] at hnone
    cases hnone
  · rename_i heq
    rw [heq] at hnone
    cases hnone
  · rfl

/-- What starts with a digit, behind a minus or not, is read as a number with that sign. -/
theorem ofText?_eq (negative : Bool)
    (hs : s.toList = if negative then '-' :: c :: ds else c :: ds) :
    Double.ofText? s = Double.unsigned? negative (c :: ds) := by
  have hread : Double.ofText? s
      = (Double.unsigned? negative (c :: ds)).or (Double.word? negative (c :: ds)) := by
    unfold Double.ofText?
    rw [hs]
    cases negative with
    | true =>
      split
      rename_i heq
      cases heq
      cases Double.unsigned? true (c :: ds) <;> rfl
    | false =>
      rw [if_neg Bool.false_ne_true]
      split
      rename_i heq
      split at heq
      · exact absurd (List.cons.inj ‹_›).1 (ne_of_isDigit hc rfl)
      · exact absurd (List.cons.inj ‹_›).1 (ne_of_isDigit hc rfl)
      · cases heq
        cases Double.unsigned? false (c :: ds) <;> rfl
  rw [hread, word?_eq_none hc, Option.or_none]

/-- No word for a number has a digit behind its sign. -/
theorem notWord (hs : unsign s.toList = c :: ds) :
    [".inf", ".Inf", ".INF"].contains s = false ∧ ["-.inf", "-.Inf", "-.INF"].contains s = false ∧
      [".nan", ".NaN", ".NAN"].contains s = false :=
  ⟨not_contains_of_unsign hc hs (by decide), not_contains_of_unsign hc hs (by decide),
    not_contains_of_unsign hc hs (by decide)⟩

/-- Whether a plus has been taken off or not, the words are tried in vain. -/
theorem words_passed {p : String} (hs : unsign s.toList = c :: ds)
    (hp : unsign p.toList = c :: ds) :
    (if [".inf", ".Inf", ".INF"].contains p then some (Double.infinite false)
      else if ["-.inf", "-.Inf", "-.INF"].contains s then some (.infinite true)
      else if [".nan", ".NaN", ".NAN"].contains s then some .nan
      else (Double.ofText? p).filter Double.isFinite)
    = (Double.ofText? p).filter Double.isFinite := by
  obtain ⟨hinfinite, -, -⟩ := notWord hc hp
  obtain ⟨-, hminus, hnan⟩ := notWord hc hs
  rw [hinfinite, hminus, hnan]
  rfl

theorem float?_digits (hs : s.toList = c :: ds) :
    float? s = (Double.ofText? s).filter Double.isFinite := by
  have hbody : unsign s.toList = c :: ds := by rw [hs, unsign_of_isDigit hc]
  rw [← words_passed hc hbody hbody]
  unfold float?
  rw [hs]
  dsimp only
  split
  · rename_i heq
    split at heq
    · exact absurd (List.cons.inj ‹_›).1 (ne_of_isDigit hc rfl)
    · cases heq
  · rename_i heq
    split at heq
    · exact absurd (List.cons.inj ‹_›).1 (ne_of_isDigit hc rfl)
    · cases heq
      rfl

theorem float?_plus (hs : s.toList = '+' :: c :: ds) :
    float? s = (Double.ofText? (String.ofList (c :: ds))).filter Double.isFinite := by
  have hbody : unsign s.toList = c :: ds := by
    rw [hs]
    rfl
  have hrest : unsign (String.ofList (c :: ds)).toList = c :: ds := by
    rw [String.toList_ofList, unsign_of_isDigit hc]
  have hnext : ((c :: ds).head?.any isSign) = false := isSign_of_isDigit hc
  rw [← words_passed hc hbody hrest]
  unfold float?
  rw [hs]
  simp only [hnext, if_neg Bool.false_ne_true]

theorem float?_minus (hs : s.toList = '-' :: c :: ds) :
    float? s = (Double.ofText? s).filter Double.isFinite := by
  have hbody : unsign s.toList = c :: ds := by
    rw [hs]
    rfl
  rw [← words_passed hc hbody hbody]
  unfold float?
  rw [hs]
  rfl

/-- The number that a text is which has a digit behind its sign, or in front. -/
theorem float?_eq (hs : unsign s.toList = c :: ds) :
    float? s = (Double.unsigned? (hasMinus s.toList) (c :: ds)).filter Double.isFinite := by
  rcases unsign_cases s.toList with ⟨hplain, -⟩ | hplus | hminus
  · have hlist : s.toList = c :: ds := hplain.symm.trans hs
    have hsign : hasMinus s.toList = false := by
      rw [hlist, hasMinus, List.head?_cons, beq_eq_false_iff_ne]
      exact fun h => ne_of_isDigit hc rfl (Option.some.inj h)
    rw [float?_digits hc hlist, hsign, ofText?_eq hc false hlist]
  · rw [hs] at hplus
    have hlist : (String.ofList (c :: ds)).toList = c :: ds := String.toList_ofList
    rw [float?_plus hc hplus, hplus, ofText?_eq hc false hlist]
    rfl
  · rw [hs] at hminus
    rw [float?_minus hc hminus, hminus, ofText?_eq hc true hminus]
    rfl

end Digit

/-! ### Scalars -/

/-- An integer is written without the letters that a null or a truth value has. -/
theorem of_whole?_head (h : whole? s.toList = some k) :
    ∃ c ds, unsign s.toList = c :: ds ∧ c.isDigit = true := by
  obtain ⟨-, ⟨x, ds, hbody, -⟩ | ⟨n, ⟨hne, hdigits, -⟩, -⟩⟩ := of_whole? h
  · exact ⟨'0', x :: ds, hbody, rfl⟩
  · obtain ⟨c, ds, hbody⟩ := List.exists_cons_of_ne_nil hne
    exact ⟨c, ds, hbody, hdigits c (by rw [hbody]; exact List.mem_cons_self)⟩

/-- A plain scalar that is an integer keeps it if it has at most 128 bits. -/
theorem ofPlain_eq (h : whole? s.toList = some k) :
    ofPlain s = if fits 128 k then .integer (hasMinus s.toList) k
      else match float? s with
        | some x => .float x
        | none => .text s := by
  obtain ⟨c, ds, hbody, hc⟩ := of_whole?_head h
  have hempty : (s.isEmpty || isNull s) = false := by
    rw [Bool.or_eq_false_iff]
    refine ⟨?_, not_contains_of_unsign hc hbody (by decide)⟩
    rw [← Bool.not_eq_true, String.isEmpty_iff]
    rintro rfl
    cases hbody
  have hboolean : boolean? s = none := by
    have htrue : ["true", "True", "TRUE"].contains s = false :=
      not_contains_of_unsign hc hbody (by decide)
    have hfalse : ["false", "False", "FALSE"].contains s = false :=
      not_contains_of_unsign hc hbody (by decide)
    rw [boolean?, htrue, hfalse]
    rfl
  have hpadded : isPadded s.toList = false := (of_whole? h).1
  rw [ofPlain, hempty, hboolean, integer?, h, hpadded]
  by_cases hfits : fits 128 k = true
  · rw [Option.filter_some, if_pos hfits, if_pos hfits]
    rfl
  · rw [Option.filter_some, if_neg hfits, if_neg hfits]
    rfl

/--
A larger integer is read as a number of double precision, and then it is the one nearest to the
integer.  Where that fails, a text is left.
-/
theorem float?_of_whole? (h : whole? s.toList = some k) (hfits : fits 128 k = false)
    {x : Double} (hx : float? s = some x) : x = Double.ofInt k ∧ x.isFinite = true := by
  obtain ⟨c, ds, hbody, hc⟩ := of_whole?_head h
  rw [float?_eq hc hbody, ← hbody, Option.filter_eq_some_iff] at hx
  obtain ⟨hread, hfinite⟩ := hx
  refine ⟨?_, hfinite⟩
  obtain ⟨-, ⟨letter, rest, hbased, hletter⟩ | ⟨n, ⟨hne, hdigits, hn⟩, hk⟩⟩ := of_whole? h
  · -- Behind the zero in front of it, the mark of a base is no exponent.
    rw [hbased] at hread
    rcases hletter with rfl | rfl | rfl <;> cases hread
  · rw [Double.unsigned?_digits hne hdigits, hn] at hread
    obtain rfl := Option.some.inj hread
    rw [Double.ofDecimal_whole hfinite, Double.ofInt]
    by_cases hminus : hasMinus s.toList = true
    · rw [if_pos hminus] at hk
      have hneg : k < 0 := by
        by_contra hle
        have hzero : k = 0 := by omega
        rw [hzero] at hfits
        cases hfits
      rw [hminus, decide_eq_true hneg, hk, Int.natAbs_neg, Int.natAbs_natCast]
    · rw [if_neg hminus] at hk
      rw [(Bool.not_eq_true _).mp hminus, decide_eq_false (by omega), hk, Int.natAbs_natCast]

/-- What comes of an integer that a scalar is written as. -/
inductive OfWhole (s : String) (k : Int) : Meaning → Prop
  | integer (hfits : fits 128 k = true) : OfWhole s k (.integer (hasMinus s.toList) k)
  | float (hfits : fits 128 k = false) (hfinite : (Double.ofInt k).isFinite = true) :
    OfWhole s k (.float (Double.ofInt k))
  | text (hfits : fits 128 k = false) : OfWhole s k (.text s)

theorem ofWhole_ofPlain (h : whole? s.toList = some k) : OfWhole s k (ofPlain s) := by
  rw [ofPlain_eq h]
  by_cases hfits : fits 128 k = true
  · rw [if_pos hfits]
    exact .integer hfits
  · rw [if_neg hfits]
    have hfits : fits 128 k = false := (Bool.not_eq_true _).mp hfits
    cases hx : float? s with
    | none => exact .text hfits
    | some x =>
      obtain ⟨rfl, hfinite⟩ := float?_of_whole? h hfits hx
      exact .float hfits hfinite

/-- A tag that belongs to a document asks for no kind. -/
theorem lookup_of_isLocal {tag : String} (h : isLocal tag = true) : kinds.lookup tag = none := by
  have hkinds : ∀ p ∈ kinds, isLocal p.1 = false := by decide
  rw [List.lookup_eq_none_iff]
  intro p hp
  rw [bne_iff_ne]
  rintro rfl
  rw [hkinds p hp] at h
  cases h

/-- The tag of an integer. -/
def integerTag : String := "tag:yaml.org,2002:int"

/-- Whether a scalar may be an integer: it is plain and has no tag, or it has the tag of one. -/
def mayBeInteger (tag : Option String) (style : Style) : Bool :=
  (tag.all isLocal && style == .plain) || tag == some integerTag

theorem ofScalar_plain {tag : Option String} {style : Style}
    (h : (tag.all isLocal && style == .plain) = true) : ofScalar tag s style = .ok (ofPlain s) := by
  obtain ⟨hlocal, hplain⟩ := (Bool.and_eq_true _ _).mp h
  cases tag with
  | none => rw [ofScalar, if_pos hplain]
  | some tag =>
    have hlocal : isLocal tag = true := hlocal
    rw [ofScalar, lookup_of_isLocal hlocal]
    dsimp only
    rw [hlocal, hplain]
    rfl

theorem ofScalar_integerTag (h : whole? s.toList = some k) (style : Style) :
    ofScalar (some integerTag) s style
      = if fits 128 k then .ok (.integer (hasMinus s.toList) k) else .error Kind.integer := by
  have hkind : kinds.lookup integerTag = some .integer := rfl
  rw [ofScalar, hkind]
  dsimp only [ofKind?]
  rw [integer?, h, Option.filter_some]
  by_cases hfits : fits 128 k = true
  · rw [if_pos hfits, if_pos hfits]
    rfl
  · rw [if_neg hfits, if_neg hfits]
    rfl

theorem ofWhole_ofScalar {tag : Option String} {style : Style} {m : Meaning}
    (hmay : mayBeInteger tag style = true) (h : whole? s.toList = some k)
    (hm : ofScalar tag s style = .ok m) : OfWhole s k m := by
  rw [mayBeInteger, Bool.or_eq_true] at hmay
  rcases hmay with hplain | htag
  · rw [ofScalar_plain hplain] at hm
    obtain rfl := Except.ok.inj hm
    exact ofWhole_ofPlain h
  · obtain rfl := beq_iff_eq.mp htag
    rw [ofScalar_integerTag h] at hm
    by_cases hfits : fits 128 k = true
    · rw [if_pos hfits] at hm
      obtain rfl := Except.ok.inj hm
      exact .integer hfits
    · rw [if_neg hfits] at hm
      cases hm

end Meaning

/-! ### Documents -/

namespace Document

variable {d : Document} {n : Node} {k : Int}

/-- The integer that a node is written as, of any size. -/
def integer? (d : Document) (n : Node) : Option Int :=
  match d.resolve n with
  | .scalar tag text style =>
    if Meaning.mayBeInteger tag style then Meaning.whole? text.toList else none
  | _ => none

/-- What an integer in a document means, told by its text. -/
theorem ofWhole_of_integer? (h : d.integer? n = some k) :
    ∃ s, d.text? n = some s ∧ ∀ m, d.meaning? n = some m → Meaning.OfWhole s k m := by
  unfold integer? at h
  unfold text? meaning?
  cases hn : d.resolve n with
  | scalar tag text style =>
    rw [hn] at h
    dsimp only at h
    by_cases hmay : Meaning.mayBeInteger tag style = true
    · rw [if_pos hmay] at h
      refine ⟨text, rfl, fun m hm => ?_⟩
      dsimp only at hm
      cases hread : Meaning.ofScalar tag text style with
      | error kind =>
        rw [hread] at hm
        cases hm
      | ok m' =>
        rw [hread] at hm
        obtain rfl := Option.some.inj hm
        exact Meaning.ofWhole_ofScalar hmay h hread
    · rw [if_neg hmay] at h
      cases h
  | _ =>
    rw [hn] at h
    cases h

end Document

end Yaml

end RowScope
