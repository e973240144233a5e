/-
The numbers that a configuration can come to, and what they are written with.

An integer of 64 bits has a double nearest to it, as its logarithm is far below the largest
exponent.  A finite number is written by position, so the words for numbers that are none
cannot come up: there are no letters in its text.
-/
import RowScope.Decimal.Shortest
import RowScope.Yaml.Scalar

namespace RowScope.Decimal

namespace Double

/-! ### Integers -/

theorem isFinite_ofQuotient (negative : Bool) {n : Nat} (h : n.log2 ≤ 1000) :
    (ofQuotient negative n 1).isFinite = true := by
  fun_cases ofQuotient negative n 1 with
  | case1 => rfl
  | case2 _ guess a b _ e _ _ _ m m' e' hround hlarge =>
    have hone : Nat.log2 1 = 0 := by simp [Nat.log2_def]
    have he : e + 1 ≤ maxExponent := by
      simp only [e, guess, hone, minExponent, maxExponent]
      split <;> omega
    have he' : e' ≤ e + 1 := by
      split at hround <;> cases hround <;> omega
    omega
  | case3 => rfl

theorem log2_of_fits {n : Int} (h : Yaml.Meaning.fits 64 n = true) : n.natAbs.log2 ≤ 1000 := by
  have hlt : n.natAbs < 2 ^ 65 := by
    simp only [Yaml.Meaning.fits, Yaml.Meaning.fitsSigned, Yaml.Meaning.fitsUnsigned,
      Bool.or_eq_true, Bool.and_eq_true, decide_eq_true_eq] at h
    split at h <;> simp at h <;> omega
  by_cases hn : n.natAbs = 0
  · simp [hn, Nat.log2_def]
  · have := (Nat.log2_lt hn).2 hlt
    omega

theorem isFinite_ofInt {n : Int} (h : Yaml.Meaning.fits 64 n = true) : (ofInt n).isFinite = true :=
  isFinite_ofQuotient _ (log2_of_fits h)

/-! ### Texts -/

theorem mem_positional {ds : List Char} {k : Int} {c : Char} (h : c ∈ positional ds k) :
    c ∈ ds ∨ c = '0' ∨ c = '.' := by
  cases k with
  | ofNat k =>
    rcases List.mem_append.1 h with h | h
    · exact .inl h
    · exact .inr (.inl (List.eq_of_mem_replicate h))
  | negSucc k =>
    simp only [positional] at h
    split at h
    · rcases List.mem_append.1 h with h | h
      · exact .inl (List.mem_of_mem_take h)
      · rcases List.mem_cons.1 h with h | h
        · exact .inr (.inr h)
        · exact .inl (List.mem_of_mem_drop h)
    · simp only [List.mem_cons, List.mem_append] at h
      rcases h with h | h | h | h
      · exact .inr (.inl h)
      · exact .inr (.inr h)
      · exact .inr (.inl (List.eq_of_mem_replicate h))
      · exact .inl h

/-- The text of a finite number has no letters. -/
theorem mem_render {x : Double} (hx : x.isFinite = true) {c : Char} (hc : c ∈ x.render.toList) :
    c.isDigit = true ∨ c = '.' ∨ c = '-' := by
  cases x with
  | finite negative m q =>
    have hbody : ∀ body : List Char, (∀ c ∈ body, c.isDigit = true ∨ c = '.') →
        c ∈ (if negative then '-' :: body else body) → c.isDigit = true ∨ c = '.' ∨ c = '-' := by
      intro body hbody hc
      cases negative with
      | true =>
        rcases List.mem_cons.1 hc with h | h
        · exact .inr (.inr h)
        · exact (hbody c h).imp_right .inl
      | false => exact (hbody c hc).imp_right .inl
    rw [render, String.toList_ofList] at hc
    refine hbody _ (fun c hc => ?_) hc
    split at hc
    · rw [List.mem_singleton.1 hc]
      exact .inl rfl
    · rcases mem_positional hc with h | h | h
      · exact .inl (Nat.isDigit_of_mem_toDigits (by decide) (by decide) (List.mem_of_mem_take h))
      · exact .inl (h ▸ rfl)
      · exact .inr h
  | _ => cases hx

end Double

/-- The text of an integer has no letters either. -/
theorem mem_toString {n : Int} {c : Char} (hc : c ∈ (toString n).toList) :
    c.isDigit = true ∨ c = '-' := by
  have hdigit : ∀ {k : Nat}, c ∈ Nat.toDigits 10 k → c.isDigit = true :=
    Nat.isDigit_of_mem_toDigits (by decide) (by decide)
  rw [Int.toString_eq_repr] at hc
  cases n with
  | ofNat n =>
    rw [Int.repr, Nat.toList_repr] at hc
    exact .inl (hdigit hc)
  | negSucc n =>
    rw [Int.repr, String.toList_append, Nat.toList_repr] at hc
    rcases List.mem_cons.1 hc with h | h
    · exact .inr h
    · exact .inl (hdigit h)

end RowScope.Decimal
