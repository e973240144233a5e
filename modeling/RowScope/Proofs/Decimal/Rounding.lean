/-
The numbers that integers round to.

Rounding works with a power of two that is guessed from the count of bits and put right
afterwards.  Seen from a number there is nothing to guess: the integers that round to it are
those of an interval around it, which reaches halfway to its neighbours (`Rounds`).  That the
two agree is `ofQuotient_eq_iff`.  It comes down to one fact about division, that a rounded
quotient is the multiple of the divisor nearest to the dividend (`roundQuotient_eq_iff`), and
to one about powers of two, that an integer is in the interval of no number far from its own
power (`Rounds.exponent`).
-/
import Mathlib.Data.Nat.Log
import Mathlib.Tactic.Linarith
import Mathlib.Tactic.Ring
import RowScope.Decimal.Shortest

namespace RowScope.Decimal.Double

/-! ### Quotients -/

/-- `k * d` is the multiple of `d` nearest to `n`, the even one if there are two. -/
def Nearest (n d k : Nat) : Prop :=
  if k % 2 = 0 then 2 * (k * d) ≤ 2 * n + d ∧ 2 * n ≤ 2 * (k * d) + d
  else 2 * (k * d) < 2 * n + d ∧ 2 * n < 2 * (k * d) + d

/-- Of two multiples that are nearest, one would be odd and the other as near. -/
theorem Nearest.unique {n d k k' : Nat} (hd : 0 < d) (h : Nearest n d k) (h' : Nearest n d k') :
    k = k' := by
  have hle : ∀ {k k' : Nat}, Nearest n d k → Nearest n d k' → k ≤ k' := by
    intro k k' h h'
    by_contra hlt
    unfold Nearest at h h'
    by_cases hnext : k = k' + 1
    · have hstep : (k' + 1) * d = k' * d + d := Nat.succ_mul _ _
      rw [hnext] at h
      split at h <;> split at h' <;> omega
    · have hfar : (k' + 2) * d ≤ k * d := Nat.mul_le_mul_right d (by omega)
      rw [Nat.add_mul] at hfar
      split at h <;> split at h' <;> omega
  exact Nat.le_antisymm (hle h h') (hle h' h)

theorem nearest_roundQuotient {n d : Nat} (hd : 0 < d) : Nearest n d (roundQuotient n d) := by
  have hn : n / d * d + n % d = n := Nat.div_add_mod' n d
  have hr : n % d < d := Nat.mod_lt n hd
  have hnext : (n / d + 1) * d = n / d * d + d := Nat.succ_mul _ _
  unfold roundQuotient Nearest
  generalize n / d = q at *
  generalize n % d = r at *
  by_cases hlow : 2 * r < d
  · rw [if_pos hlow]
    split <;> omega
  · rw [if_neg hlow]
    by_cases hhigh : d < 2 * r
    · rw [if_pos hhigh, hnext]
      split <;> omega
    · rw [if_neg hhigh]
      rcases Nat.mod_two_eq_zero_or_one q with hq | hq
      · rw [hq, Nat.add_zero, if_pos hq]
        omega
      · rw [hq, hnext, if_pos (by omega)]
        omega

theorem roundQuotient_eq_iff {n d k : Nat} (hd : 0 < d) :
    roundQuotient n d = k ↔ Nearest n d k := by
  constructor
  · rintro rfl
    exact nearest_roundQuotient hd
  · intro h
    exact (nearest_roundQuotient hd).unique hd h

/-! ### Integers -/

/--
How far the interval of a number reaches down, in quarters of the step above it: the numbers below
one with the least significand are closer together.
-/
def below (m : Nat) : Nat := if m = 2 ^ 52 then 1 else 2

/--
An integer lies in the interval of a number `m * 2 ^ g`, which reaches halfway to the numbers next
to it.  The ends belong to it if `m` is even.
-/
def Rounds (m g n : Nat) : Prop :=
  if m % 2 = 0 then
    4 * (m * 2 ^ g) ≤ 4 * n + below m * 2 ^ g ∧ 4 * n ≤ 4 * (m * 2 ^ g) + 2 * 2 ^ g
  else 4 * (m * 2 ^ g) < 4 * n + below m * 2 ^ g ∧ 4 * n < 4 * (m * 2 ^ g) + 2 * 2 ^ g

/-- Significand and exponent of a large integer after rounding, by its count of bits. -/
def rounded (n g : Nat) : Nat × Nat :=
  let m := roundQuotient n (2 ^ g)
  if m = 2 ^ 53 then (2 ^ 52, g + 1) else (m, g)

theorem scaleDown_natCast (n g : Nat) : scaleDown n 1 (g : Int) = (n, 2 ^ g) := by
  show scaleDown n 1 (Int.ofNat g) = (n, 2 ^ g)
  rw [scaleDown, Nat.one_mul, Nat.pow_eq]

/-- A significand that has come to one bit more is halved. -/
theorem carried_eq (n g : Nat) :
    (if roundQuotient n (2 ^ g) = Nat.pow 2 53 then (Nat.pow 2 52, (g : Int) + 1)
      else (roundQuotient n (2 ^ g), (g : Int))) = ((rounded n g).1, ((rounded n g).2 : Int)) := by
  rw [Nat.pow_eq, Nat.pow_eq]
  unfold rounded
  by_cases hcarry : roundQuotient n (2 ^ g) = 2 ^ 53
  · simp only [if_pos hcarry, Int.natCast_succ]
  · simp only [if_neg hcarry]

/-- What rounding comes to, step by step, where the exponent that is guessed first is right. -/
theorem rounded_of_steps {n g a b a' b' m : Nat} {guess e k : Int}
    (hbits : ¬n < 2 ^ g * 2 ^ 52) (hguess : guess = g) (hfirst : scaleDown n 1 guess = (a, b))
    (he : e = max (if a < b * Nat.pow 2 52 then guess - 1 else guess) minExponent)
    (hsecond : scaleDown n 1 e = (a', b'))
    (hround : (if roundQuotient a' b' = Nat.pow 2 53 then (Nat.pow 2 52, e + 1)
      else (roundQuotient a' b', e)) = (m, k)) :
    m = (rounded n g).1 ∧ k = (rounded n g).2 := by
  rw [hguess, scaleDown_natCast] at hfirst
  cases hfirst
  rw [Nat.pow_eq, if_neg hbits, hguess] at he
  have hkept : e = g := by
    rw [he, minExponent]
    omega
  rw [hkept, scaleDown_natCast] at hsecond
  cases hsecond
  rw [hkept, carried_eq] at hround
  cases hround
  exact ⟨rfl, rfl⟩

/-- With its bits counted, an integer is rounded at the exponent that is guessed first. -/
theorem ofQuotient_of_log2 (negative : Bool) {n g : Nat} (h : n.log2 = g + 52) :
    ofQuotient negative n 1
      = if 971 < (rounded n g).2 then infinite negative
        else finite negative (rounded n g).1 (rounded n g).2 := by
  have hn : n ≠ 0 := by
    rintro rfl
    simp [Nat.log2_def] at h
  have hbits : ¬n < 2 ^ g * 2 ^ 52 := by
    rw [Nat.not_lt, ← Nat.pow_add, ← h]
    exact Nat.log2_self_le hn
  have hguess : (n.log2 : Int) - (Nat.log2 1 : Int) - 52 = g := by
    have hone : Nat.log2 1 = 0 := by simp [Nat.log2_def]
    rw [h, hone]
    simp
  fun_cases ofQuotient negative n 1 with
  | case1 hzero => exact absurd hzero hn
  | case2 _ guess a b hfirst e a' b' hsecond m m' e' hround hlarge =>
    obtain ⟨-, he⟩ := rounded_of_steps hbits hguess hfirst rfl hsecond hround
    rw [if_pos]
    rw [he, maxExponent] at hlarge
    omega
  | case3 _ guess a b hfirst e a' b' hsecond m m' e' hround hlarge =>
    obtain ⟨hm, he⟩ := rounded_of_steps hbits hguess hfirst rfl hsecond hround
    rw [if_neg, hm, he]
    rw [he, maxExponent] at hlarge
    omega

theorem rounds_of_even {m g n : Nat} (h : m % 2 = 0) : Rounds m g n ↔
    4 * (m * 2 ^ g) ≤ 4 * n + below m * 2 ^ g ∧ 4 * n ≤ 4 * (m * 2 ^ g) + 2 * 2 ^ g := by
  rw [Rounds, if_pos h]

theorem rounds_of_odd {m g n : Nat} (h : ¬m % 2 = 0) : Rounds m g n ↔
    4 * (m * 2 ^ g) < 4 * n + below m * 2 ^ g ∧ 4 * n < 4 * (m * 2 ^ g) + 2 * 2 ^ g := by
  rw [Rounds, if_neg h]

theorem below_least : below (2 ^ 52) = 1 := if_pos rfl

theorem below_of_ne {m : Nat} (h : m ≠ 2 ^ 52) : below m = 2 := if_neg h

theorem one_le_below (m : Nat) : 1 ≤ below m := by
  unfold below
  split <;> omega

theorem below_le_two (m : Nat) : below m ≤ 2 := by
  unfold below
  split <;> omega

theorem Rounds.bounds {m g n : Nat} (h : Rounds m g n) :
    4 * (m * 2 ^ g) ≤ 4 * n + below m * 2 ^ g ∧ 4 * n ≤ 4 * (m * 2 ^ g) + 2 * 2 ^ g := by
  unfold Rounds at h
  split at h <;> omega

section Interval

variable {m n g : Nat}

/-- Within its own power of two, an integer is in the interval of the multiple nearest to it. -/
theorem nearest_iff_rounds (hn : 2 ^ 52 * 2 ^ g ≤ n) : Nearest n (2 ^ g) m ↔ Rounds m g n := by
  unfold Nearest Rounds
  by_cases hleast : m = 2 ^ 52
  · rw [hleast, below_least, if_pos (by decide), if_pos (by decide)]
    generalize 2 ^ g = d at *
    omega
  · rw [below_of_ne hleast]
    generalize m * 2 ^ g = v
    generalize 2 ^ g = d
    split <;> omega

/-- Just below the next power of two, it is in the interval of that. -/
theorem nearest_iff_rounds_carry (hn : n < 2 ^ 53 * 2 ^ g) :
    Nearest n (2 ^ g) (2 ^ 53) ↔ Rounds (2 ^ 52) (g + 1) n := by
  unfold Nearest Rounds
  rw [below_least, if_pos (by decide), if_pos (by decide), pow_succ 2 g]
  generalize 2 ^ g = d at *
  omega

/-- An integer is in the interval of no number far from its own power of two. -/
theorem Rounds.exponent {g' : Nat} (h : Rounds m g' n) (hm : 2 ^ 52 ≤ m) (hm' : m < 2 ^ 53)
    (hlow : 2 ^ 52 * 2 ^ g ≤ n) (hhigh : n < 2 ^ 53 * 2 ^ g) :
    g' = g ∨ m = 2 ^ 52 ∧ g' = g + 1 := by
  obtain ⟨hlower, hupper⟩ := h.bounds
  have hreach : below m * 2 ^ g' ≤ 2 * 2 ^ g' := Nat.mul_le_mul_right _ (below_le_two m)
  rcases Nat.lt_trichotomy g' g with hlt | heq | hgt
  · have hstep : 2 ^ (g' + 1) ≤ 2 ^ g := Nat.pow_le_pow_right (by decide) hlt
    have hvalue : m * 2 ^ g' ≤ (2 ^ 53 - 1) * 2 ^ g' := Nat.mul_le_mul_right _ (by omega)
    rw [pow_succ 2 g'] at hstep
    generalize m * 2 ^ g' = v at *
    generalize 2 ^ g' = u at *
    generalize 2 ^ g = d at *
    omega
  · exact .inl heq
  · have hvalue : 2 ^ 52 * 2 ^ g' ≤ m * 2 ^ g' := Nat.mul_le_mul_right _ hm
    rcases Nat.eq_or_lt_of_le (Nat.succ_le_of_lt hgt) with rfl | hfar
    · refine .inr ⟨?_, rfl⟩
      by_contra hne
      have hstep : 2 ^ (g + 1) = 2 ^ g * 2 := pow_succ 2 g
      have hvalue : (2 ^ 52 + 1) * 2 ^ (g + 1) ≤ m * 2 ^ (g + 1) :=
        Nat.mul_le_mul_right _ (by omega)
      generalize m * 2 ^ (g + 1) = v at *
      generalize 2 ^ (g + 1) = u at *
      generalize 2 ^ g = d at *
      omega
    · have hstep : 2 ^ (g + 2) ≤ 2 ^ g' := Nat.pow_le_pow_right (by decide) hfar
      rw [pow_add 2 g 2] at hstep
      generalize m * 2 ^ g' = v at *
      generalize 2 ^ g' = u at *
      generalize 2 ^ g = d at *
      omega

theorem rounded_eq_iff {g' : Nat} (hm : 2 ^ 52 ≤ m) (hm' : m < 2 ^ 53)
    (hlow : 2 ^ 52 * 2 ^ g ≤ n) (hhigh : n < 2 ^ 53 * 2 ^ g) :
    rounded n g = (m, g') ↔ Rounds m g' n := by
  have hd : 0 < 2 ^ g := Nat.two_pow_pos g
  have hround : ∀ k, roundQuotient n (2 ^ g) = k ↔ Nearest n (2 ^ g) k :=
    fun k => roundQuotient_eq_iff hd
  unfold rounded
  constructor
  · intro h
    by_cases hcarry : roundQuotient n (2 ^ g) = 2 ^ 53
    · simp only [if_pos hcarry, Prod.mk.injEq] at h
      obtain ⟨rfl, rfl⟩ := h
      exact (nearest_iff_rounds_carry hhigh).mp ((hround _).mp hcarry)
    · simp only [if_neg hcarry, Prod.mk.injEq] at h
      obtain ⟨hk, rfl⟩ := h
      exact (nearest_iff_rounds hlow).mp ((hround _).mp hk)
  · intro h
    rcases h.exponent hm hm' hlow hhigh with rfl | ⟨rfl, rfl⟩
    · have hk := (hround m).mpr ((nearest_iff_rounds hlow).mpr h)
      simp only [hk, if_neg (Nat.ne_of_lt hm')]
    · have hk := (hround _).mpr ((nearest_iff_rounds_carry hhigh).mpr h)
      simp only [if_pos hk]

/-- A rounded integer keeps the 53 bits of a significand. -/
theorem rounded_bounds (hlow : 2 ^ 52 * 2 ^ g ≤ n) (hhigh : n < 2 ^ 53 * 2 ^ g) :
    2 ^ 52 ≤ (rounded n g).1 ∧ (rounded n g).1 < 2 ^ 53 ∧ g ≤ (rounded n g).2 := by
  have hd : 0 < 2 ^ g := Nat.two_pow_pos g
  have hfloor : 2 ^ 52 ≤ n / 2 ^ g := (Nat.le_div_iff_mul_le hd).mpr hlow
  have hceil : n / 2 ^ g < 2 ^ 53 := (Nat.div_lt_iff_lt_mul hd).mpr hhigh
  have hround : n / 2 ^ g ≤ roundQuotient n (2 ^ g) ∧
      roundQuotient n (2 ^ g) ≤ n / 2 ^ g + 1 := by
    simp only [roundQuotient]
    split
    · omega
    · split <;> omega
  unfold rounded
  by_cases hcarry : roundQuotient n (2 ^ g) = 2 ^ 53
  · simp only [if_pos hcarry]
    omega
  · simp only [if_neg hcarry]
    omega

theorem bits_of_le (hn : 2 ^ 52 ≤ n) :
    ∃ g, n.log2 = g + 52 ∧ 2 ^ 52 * 2 ^ g ≤ n ∧ n < 2 ^ 53 * 2 ^ g := by
  have hne : n ≠ 0 := by omega
  have hlog : 52 ≤ n.log2 := (Nat.le_log2 hne).mpr hn
  obtain ⟨g, hg⟩ := Nat.exists_eq_add_of_le hlog
  refine ⟨g, by omega, ?_, ?_⟩
  · rw [← pow_add, ← hg]
    exact Nat.log2_self_le hne
  · rw [← pow_add, show 53 + g = n.log2 + 1 by omega]
    exact Nat.lt_log2_self

/-- An integer below the least significand is written with an exponent below zero. -/
theorem ofQuotient_of_small (negative : Bool) (hn : n < 2 ^ 52) (hm : 2 ^ 52 ≤ m) :
    ofQuotient negative n 1 ≠ finite negative m g := by
  fun_cases ofQuotient negative n 1 with
  | case1 =>
    intro h
    cases h
  | case2 => nofun
  | case3 hne guess a b hfirst e a' b' hsecond m' k e' hround hlarge =>
    intro h
    obtain ⟨-, rfl, rfl⟩ := Double.finite.inj h
    have hlog : n.log2 < 52 := (Nat.log2_lt hne).mpr hn
    have he : e < 0 := by
      have hguess : guess ≤ n.log2 - 52 := by
        simp only [guess]
        omega
      have hmin : minExponent < 0 := by decide
      apply Int.max_lt.mpr
      constructor
      · split <;> omega
      · exact hmin
    by_cases hcarry : m' = Nat.pow 2 53
    · rw [if_pos hcarry] at hround
      have hlast : e = Int.negSucc 0 := by
        have := (Prod.mk.inj hround).2
        omega
      rw [hlast, scaleDown] at hsecond
      obtain ⟨rfl, rfl⟩ := Prod.mk.inj hsecond
      have hnear := (roundQuotient_eq_iff Nat.one_pos).mp hcarry
      rw [Nat.pow_eq, Nat.pow_eq, Nearest, if_pos (by decide)] at hnear
      omega
    · rw [if_neg hcarry] at hround
      have := (Prod.mk.inj hround).2
      omega

/-- The integers that round to a number of whole value are those of its interval. -/
theorem ofQuotient_eq_iff (negative : Bool) (hm : 2 ^ 52 ≤ m) (hm' : m < 2 ^ 53) (hg : g ≤ 971) :
    ofQuotient negative n 1 = finite negative m g ↔ Rounds m g n := by
  by_cases hn : n < 2 ^ 52
  · refine iff_of_false (ofQuotient_of_small negative hn hm) fun h => ?_
    have hlower := h.bounds.1
    have hd : 0 < 2 ^ g := Nat.two_pow_pos g
    by_cases hleast : m = 2 ^ 52
    · rw [hleast, below_least] at hlower
      omega
    · have hvalue : (2 ^ 52 + 1) * 2 ^ g ≤ m * 2 ^ g := Nat.mul_le_mul_right _ (by omega)
      rw [below_of_ne hleast] at hlower
      omega
  · obtain ⟨g', hlog, hlow, hhigh⟩ := bits_of_le (Nat.not_lt.mp hn)
    rw [ofQuotient_of_log2 negative hlog, ← rounded_eq_iff hm hm' hlow hhigh]
    by_cases hlarge : 971 < (rounded n g').2
    · rw [if_pos hlarge]
      refine iff_of_false nofun fun h => ?_
      rw [h] at hlarge
      omega
    · rw [if_neg hlarge, Double.finite.injEq, Prod.ext_iff]
      simp

/-- What a large integer rounds to, unless it is out of range. -/
theorem ofQuotient_of_large (negative : Bool) (hn : 2 ^ 63 ≤ n) :
    ofQuotient negative n 1 = infinite negative ∨
      ∃ m g : Nat, ofQuotient negative n 1 = finite negative m g ∧
        2 ^ 52 ≤ m ∧ m < 2 ^ 53 ∧ 11 ≤ g ∧ g ≤ 971 := by
  obtain ⟨g, hlog, hlow, hhigh⟩ := bits_of_le (Nat.le_trans (by decide) hn)
  obtain ⟨hm, hm', hg⟩ := rounded_bounds hlow hhigh
  have hmin : 63 ≤ n.log2 := (Nat.le_log2 (by omega)).mpr hn
  rw [ofQuotient_of_log2 negative hlog]
  by_cases hlarge : 971 < (rounded n g).2
  · exact .inl (if_pos hlarge)
  · exact .inr ⟨_, _, if_neg hlarge, hm, hm', by omega, by omega⟩

end Interval

end RowScope.Decimal.Double
