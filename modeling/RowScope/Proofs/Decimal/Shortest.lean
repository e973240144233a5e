/-
The shortest text of a large number of whole value.

The shortest text comes of trying one grid of decimals after the other, the coarsest first,
and of looking at two neighbours on each.  What is found that way is described without grids:
of all integers that round to the same number it has the most zeros at its end, and of those
with as many it is the nearest to the number (`Roundest`).  There is only one such integer, so
an integer is written as itself exactly if it is that one (`Abbreviates.unique`).

Two things have to be seen to.  The first grid is as coarse as the first digit of the number,
but a power of ten just above it has one zero more (`Rounds.eq_top`).  And seventeen grids are
enough, as the interval is wider than the unit of the last one (`exists_onGrid?`).
-/
import RowScope.Proofs.Decimal.Rounding

namespace RowScope.Decimal.Double

/-- Which of two integers is nearer to a third; of two that are as near, the larger one. -/
def Nearer (v n n' : Nat) : Prop :=
  ((n : Int) - v).natAbs < ((n' : Int) - v).natAbs ∨
    ((n : Int) - v).natAbs = ((n' : Int) - v).natAbs ∧ n' ≤ n

/--
Of the integers of a kind, one with as many zeros at its end as any has, and of those the one
nearest to a value.
-/
structure Roundest (P : Nat → Prop) (v n zeros : Nat) : Prop where
  holds : P n
  divides : 10 ^ zeros ∣ n
  most : ∀ n', P n' → ¬10 ^ (zeros + 1) ∣ n'
  nearest : ∀ n', P n' → 10 ^ zeros ∣ n' → Nearer v n n'

/-- There is only one such integer. -/
theorem Roundest.unique {P : Nat → Prop} {v n zeros n' zeros' : Nat} (h : Roundest P v n zeros)
    (h' : Roundest P v n' zeros') : n = n' := by
  have hle : ∀ {n zeros n' zeros' : Nat}, Roundest P v n zeros → Roundest P v n' zeros' →
      zeros' ≤ zeros := by
    intro n zeros n' zeros' h h'
    by_contra hlt
    have hmore : 10 ^ (zeros + 1) ∣ 10 ^ zeros' := Nat.pow_dvd_pow 10 (by omega)
    exact h.most n' h'.holds (Nat.dvd_trans hmore h'.divides)
  have hzeros : zeros = zeros' := Nat.le_antisymm (hle h' h) (hle h h')
  have hnear := h.nearest n' h'.holds (hzeros ▸ h'.divides)
  have hnear' := h'.nearest n h.holds (hzeros ▸ h.divides)
  unfold Nearer at hnear hnear'
  omega

/-- On the finest grid that has one, the nearest integer of a kind is the roundest of all. -/
theorem roundest_of_grid {P : Nat → Prop} {v k u : Nat} (hk : P (k * 10 ^ u))
    (hnearest : ∀ k', P (k' * 10 ^ u) → Nearer v (k * 10 ^ u) (k' * 10 ^ u))
    (hcoarser : ∀ k', ¬P (k' * 10 ^ (u + 1))) : Roundest P v (k * 10 ^ u) u where
  holds := hk
  divides := Nat.dvd_mul_left _ _
  most n' hn' hdvd := by
    obtain ⟨k', rfl⟩ := hdvd
    rw [Nat.mul_comm] at hn'
    exact hcoarser k' hn'
  nearest n' hn' hdvd := by
    obtain ⟨k', rfl⟩ := hdvd
    rw [Nat.mul_comm (10 ^ u) k'] at hn' ⊢
    exact hnearest k' hn'

instance (m g n : Nat) : Decidable (Rounds m g n) :=
  inferInstanceAs (Decidable (if m % 2 = 0 then _ else _))

section Whole

variable {m g n n' : Nat}

/-! ### The interval -/

/-- Whatever is between a number and an integer of its interval is in the interval. -/
theorem Rounds.between (h : Rounds m g n)
    (hn' : n ≤ n' ∧ n' ≤ m * 2 ^ g ∨ m * 2 ^ g ≤ n' ∧ n' ≤ n) : Rounds m g n' := by
  have hstep : 0 < 2 ^ g := Nat.two_pow_pos g
  have hreach : 1 * 2 ^ g ≤ below m * 2 ^ g := Nat.mul_le_mul_right _ (one_le_below m)
  by_cases heven : m % 2 = 0
  · rw [rounds_of_even heven] at *
    omega
  · rw [rounds_of_odd heven] at *
    omega

/-! ### A grid -/

theorem scaled_point (hg : 0 < g) (x u : Nat) :
    scaleDownTen (scaleDown x 4 (-(g : Int))).1 (scaleDown x 4 (-(g : Int))).2 (u : Int)
      = (x * 2 ^ g, 4 * 10 ^ u) := by
  obtain ⟨g, rfl⟩ := Nat.exists_eq_add_of_le' hg
  show scaleDownTen (scaleDown x 4 (Int.negSucc g)).1 (scaleDown x 4 (Int.negSucc g)).2
    (Int.ofNat u) = _
  rw [scaleDown, scaleDownTen, Nat.pow_eq, Nat.pow_eq]

/-- The integer of the grid that is found, told by the interval alone. -/
theorem onGrid?_eq (hg : 0 < g) (u : Nat) :
    onGrid? m g u
      = let k := m * 2 ^ g / 10 ^ u
        if Rounds m g (k * 10 ^ u) ∧
            (¬Rounds m g ((k + 1) * 10 ^ u) ∨ 2 * (m * 2 ^ g % 10 ^ u) < 10 ^ u) then some k
        else if Rounds m g ((k + 1) * 10 ^ u) then some (k + 1)
        else none := by
  have hexponent : minExponent < (g : Int) := by
    rw [minExponent]
    omega
  have hbelow : (if m = Nat.pow 2 52 ∧ minExponent < (g : Int) then 1 else 2) = below m := by
    unfold below
    simp only [Nat.pow_eq, hexponent, and_true]
  have hdiv : 4 * m * 2 ^ g / (4 * 10 ^ u) = m * 2 ^ g / 10 ^ u := by
    rw [Nat.mul_assoc, Nat.mul_div_mul_left _ _ (by decide)]
  have hmod : 4 * m * 2 ^ g % (4 * 10 ^ u) = 4 * (m * 2 ^ g % 10 ^ u) := by
    rw [Nat.mul_assoc, Nat.mul_mod_mul_left]
  have hinside : ∀ k, (if m % 2 = 0 then
        decide ((4 * m - below m) * 2 ^ g ≤ k * (4 * 10 ^ u)) &&
          decide (k * (4 * 10 ^ u) ≤ (4 * m + 2) * 2 ^ g)
      else
        decide ((4 * m - below m) * 2 ^ g < k * (4 * 10 ^ u)) &&
          decide (k * (4 * 10 ^ u) < (4 * m + 2) * 2 ^ g)) = decide (Rounds m g (k * 10 ^ u)) := by
    intro k
    rw [Nat.sub_mul, Nat.add_mul, Nat.mul_assoc 4, Nat.mul_left_comm k]
    have hreach : below m * 2 ^ g ≤ 2 * 2 ^ g := Nat.mul_le_mul_right _ (below_le_two m)
    by_cases heven : m % 2 = 0
    · rw [if_pos heven, ← Bool.decide_and, decide_eq_decide, rounds_of_even heven]
      omega
    · have hleast : 1 * 2 ^ g ≤ m * 2 ^ g := Nat.mul_le_mul_right _ (by omega)
      rw [if_neg heven, ← Bool.decide_and, decide_eq_decide, rounds_of_odd heven]
      omega
  have hclose : 2 * (4 * (m * 2 ^ g % 10 ^ u)) < 4 * 10 ^ u
      ↔ 2 * (m * 2 ^ g % 10 ^ u) < 10 ^ u := by omega
  unfold onGrid?
  simp only [scaled_point hg, hbelow, hdiv, hmod, hinside, hclose, Bool.and_eq_true,
    Bool.or_eq_true, Bool.not_eq_true', decide_eq_true_eq, decide_eq_false_iff_not]

/-- The neighbours of a number on a grid, and where the other integers of the grid are. -/
theorem grid_sides (v : Nat) {p : Nat} (hp : 0 < p) :
    v = v / p * p + v % p ∧ v % p < p ∧ (v / p + 1) * p = v / p * p + p ∧
      ∀ k, k * p ≤ v / p * p ∨ (v / p + 1) * p ≤ k * p := by
  refine ⟨(Nat.div_add_mod' v p).symm, Nat.mod_lt v hp, Nat.succ_mul _ _, fun k => ?_⟩
  by_cases hk : k ≤ v / p
  · exact .inl (Nat.mul_le_mul_right p hk)
  · exact .inr (Nat.mul_le_mul_right p (by omega))

/-- If an integer of a grid is in the interval, so is the neighbour of the number on that side. -/
theorem Rounds.neighbour {u k : Nat} (h : Rounds m g (k * 10 ^ u)) :
    (k * 10 ^ u ≤ m * 2 ^ g / 10 ^ u * 10 ^ u → Rounds m g (m * 2 ^ g / 10 ^ u * 10 ^ u)) ∧
    ((m * 2 ^ g / 10 ^ u + 1) * 10 ^ u ≤ k * 10 ^ u →
      Rounds m g ((m * 2 ^ g / 10 ^ u + 1) * 10 ^ u)) := by
  obtain ⟨hvalue, hrest, hnext, -⟩ :=
    grid_sides (m * 2 ^ g) (Nat.pow_pos (by decide) : 0 < 10 ^ u)
  constructor
  · intro hle
    exact h.between (.inl ⟨hle, by omega⟩)
  · intro hle
    exact h.between (.inr ⟨by omega, hle⟩)

/-- What is found on a grid lies in the interval, and no integer of the grid there is nearer. -/
theorem onGrid?_eq_some (hg : 0 < g) {u k : Nat} (h : onGrid? m g u = some k) :
    Rounds m g (k * 10 ^ u) ∧
      ∀ k', Rounds m g (k' * 10 ^ u) → Nearer (m * 2 ^ g) (k * 10 ^ u) (k' * 10 ^ u) := by
  obtain ⟨hvalue, hrest, hnext, hsides⟩ :=
    grid_sides (m * 2 ^ g) (Nat.pow_pos (by decide) : 0 < 10 ^ u)
  have hneighbour := fun k' => @Rounds.neighbour m g u k'
  rw [onGrid?_eq hg] at h
  unfold Nearer
  generalize m * 2 ^ g / 10 ^ u = f at *
  generalize m * 2 ^ g % 10 ^ u = r at *
  by_cases hfloor : Rounds m g (f * 10 ^ u) ∧ (¬Rounds m g ((f + 1) * 10 ^ u) ∨ 2 * r < 10 ^ u)
  · rw [if_pos hfloor] at h
    obtain rfl := Option.some.inj h
    refine ⟨hfloor.1, fun k' hk' => ?_⟩
    rcases hsides k' with hle | hge
    · omega
    · have hclose : 2 * r < 10 ^ u :=
        hfloor.2.resolve_left fun hceil => hceil ((hneighbour k' hk').2 hge)
      omega
  · rw [if_neg hfloor] at h
    by_cases hceil : Rounds m g ((f + 1) * 10 ^ u)
    · rw [if_pos hceil] at h
      obtain rfl := Option.some.inj h
      refine ⟨hceil, fun k' hk' => ?_⟩
      rcases hsides k' with hle | hge
      · have hfar : ¬2 * r < 10 ^ u := fun hr => hfloor ⟨(hneighbour k' hk').1 hle, .inr hr⟩
        omega
      · omega
    · rw [if_neg hceil] at h
      cases h

/-- Where nothing is found on a grid, none of it lies in the interval. -/
theorem onGrid?_eq_none (hg : 0 < g) {u : Nat} (h : onGrid? m g u = none) (k : Nat) :
    ¬Rounds m g (k * 10 ^ u) := by
  intro hk
  obtain ⟨-, -, -, hsides⟩ := grid_sides (m * 2 ^ g) (Nat.pow_pos (by decide) : 0 < 10 ^ u)
  obtain ⟨hfloor, hceil⟩ := hk.neighbour
  rw [onGrid?_eq hg] at h
  dsimp only at h
  split at h
  · cases h
  · rename_i hnot
    split at h
    · cases h
    · rename_i hnext
      rcases hsides k with hle | hge
      · exact hnot ⟨hfloor hle, .inl hnext⟩
      · exact hnext (hceil hge)

/-! ### The first grid -/

/-- An integer of the interval is no further from the number than half a step. -/
theorem Rounds.close (h : Rounds m g n) :
    2 * n ≤ 2 * (m * 2 ^ g) + 2 ^ g ∧ 2 * (m * 2 ^ g) ≤ 2 * n + 2 ^ g := by
  obtain ⟨hlower, hupper⟩ := h.bounds
  have hreach : below m * 2 ^ g ≤ 2 * 2 ^ g := Nat.mul_le_mul_right _ (below_le_two m)
  omega

theorem Rounds.pos (h : Rounds m g n) (hm : 2 ^ 52 ≤ m) : 0 < n := by
  have hclose := h.close
  have hstep : 0 < 2 ^ g := Nat.two_pow_pos g
  have hleast : 2 ^ 52 * 2 ^ g ≤ m * 2 ^ g := Nat.mul_le_mul_right _ hm
  omega

/-- Seventeen digits are always enough: a grid that fine has an integer in the interval. -/
theorem exists_onGrid? (hm : 2 ^ 52 ≤ m) (hm' : m < 2 ^ 53) (hg : 0 < g) {u : Nat}
    (hu : 10 ^ 16 * 10 ^ u ≤ m * 2 ^ g) : (onGrid? m g u).isSome := by
  rw [← Option.ne_none_iff_isSome]
  intro hnone
  obtain ⟨hvalue, hrest, hnext, -⟩ :=
    grid_sides (m * 2 ^ g) (Nat.pow_pos (by decide) : 0 < 10 ^ u)
  have hfloor := onGrid?_eq_none hg hnone (m * 2 ^ g / 10 ^ u)
  have hceil := onGrid?_eq_none hg hnone (m * 2 ^ g / 10 ^ u + 1)
  have hstep : 0 < 2 ^ g := Nat.two_pow_pos g
  rw [hnext] at hceil
  by_cases hleast : m = 2 ^ 52
  · have heven : m % 2 = 0 := by omega
    have hbelow : below m = 1 := if_pos hleast
    rw [rounds_of_even heven, hbelow] at hfloor hceil
    rw [hleast] at hfloor hceil hvalue hu hrest
    omega
  · have hmax : m * 2 ^ g ≤ (2 ^ 53 - 1) * 2 ^ g := Nat.mul_le_mul_right _ (by omega)
    by_cases heven : m % 2 = 0
    · rw [rounds_of_even heven, below_of_ne hleast] at hfloor hceil
      omega
    · rw [rounds_of_odd heven, below_of_ne hleast] at hfloor hceil
      omega

/-- What is found along a range is found at some index, and nothing is found ahead of it. -/
theorem findSome?_range {α : Type} (f : Nat → Option α) (n : Nat) :
    ((∀ i < n, f i = none) ∧ (List.range n).findSome? f = none) ∨
      ∃ i < n, ∃ b, f i = some b ∧ (∀ k < i, f k = none) ∧
        (List.range n).findSome? f = some b := by
  induction n with
  | zero => exact .inl ⟨nofun, rfl⟩
  | succ n ih =>
    rw [List.range_succ, List.findSome?_append]
    rcases ih with ⟨hnone, hrange⟩ | ⟨i, hi, b, hb, hfirst, hrange⟩
    · rw [hrange, Option.none_or, List.findSome?_singleton]
      cases hn : f n with
      | none =>
        refine .inl ⟨fun i hi => ?_, rfl⟩
        rcases Nat.lt_succ_iff_lt_or_eq.mp hi with hlt | rfl
        · exact hnone i hlt
        · exact hn
      | some b => exact .inr ⟨n, Nat.lt_succ_self n, b, hn, hnone, rfl⟩
    · rw [hrange, Option.some_or]
      exact .inr ⟨i, Nat.lt_succ_of_lt hi, b, hb, hfirst, rfl⟩

/-- How many digits a number has bounds it. -/
theorem digits_bounds {v t : Nat} (hv : 2 ^ 63 ≤ v) (ht : (Nat.toDigits 10 v).length = t) :
    19 ≤ t ∧ 10 ^ (t - 1) ≤ v ∧ v < 10 ^ t := by
  have hten : 1 < 10 := by decide
  have hmin : 19 ≤ t := by
    by_contra hlt
    have := (Nat.length_toDigits_le_iff (n := v) (k := 18) hten (by decide)).mp (by omega)
    omega
  refine ⟨hmin, ?_, (Nat.length_toDigits_le_iff hten (by omega)).mp ht.le⟩
  by_contra hlt
  have := (Nat.length_toDigits_le_iff hten (k := t - 1) (by omega)).mpr (Nat.not_le.mp hlt)
  omega

/-- What the unit of a digit gives, of a number with `t` digits: an integer, with the unit. -/
def tried (m g t i : Nat) : Option (Nat × Int) :=
  (onGrid? m g ((t : Int) - ((i : Int) + 1))).map (·, (t : Int) - ((i : Int) + 1))

theorem tried_eq {t i : Nat} (hi : i < t) :
    tried m g t i = (onGrid? m g (t - 1 - i : Nat)).map (·, ((t - 1 - i : Nat) : Int)) := by
  have hunit : (t : Int) - ((i : Int) + 1) = (t - 1 - i : Nat) := by omega
  rw [tried, hunit]

/-- The units of the digits are tried one after the other, the first digit first. -/
theorem shortest_eq (hg : 0 < g) (hm : 0 < m) {t : Nat}
    (ht : (Nat.toDigits 10 (m * 2 ^ g)).length = t) :
    shortest m g = ((List.range 17).findSome? (tried m g t)).getD (m, g) := by
  have hscaled : scaleDown m 1 (-(g : Int)) = (m * 2 ^ g, 1) := by
    obtain ⟨g, rfl⟩ := Nat.exists_eq_add_of_le' hg
    show scaleDown m 1 (Int.negSucc g) = _
    rw [scaleDown, Nat.pow_eq]
  have hpos : 1 ≤ m * 2 ^ g := Nat.mul_pos hm (Nat.two_pow_pos g)
  have hcount : magnitude (m * 2 ^ g) 1 = t := by
    rw [magnitude, if_pos hpos, Nat.div_one, digitCount, if_neg (by omega), ht]
  unfold shortest tried
  rw [hscaled]
  simp only [hcount]

/-- Only the next power of ten can have as many zeros as the number has digits. -/
theorem Rounds.eq_top {t : Nat} (h : Rounds m g n) (hm : 2 ^ 52 ≤ m) (hhigh : m * 2 ^ g < 10 ^ t)
    (hdvd : 10 ^ t ∣ n) : n = 10 ^ t := by
  obtain ⟨hupper, hlower⟩ := h.close
  have hstep : 0 < 2 ^ g := Nat.two_pow_pos g
  have hleast : 2 ^ 52 * 2 ^ g ≤ m * 2 ^ g := Nat.mul_le_mul_right _ hm
  obtain ⟨c, rfl⟩ := hdvd
  rcases Nat.lt_trichotomy c 1 with hlt | rfl | hgt
  · have hzero : 10 ^ t * c = 0 := by rw [Nat.lt_one_iff.mp hlt, Nat.mul_zero]
    omega
  · exact Nat.mul_one _
  · have := Nat.mul_le_mul_left (10 ^ t) (show 2 ≤ c by omega)
    omega

/-- The first digit alone leaves no choice. -/
theorem roundest_of_first {t k : Nat} (hm : 2 ^ 52 ≤ m) (ht : 0 < t) (hhigh : m * 2 ^ g < 10 ^ t)
    (hk : Rounds m g (k * 10 ^ (t - 1)))
    (hnearest : ∀ k', Rounds m g (k' * 10 ^ (t - 1)) →
      Nearer (m * 2 ^ g) (k * 10 ^ (t - 1)) (k' * 10 ^ (t - 1))) :
    ∃ zeros, Roundest (Rounds m g) (m * 2 ^ g) (k * 10 ^ (t - 1)) zeros := by
  have hten : 10 ^ t = 10 * 10 ^ (t - 1) := by
    rw [← pow_succ', Nat.sub_add_cancel ht]
  by_cases htop : k * 10 ^ (t - 1) = 10 ^ t
  · rw [htop] at hk ⊢
    refine ⟨t, hk, Nat.dvd_refl _, fun n' hn' hdvd => ?_, fun n' hn' hdvd => ?_⟩
    · have heq := hn'.eq_top hm hhigh (Nat.dvd_trans (Nat.pow_dvd_pow 10 (Nat.le_succ t)) hdvd)
      rw [heq] at hdvd
      have := Nat.le_of_dvd (Nat.pow_pos (by decide)) hdvd
      rw [pow_succ] at this
      omega
    · rw [hn'.eq_top hm hhigh hdvd]
      exact .inr ⟨rfl, Nat.le_refl _⟩
  · refine ⟨t - 1, roundest_of_grid hk hnearest fun k' hk' => ?_⟩
    rw [Nat.sub_add_cancel ht] at hk'
    have heq := hk'.eq_top hm hhigh (Nat.dvd_mul_left _ _)
    rw [heq] at hk'
    have hstep : 0 < 2 ^ g := Nat.two_pow_pos g
    have hleast : 2 ^ 52 * 2 ^ g ≤ m * 2 ^ g := Nat.mul_le_mul_right _ hm
    have hclose := hk.close
    have hclose' := hk'.close
    have hother : k * 10 ^ (t - 1) ≤ 9 * 10 ^ (t - 1) ∨ 11 * 10 ^ (t - 1) ≤ k * 10 ^ (t - 1) := by
      rcases Nat.lt_trichotomy k 10 with hlt | rfl | hgt
      · exact .inl (Nat.mul_le_mul_right _ (by omega))
      · exact absurd hten.symm htop
      · exact .inr (Nat.mul_le_mul_right _ hgt)
    omega

/-- What is found is the roundest integer of the interval. -/
theorem shortest_roundest (hm : 2 ^ 52 ≤ m) (hm' : m < 2 ^ 53) (hg : 11 ≤ g) :
    ∃ k u zeros : Nat, shortest m g = (k, (u : Int)) ∧
      Roundest (Rounds m g) (m * 2 ^ g) (k * 10 ^ u) zeros := by
  have hpos : 0 < g := by omega
  have hstep : 2 ^ 11 ≤ 2 ^ g := Nat.pow_le_pow_right (by decide) hg
  have hleast : 2 ^ 52 * 2 ^ g ≤ m * 2 ^ g := Nat.mul_le_mul_right _ hm
  obtain ⟨t, ht⟩ : ∃ t, (Nat.toDigits 10 (m * 2 ^ g)).length = t := ⟨_, rfl⟩
  obtain ⟨hmin, hlow, hhigh⟩ := digits_bounds (v := m * 2 ^ g) (by omega) ht
  rw [shortest_eq hpos (by omega) ht]
  rcases findSome?_range (tried m g t) 17 with ⟨hnone, -⟩ | ⟨i, hi, b, hb, hfirst, hfound⟩
  · have hlast := hnone 16 (by decide)
    rw [tried_eq (by omega), Option.map_eq_none_iff] at hlast
    have hfine : 10 ^ 16 * 10 ^ (t - 1 - 16) ≤ m * 2 ^ g := by
      rw [← pow_add, show 16 + (t - 1 - 16) = t - 1 by omega]
      exact hlow
    have := exists_onGrid? hm hm' hpos hfine
    rw [hlast] at this
    cases this
  · rw [hfound, Option.getD_some]
    rw [tried_eq (by omega), Option.map_eq_some_iff] at hb
    obtain ⟨k, hk, rfl⟩ := hb
    obtain ⟨hin, hnearest⟩ := onGrid?_eq_some hpos hk
    cases i with
    | zero =>
      obtain ⟨zeros, hroundest⟩ := roundest_of_first hm (by omega) hhigh hin hnearest
      exact ⟨k, t - 1, zeros, rfl, hroundest⟩
    | succ i =>
      have hcoarser := hfirst i (Nat.lt_succ_self i)
      rw [tried_eq (by omega), Option.map_eq_none_iff] at hcoarser
      refine ⟨k, t - 1 - (i + 1), t - 1 - (i + 1), rfl, roundest_of_grid hin hnearest ?_⟩
      rw [show t - 1 - (i + 1) + 1 = t - 1 - i by omega]
      exact onGrid?_eq_none hpos hcoarser

/-! ### Texts -/

/-- The zeros that are dropped are those at the end. -/
theorem dropZeros_append (ds : List Char) :
    (dropZeros ds).1 ++ List.replicate (dropZeros ds).2 '0' = ds := by
  obtain ⟨kept, hkept⟩ : ∃ kept, kept = (ds.reverse.dropWhile (· = '0')).reverse := ⟨_, rfl⟩
  obtain ⟨count, hcount⟩ : ∃ count, count = (ds.reverse.takeWhile (· = '0')).length := ⟨_, rfl⟩
  have hzeros : ds.reverse.takeWhile (· = '0') = List.replicate count '0' := by
    rw [List.eq_replicate_iff]
    refine ⟨hcount.symm, fun c hc => ?_⟩
    exact of_decide_eq_true (List.all_eq_true.mp List.all_takeWhile c hc)
  have hsplit : ds = kept ++ List.replicate count '0' := by
    rw [hkept, ← List.reverse_replicate, ← hzeros, ← List.reverse_append,
      List.takeWhile_append_dropWhile, List.reverse_reverse]
  have hlength : ds.length - count = kept.length := by
    rw [hsplit, List.length_append, List.length_replicate, Nat.add_sub_cancel]
  have htake : ds.take (ds.length - count) = kept := by
    rw [hlength]
    nth_rewrite 1 [hsplit]
    exact List.take_left
  rw [dropZeros, ← hcount, htake]
  exact hsplit.symm

/-- Zeros behind the digits of an integer multiply it by ten each. -/
theorem toDigits_mul_pow (hn : 0 < n) (u : Nat) :
    Nat.toDigits 10 (n * 10 ^ u) = Nat.toDigits 10 n ++ List.replicate u '0' := by
  induction u with
  | zero => rw [pow_zero, Nat.mul_one, List.replicate_zero, List.append_nil]
  | succ u ih =>
    have hpos : 0 < n * 10 ^ u := Nat.mul_pos hn (Nat.pow_pos (by decide))
    have hlast := Nat.toDigits_append_toDigits (b := 10) (d := 0) (by decide) hpos (by decide)
    rw [Nat.toDigits_zero] at hlast
    rw [List.replicate_succ', ← List.append_assoc, ← ih, hlast, pow_succ, Nat.add_zero,
      Nat.mul_comm 10, Nat.mul_assoc]

theorem toString_neg (hn : 0 < n) :
    toString (-(n : Int)) = String.ofList ('-' :: Nat.toDigits 10 n) := by
  have hneg : ¬0 ≤ -(n : Int) := by omega
  rw [Int.toString_eq_repr, Int.repr_eq_if, if_neg hneg, Int.neg_neg, Int.toNat_natCast,
    Nat.repr_eq_ofList_toDigits, ← String.toList_inj, String.toList_append]
  simp

/-- A large number of whole value is written as the roundest of the integers that round to it. -/
theorem render_whole (negative : Bool) (hm : 2 ^ 52 ≤ m) (hm' : m < 2 ^ 53) (hg : 11 ≤ g) :
    ∃ n zeros, Roundest (Rounds m g) (m * 2 ^ g) n zeros ∧
      (finite negative m g).render = toString (if negative then -(n : Int) else n) := by
  obtain ⟨k, u, zeros, hshortest, hroundest⟩ := shortest_roundest hm hm' hg
  refine ⟨k * 10 ^ u, zeros, hroundest, ?_⟩
  have hne : m ≠ 0 := by omega
  have hpos : 0 < k * 10 ^ u := hroundest.holds.pos hm
  have hk : 0 < k := Nat.pos_of_mul_pos_right hpos
  have hbody : positional (dropZeros (Nat.toDigits 10 k)).1
      ((u : Int) + (dropZeros (Nat.toDigits 10 k)).2) = Nat.toDigits 10 (k * 10 ^ u) := by
    show positional _ (Int.ofNat (u + (dropZeros (Nat.toDigits 10 k)).2)) = _
    rw [positional, Nat.add_comm, ← List.replicate_append_replicate, ← List.append_assoc,
      dropZeros_append, toDigits_mul_pow hk]
  rw [render]
  simp only [if_neg hne, hshortest, hbody]
  cases negative with
  | true => exact (toString_neg hpos).symm
  | false =>
    show String.ofList (Nat.toDigits 10 (k * 10 ^ u)) = toString ((k * 10 ^ u : Nat) : Int)
    rw [← Nat.repr_eq_ofList_toDigits]
    rfl

end Whole

/-! ### Integers -/

/-- The whole value of a number that has one. -/
def whole : Double → Nat
  | finite _ m (.ofNat g) => m * 2 ^ g
  | _ => 0

/--
An integer is written for another one: of the integers that round to the same number it is the
roundest, and of those as round the one nearest to that number.
-/
def Abbreviates (k n : Nat) : Prop :=
  ∃ zeros, Roundest (fun n' => ofInt n' = ofInt k) (ofInt k).whole n zeros

theorem Abbreviates.unique {k n n' : Nat} (h : Abbreviates k n) (h' : Abbreviates k n') :
    n = n' := by
  obtain ⟨_, h⟩ := h
  obtain ⟨_, h'⟩ := h'
  exact h.unique h'

theorem ofInt_natCast (n : Nat) : ofInt n = ofQuotient false n 1 := by
  have hsign : ¬(n : Int) < 0 := by omega
  rw [ofInt, decide_eq_false hsign, Int.natAbs_natCast]

/-- A large integer that is not out of range is written as the one that abbreviates it. -/
theorem render_ofInt {k : Int} (hk : 2 ^ 63 ≤ k.natAbs) (hfinite : (ofInt k).isFinite = true) :
    ∃ n, Abbreviates k.natAbs n ∧ (ofInt k).render = toString (k.sign * n) := by
  rcases ofQuotient_of_large (decide (k < 0)) hk with hlarge | ⟨m, g, heq, hm, hm', hg, hg'⟩
  · rw [ofInt, hlarge] at hfinite
    cases hfinite
  · obtain ⟨n, zeros, hroundest, hrender⟩ := render_whole (decide (k < 0)) hm hm' hg
    have habs : ofInt k.natAbs = finite false m g := by
      rw [ofInt_natCast, ofQuotient_eq_iff false hm hm' hg']
      exact (ofQuotient_eq_iff _ hm hm' hg').mp heq
    have hsame : (fun n' : Nat => ofInt n' = ofInt k.natAbs) = Rounds m g := by
      funext n'
      rw [habs, ofInt_natCast]
      exact propext (ofQuotient_eq_iff false hm hm' hg')
    refine ⟨n, ⟨zeros, ?_⟩, ?_⟩
    · rw [hsame, habs]
      exact hroundest
    · rw [ofInt, heq, hrender]
      by_cases hneg : k < 0
      · rw [if_pos (decide_eq_true hneg), Int.sign_eq_neg_one_of_neg hneg, Int.neg_one_mul]
      · have hpos : 0 < k := by omega
        rw [if_neg (by simpa using hpos.le), Int.sign_eq_one_of_pos hpos, Int.one_mul]

end RowScope.Decimal.Double
