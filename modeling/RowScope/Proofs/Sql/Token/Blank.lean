/-
Where tokens end.

The characters of a token are followed by more characters of it, or by a blank.  So every
scanner that has come to its end before a blank gives the same when something else stands
behind the blank (`Stable`).  One step of the reader is stable as well, with one exception:
a comment of one line goes on up to the end of that line, and takes the blank with it
(`step_blank`).

All of this is about the default dialect.
-/
import Mathlib.Data.List.Find
import Mathlib.Data.List.TakeWhile
import Mathlib.Tactic.Common
import RowScope.Proofs.Sql.Token.Quoted

namespace RowScope.Sql.Token

/-- A scanner that is done before a blank. -/
def Stable {α : Type} (f : List Char → Option (α × List Char)) : Prop :=
  ∀ ⦃cs a r⦄, f cs = some (a, r) →
    r.length ≤ cs.length ∧ ∀ rest, f (cs ++ ' ' :: rest) = some (a, r ++ ' ' :: rest)

namespace Stable

variable {α β : Type} {f : List Char → Option (α × List Char)}

theorem map (h : Stable f) (g : α → β) : Stable fun cs => (f cs).map fun (a, r) => (g a, r) := by
  intro cs b r hrun
  obtain ⟨⟨a, r'⟩, ha, hb⟩ := Option.map_eq_some_iff.mp hrun
  cases hb
  obtain ⟨hlength, hrest⟩ := h ha
  exact ⟨hlength, fun rest => by simp only [hrest, Option.map_some]⟩

protected theorem none : Stable fun _ => (none : Option (α × List Char)) := nofun

protected theorem some (a : α) : Stable fun cs => some (a, cs) := by
  intro cs b r h
  cases h
  exact ⟨Nat.le_refl _, fun rest => rfl⟩

theorem ite {g : List Char → Option (α × List Char)} (p : Prop) [Decidable p] (hf : Stable f)
    (hg : Stable g) : Stable fun cs => if p then f cs else g cs := by
  by_cases hp : p
  · simpa only [hp, if_true] using hf
  · simpa only [hp, if_false] using hg

end Stable

theorem takeWhile_blank {p : Char → Bool} (hp : p ' ' = false) (cs rest : List Char) :
    (cs ++ ' ' :: rest).takeWhile p = cs.takeWhile p := by
  induction cs with
  | nil => simp [hp]
  | cons c cs ih => by_cases hc : p c = true <;> simp [hc, ih]

theorem dropWhile_blank {p : Char → Bool} (hp : p ' ' = false) (cs rest : List Char) :
    (cs ++ ' ' :: rest).dropWhile p = cs.dropWhile p ++ ' ' :: rest := by
  induction cs with
  | nil => simp [hp]
  | cons c cs ih => by_cases hc : p c = true <;> simp [hc, ih]

theorem isPrefixOf_blank {p : List Char} (hp : ' ' ∉ p) (cs rest : List Char) :
    p.isPrefixOf (cs ++ ' ' :: rest) = p.isPrefixOf cs := by
  induction p generalizing cs with
  | nil => simp
  | cons a p ih =>
    rw [List.mem_cons, not_or] at hp
    cases cs with
    | nil => simp [List.isPrefixOf, Ne.symm hp.1]
    | cons c cs => simp [List.isPrefixOf, ih hp.2]

/-- A scanner that always gives something, and is done before a blank. -/
def Total {α : Type} (f : List Char → α × List Char) : Prop :=
  ∀ cs, (f cs).2.length ≤ cs.length ∧
    ∀ rest, f (cs ++ ' ' :: rest) = ((f cs).1, (f cs).2 ++ ' ' :: rest)

theorem untilQuote_stable (d : Dialect) (escapes : Bool) {q : Char} (hq : ' ' ≠ q) :
    Stable (untilQuote d escapes q) := by
  intro cs a r h
  refine ⟨length_untilQuote d escapes h, fun rest => untilQuote_append d escapes ?_ h⟩
  exact fun hblank => hq (Option.some.inj hblank)

theorem takeDigits_total {base : Nat} (hbase : base ≤ 16) (n : Nat) :
    Total (takeDigits base n) := by
  have hblank : ¬digitValue ' ' < base := by
    have hvalue : digitValue ' ' = 99 := rfl
    omega
  induction n with
  | zero => exact fun cs => by simp [takeDigits]
  | succ n ih =>
    intro cs
    cases cs with
    | nil => simp [takeDigits, hblank]
    | cons c cs =>
      obtain ⟨hlength, hrest⟩ := ih cs
      by_cases hc : digitValue c < base
      · simp only [takeDigits, hc, if_true, List.cons_append, hrest, List.length_cons]
        exact ⟨by omega, fun rest => trivial⟩
      · simp [takeDigits, hc]

theorem digits_total (d : Dialect) (isDigit : Char → Bool) (hdigit : isDigit ' ' = false) :
    Total (digits d isDigit) := by
  have hvalue : digitValue ' ' = 99 := rfl
  have hblank : ∀ rest, digits d isDigit (' ' :: rest) = ([], ' ' :: rest) := by
    intro rest
    cases rest <;> simp [digits, hdigit]
  intro cs
  fun_induction digits d isDigit cs with
  | case1 => simp [hblank]
  | case2 c hc => simp [digits, hc, hblank]
  | case3 c hc => simp [digits, hc, hvalue]
  | case4 c n rest hc ds r hrun ih =>
    simp only [hrun] at ih
    obtain ⟨hlength, hrest⟩ := ih
    simp only [List.cons_append] at hrest
    refine ⟨by simpa using Nat.le_succ_of_le hlength, fun more => ?_⟩
    simp [digits, hc, hrest]
  | case5 c n rest hc => simp [digits, hc]

theorem exponent_total : Total exponent := by
  have hdigit : Char.isDigit ' ' = false := rfl
  intro cs
  rcases cs with _ | ⟨e, cs⟩
  · simp [exponent]
  by_cases he : (e == 'e' || e == 'E') = true
  · -- behind the sign, if there is one, the digits end before the blank
    rcases cs with _ | ⟨s, cs⟩
    · simp [exponent, he, hdigit]
    have htake := fun rest => takeWhile_blank hdigit (s :: cs) rest
    have hdrop := fun rest => dropWhile_blank hdigit (s :: cs) rest
    have hlength := List.length_dropWhile_le (p := Char.isDigit) (s :: cs)
    have hlength' := List.length_dropWhile_le (p := Char.isDigit) cs
    simp only [List.cons_append, List.length_cons] at htake hdrop hlength
    by_cases hs : (s == '+' || s == '-') = true
    · simp only [exponent, he, hs, if_true, List.cons_append, takeWhile_blank hdigit,
        dropWhile_blank hdigit]
      split
      · simp
      · simp only [List.length_cons, implies_true, and_true]
        omega
    · simp only [exponent, he, hs, if_true, List.cons_append, Bool.false_eq_true, if_false, htake,
        hdrop]
      split
      · simp
      · simp only [List.length_cons, implies_true, and_true]
        omega
  · simp [exponent, he]

/-- A period that may be next. -/
def period (cs : List Char) : List Char × List Char :=
  match cs with
  | '.' :: r => (['.'], r)
  | _ => ([], cs)

/-- The mark of a long number that may be next. -/
def longMark (cs : List Char) : Bool × List Char :=
  match cs with
  | 'L' :: r => (true, r)
  | _ => (false, cs)

/-- A number behind its whole part, or the period that starts none. -/
def decimal (whole rest : List Char) : Token × List Char :=
  let (point, rest) := period rest
  let (fraction, rest) := digits .postgres Char.isDigit rest
  if whole.isEmpty && fraction.isEmpty then (.symbol ".", rest)
  else
    let (power, rest) := exponent rest
    let (long, rest) := longMark rest
    (.literal (.number (String.ofList (whole ++ point ++ fraction ++ power)) long), rest)

theorem period_total : Total period := by
  intro cs
  rcases cs with _ | ⟨c, cs⟩
  · simp [period]
  · by_cases hc : c = '.'
    · subst hc
      simp [period]
    · simp [period, hc]

theorem longMark_total : Total longMark := by
  intro cs
  rcases cs with _ | ⟨c, cs⟩
  · simp [longMark]
  · by_cases hc : c = 'L'
    · subst hc
      simp [longMark]
    · simp [longMark, hc]

theorem length_decimal (whole cs : List Char) :
    (decimal whole cs).2.length ≤ (period cs).2.length := by
  have hfraction := (digits_total .postgres Char.isDigit rfl (period cs).2).1
  have hpower := (exponent_total (digits .postgres Char.isDigit (period cs).2).2).1
  have hlong := (longMark_total (exponent (digits .postgres Char.isDigit (period cs).2).2).2).1
  unfold decimal
  dsimp only
  split
  · exact hfraction
  · exact Nat.le_trans hlong (Nat.le_trans hpower hfraction)

theorem decimal_total (whole : List Char) : Total (decimal whole) := by
  intro cs
  refine ⟨Nat.le_trans (length_decimal whole cs) (period_total cs).1, fun rest => ?_⟩
  have hdigits := fun cs => (digits_total .postgres Char.isDigit rfl cs).2 rest
  simp only [decimal, (period_total _).2, hdigits, (exponent_total _).2, (longMark_total _).2]
  split <;> rfl

theorem number_of_hex {cs hex : List Char}
    (h : digits .postgres Char.isDigit cs = (['0'], 'x' :: hex)) :
    number .postgres cs =
      let found := digits .postgres (fun c => decide (digitValue c < 16)) hex
      (.literal (.hex (String.ofList found.1)), found.2) := by
  unfold number
  rw [h]
  rfl

theorem number_of_decimal {cs : List Char} {whole rest : List Char}
    (h : digits .postgres Char.isDigit cs = (whole, rest))
    (hne : ¬(whole = ['0'] ∧ rest.head? = some 'x')) :
    number .postgres cs = decimal whole rest := by
  unfold number
  rw [h]
  dsimp only
  split
  · exact absurd ⟨rfl, rfl⟩ hne
  · rfl

theorem number_total : Total (number .postgres) := by
  intro cs
  obtain ⟨hlength, hrest⟩ := digits_total .postgres Char.isDigit rfl cs
  cases hfound : digits Dialect.postgres Char.isDigit cs with
  | mk whole cs₁ =>
    simp only [hfound] at hlength hrest
    by_cases hx : whole = ['0'] ∧ cs₁.head? = some 'x'
    · obtain ⟨rfl, hx⟩ := hx
      obtain ⟨hex, rfl⟩ : ∃ hex, cs₁ = 'x' :: hex := by
        cases cs₁ with
        | nil => cases hx
        | cons c hex => exact ⟨hex, by simpa using hx⟩
      obtain ⟨hlength', hrest'⟩ :=
        digits_total .postgres (fun c => decide (digitValue c < 16)) rfl hex
      rw [number_of_hex hfound]
      refine ⟨?_, fun rest => ?_⟩
      · rw [List.length_cons] at hlength
        exact Nat.le_trans hlength' (Nat.le_of_succ_le hlength)
      · have hfound' : digits .postgres Char.isDigit (cs ++ ' ' :: rest)
            = (['0'], 'x' :: (hex ++ ' ' :: rest)) := hrest rest
        rw [number_of_hex hfound']
        simp only [hrest']
    · obtain ⟨hlength', hrest'⟩ := decimal_total whole cs₁
      rw [number_of_decimal hfound hx]
      refine ⟨Nat.le_trans hlength' hlength, fun rest => ?_⟩
      rw [number_of_decimal (hrest rest), hrest']
      cases cs₁ with
      | nil => simp
      | cons c cs₂ => simpa using hx

theorem length_digits (isDigit : Char → Bool) (hdigit : isDigit ' ' = false) {c : Char}
    (cs : List Char) (hc : isDigit c = true) :
    (digits .postgres isDigit (c :: cs)).2.length ≤ cs.length := by
  cases cs with
  | nil => simp [digits, hc]
  | cons n cs =>
    simpa [digits, hc] using (digits_total .postgres isDigit hdigit (n :: cs)).1

/-- A number takes at least the character that it starts with. -/
theorem length_number {c : Char} (cs : List Char) (hc : (c.isDigit || c == '.') = true) :
    (number .postgres (c :: cs)).2.length ≤ cs.length := by
  by_cases hdigit : c.isDigit = true
  · have hlength := length_digits Char.isDigit rfl cs hdigit
    cases hfound : digits .postgres Char.isDigit (c :: cs) with
    | mk whole rest =>
      rw [hfound] at hlength
      by_cases hx : whole = ['0'] ∧ rest.head? = some 'x'
      · obtain ⟨rfl, hx⟩ := hx
        obtain ⟨hex, rfl⟩ := List.head?_eq_some_iff.mp hx
        rw [number_of_hex hfound]
        have hhex := (digits_total .postgres (fun c => decide (digitValue c < 16)) rfl
          hex).1
        exact Nat.le_trans hhex (Nat.le_of_succ_le hlength)
      · rw [number_of_decimal hfound hx]
        exact Nat.le_trans (decimal_total whole rest).1 hlength
  · have hperiod : c = '.' := by simpa [hdigit] using hc
    subst hperiod
    have hfound : digits .postgres Char.isDigit ('.' :: cs) = ([], '.' :: cs) := by
      cases cs <;> rfl
    rw [number_of_decimal hfound (by simp)]
    exact length_decimal [] ('.' :: cs)

/-! ### Texts -/

theorem Total.coded {α β : Type} {f : List Char → β × List Char} (hf : Total f)
    (code : β → Option α) : Stable fun cs => (code (f cs).1).map (·, (f cs).2) := by
  intro cs a r h
  obtain ⟨hlength, hrest⟩ := hf cs
  obtain ⟨e, he, heq⟩ := Option.map_eq_some_iff.mp h
  cases heq
  exact ⟨hlength, fun rest => by simp only [hrest, he, Option.map_some]⟩

/-- What a scanner gives may decide how the same characters are read. -/
theorem Total.decides {α β : Type} {f : List Char → β × List Char} (hf : Total f) (p : β → Prop)
    [DecidablePred p] {yes no : List Char → Option (α × List Char)} (hyes : Stable yes)
    (hno : Stable no) : Stable fun cs => if p (f cs).1 then yes cs else no cs := by
  intro cs a r h
  have hrest := (hf cs).2
  by_cases hp : p (f cs).1
  · simp only [hp, if_true, hrest] at h ⊢
    exact hyes h
  · simp only [hp, if_false, hrest] at h ⊢
    exact hno h

theorem escapedChar_stable : Stable escapedChar := by
  intro cs a r h
  rcases cs with _ | ⟨c, cs⟩
  · cases h
  suffices hbehind : r.length ≤ cs.length ∧
      ∀ rest, escapedChar (c :: (cs ++ ' ' :: rest)) = some (a, r ++ ' ' :: rest) from
    ⟨Nat.le_succ_of_le hbehind.1, hbehind.2⟩
  have hhex := takeDigits_total (by decide : 16 ≤ 16)
  have hbyHex := fun k => (hhex k).coded fun ds => charOf (digitsValue 16 ds)
  have hfixed := fun k => (hhex k).decides (·.length = k) (hbyHex k) .none
  unfold escapedChar at h ⊢
  split at h
  · cases h
  rename_i heq
  cases heq
  split at h
  case h_6 => exact hfixed 4 h
  case h_7 => exact hfixed 8 h
  case h_8 => exact (hhex 2).decides (·.isEmpty = true) (.some 'x') (hbyHex 2) h
  case h_9 =>
    have hbyOctal := (takeDigits_total (by decide : 8 ≤ 16) 2).coded
      fun ds => charOf (digitsValue 8 (c :: ds) % 256)
    exact hbyOctal.ite (digitValue c < 8) (.ite (c.toNat = 0) .none (.some c)) h
  all_goals exact Stable.some _ h

/-- A scanner with fuel that is done before a blank, whatever more fuel there is. -/
def StableFrom {α : Type} (f : Nat → List Char → Option (α × List Char)) (n : Nat) : Prop :=
  ∀ ⦃cs a r⦄, f n cs = some (a, r) →
    r.length ≤ cs.length ∧
      ∀ m, n ≤ m → ∀ rest, f m (cs ++ ' ' :: rest) = some (a, r ++ ' ' :: rest)

theorem StableFrom.stable {α : Type} {f : Nat → List Char → Option (α × List Char)}
    (h : ∀ n, StableFrom f n) : Stable fun cs => f (cs.length + 1) cs := by
  intro cs a r hrun
  obtain ⟨hlength, hrest⟩ := h _ hrun
  refine ⟨hlength, fun rest => hrest _ ?_ rest⟩
  rw [List.length_append]
  omega

namespace StableFrom

section Fuel

variable {f : Nat → List Char → Option (List Char × List Char)} {n : Nat}

/-- One more step, which goes on behind the first character. -/
theorem succ (hnil : f (n + 1) [] = none)
    (hcons : ∀ c, StableFrom (fun n cs => f (n + 1) (c :: cs)) n) : StableFrom f (n + 1) := by
  rintro (_ | ⟨c, cs⟩) s r h
  · rw [hnil] at h
    cases h
  obtain ⟨hlength, hrest⟩ := hcons c h
  refine ⟨Nat.le_succ_of_le hlength, fun m hm rest => ?_⟩
  cases m with
  | zero => cases hm
  | succ m => exact hrest m (Nat.le_of_succ_le_succ hm) rest

variable (ih : StableFrom f n)
include ih

/-- A character that stands for itself. -/
theorem kept (c : Char) : StableFrom (fun n cs => (f n cs).map fun (s, r) => (c :: s, r)) n := by
  intro cs s r h
  obtain ⟨⟨s', r'⟩, hs, heq⟩ := Option.map_eq_some_iff.mp h
  cases heq
  obtain ⟨hlength, hrest⟩ := ih hs
  exact ⟨hlength, fun m hm rest => by simp only [hrest m hm, Option.map_some]⟩

/-- A character that another scanner makes out. -/
theorem escaped {g : List Char → Option (Char × List Char)} (hg : Stable g) :
    StableFrom (fun n cs => do
      let (e, rest) ← g cs
      let (s, r) ← f n rest
      return (e :: s, r)) n := by
  intro cs s r h
  simp only [Option.bind_eq_bind, Option.bind_eq_some_iff] at h ⊢
  obtain ⟨⟨e, cs'⟩, he, ⟨s', r'⟩, hs, heq⟩ := h
  cases heq
  obtain ⟨hlength, hrest⟩ := hg he
  obtain ⟨hlength', hrest'⟩ := ih hs
  exact ⟨Nat.le_trans hlength' hlength, fun m hm rest => ⟨_, hrest rest, _, hrest' m hm rest, rfl⟩⟩

/-- A quote, which may be doubled. -/
theorem quote : StableFrom (fun n cs =>
    match cs with
    | '\'' :: rest => (f n rest).map fun (s, r) => ('\'' :: s, r)
    | _ => some ([], cs)) n := by
  rintro (_ | ⟨c, cs⟩) s r h
  · cases h
    exact ⟨Nat.le_refl _, fun m hm rest => rfl⟩
  by_cases hc : c = '\''
  · subst hc
    obtain ⟨hlength, hrest⟩ := ih.kept '\'' h
    exact ⟨Nat.le_succ_of_le hlength, hrest⟩
  · dsimp only at h ⊢
    split at h
    · rename_i heq
      exact absurd (List.cons.inj heq).1 hc
    · cases h
      refine ⟨Nat.le_refl _, fun m hm rest => ?_⟩
      split
      · rename_i heq
        exact absurd (List.cons.inj heq).1 hc
      · rfl

/-- A character by a number of digits. -/
theorem coded (k : Nat) : StableFrom (fun n cs =>
    match takeDigits 16 k cs with
    | (ds, rest) =>
      if ds.length = k then do
        let e ← charOf (digitsValue 16 ds)
        let (s, r) ← f n rest
        return (e :: s, r)
      else none) n := by
  intro cs s r h
  obtain ⟨hlength, hrest⟩ := takeDigits_total (by decide : 16 ≤ 16) k cs
  simp only [hrest]
  by_cases hds : (takeDigits 16 k cs).1.length = k
  · simp only [hds, if_true, Option.bind_eq_bind, Option.bind_eq_some_iff] at h ⊢
    obtain ⟨e, he, ⟨s', r'⟩, hs, heq⟩ := h
    cases heq
    obtain ⟨hlength', hrest'⟩ := ih hs
    exact ⟨Nat.le_trans hlength' hlength, fun m hm rest => ⟨e, he, _, hrest' m hm rest, rfl⟩⟩
  · simp only [hds, if_false] at h
    cases h

/-- A backslash that is doubled, or starts a character by six digits or by four. -/
theorem unicode : StableFrom (fun n cs =>
    match cs with
    | '\\' :: rest => (f n rest).map fun (s, r) => ('\\' :: s, r)
    | '+' :: rest =>
      match takeDigits 16 6 rest with
      | (ds, rest) =>
        if ds.length = 6 then do
          let e ← charOf (digitsValue 16 ds)
          let (s, r) ← f n rest
          return (e :: s, r)
        else none
    | _ =>
      match takeDigits 16 4 cs with
      | (ds, rest) =>
        if ds.length = 4 then do
          let e ← charOf (digitsValue 16 ds)
          let (s, r) ← f n rest
          return (e :: s, r)
        else none) n := by
  rintro (_ | ⟨c, cs⟩) s r h
  · cases h
  by_cases hc : c = '\\'
  · subst hc
    obtain ⟨hlength, hrest⟩ := ih.kept '\\' h
    exact ⟨Nat.le_succ_of_le hlength, hrest⟩
  by_cases hplus : c = '+'
  · subst hplus
    obtain ⟨hlength, hrest⟩ := ih.coded 6 h
    exact ⟨Nat.le_succ_of_le hlength, hrest⟩
  · dsimp only at h ⊢
    split at h
    · rename_i heq
      exact absurd (List.cons.inj heq).1 hc
    · rename_i heq
      exact absurd (List.cons.inj heq).1 hplus
    · obtain ⟨hlength, hrest⟩ := ih.coded 4 h
      refine ⟨hlength, fun m hm rest => ?_⟩
      split
      · rename_i heq
        exact absurd (List.cons.inj heq).1 hc
      · rename_i heq
        exact absurd (List.cons.inj heq).1 hplus
      · exact hrest m hm rest

end Fuel

end StableFrom

theorem untilEscapedQuote_stable (n : Nat) : StableFrom untilEscapedQuote n := by
  induction n with
  | zero =>
    rintro (_ | ⟨c, cs⟩) s r h <;> cases h
  | succ n ih =>
    refine .succ rfl fun c => ?_
    by_cases hquote : c = '\''
    · simp only [untilEscapedQuote, hquote, if_true]
      exact ih.quote
    by_cases hslash : c = '\\'
    · simp only [untilEscapedQuote, hslash, if_true]
      exact ih.escaped escapedChar_stable
    · simp only [untilEscapedQuote, hquote, hslash, if_false]
      exact ih.kept c

theorem untilUnicodeQuote_stable (n : Nat) : StableFrom untilUnicodeQuote n := by
  induction n with
  | zero =>
    rintro (_ | ⟨c, cs⟩) s r h <;> cases h
  | succ n ih =>
    refine .succ rfl fun c => ?_
    by_cases hquote : c = '\''
    · simp only [untilUnicodeQuote, hquote, if_true]
      exact ih.quote
    by_cases hslash : c = '\\'
    · simp only [untilUnicodeQuote, hslash, if_true]
      exact ih.unicode
    · simp only [untilUnicodeQuote, hquote, hslash, if_false]
      exact ih.kept c

theorem untilMark_stable {mark : List Char} (hblank : ' ' ∉ mark) (hne : mark ≠ []) :
    Stable (untilMark mark) := by
  intro cs
  induction cs with
  | nil =>
    intro a r h
    simp [untilMark, hne] at h
  | cons c cs ih =>
    intro a r h
    have hstarts := fun rest => isPrefixOf_blank hblank (c :: cs) rest
    simp only [List.cons_append] at hstarts ⊢
    unfold untilMark at h ⊢
    simp only [hstarts]
    split at h
    · rename_i hmark
      cases h
      have hlength : mark.length ≤ (c :: cs).length :=
        (List.isPrefixOf_iff_prefix.mp hmark).length_le
      refine ⟨by simp, fun rest => ?_⟩
      rw [if_pos hmark, ← List.cons_append, List.drop_append_of_le_length hlength]
    · rename_i hmark
      obtain ⟨⟨s', r'⟩, hs, heq⟩ := Option.map_eq_some_iff.mp h
      cases heq
      obtain ⟨hlength, hrest⟩ := ih hs
      refine ⟨Nat.le_succ_of_le hlength, fun rest => ?_⟩
      rw [if_neg hmark]
      simp only [hrest, Option.map_some]

theorem headD_blank (cs rest : List Char) : (cs ++ ' ' :: rest).headD ' ' = cs.headD ' ' := by
  cases cs <;> rfl

/-- A character of the tag between two dollars. -/
def isTagChar (c : Char) : Bool := Text.isLetter c || Text.isNumeric c || c == '_'

theorem tagChar_eq : (fun c => Text.isLetter c || Text.isNumeric c || c == '_'
    || (c == '$' && Dialect.dollarParameters .postgres)) = isTagChar := by
  funext c
  simp [isTagChar, Dialect.dollarParameters]

theorem dollar_of_quoted {cs body : List Char} (h : cs.dropWhile isTagChar = '$' :: body) :
    dollar .postgres cs =
      (untilMark ('$' :: (cs.takeWhile isTagChar ++ ['$'])) body).map fun (s, r) =>
        (.literal (.dollarQuoted (if (cs.takeWhile isTagChar).isEmpty then none
          else some (String.ofList (cs.takeWhile isTagChar))) (String.ofList s)), r) := by
  unfold dollar
  rw [tagChar_eq]
  dsimp only
  rw [h]
  simp [Dialect.dollarParameters]

theorem dollar_of_parameter {cs : List Char} (h : (cs.dropWhile isTagChar).head? ≠ some '$') :
    dollar .postgres cs = some (.literal (.placeholder (String.ofList
      ('$' :: cs.takeWhile isTagChar))), cs.dropWhile isTagChar) := by
  unfold dollar
  rw [tagChar_eq]
  dsimp only
  split
  · rename_i heq
    exact absurd (by rw [heq]; rfl) h
  · rfl

theorem dollar_stable : Stable (dollar .postgres) := by
  have hblank : isTagChar ' ' = false := by decide +kernel
  intro cs a r h
  have hlength := List.length_dropWhile_le (p := isTagChar) cs
  have htake := takeWhile_blank hblank cs
  have hdrop := dropWhile_blank hblank cs
  by_cases hquoted : (cs.dropWhile isTagChar).head? = some '$'
  · obtain ⟨body, hbody⟩ := List.head?_eq_some_iff.mp hquoted
    have hmark : ' ' ∉ '$' :: (cs.takeWhile isTagChar ++ ['$']) := by
      have htag : ' ' ∉ cs.takeWhile isTagChar := fun hmem => by
        have htrue := List.all_eq_true.mp List.all_takeWhile ' ' hmem
        rw [hblank] at htrue
        cases htrue
      simp [htag]
    rw [hbody] at hlength hdrop
    rw [dollar_of_quoted hbody] at h
    obtain ⟨⟨s, r'⟩, hs, heq⟩ := Option.map_eq_some_iff.mp h
    cases heq
    obtain ⟨hlength', hrest⟩ := untilMark_stable hmark (List.cons_ne_nil _ _) hs
    refine ⟨Nat.le_trans hlength' (Nat.le_of_succ_le hlength), fun rest => ?_⟩
    have hbody' : (cs ++ ' ' :: rest).dropWhile isTagChar = '$' :: (body ++ ' ' :: rest) :=
      hdrop rest
    rw [dollar_of_quoted hbody', htake, hrest]
    rfl
  · rw [dollar_of_parameter hquoted] at h
    cases h
    refine ⟨hlength, fun rest => ?_⟩
    have hparameter : ((cs ++ ' ' :: rest).dropWhile isTagChar).head? ≠ some '$' := by
      rw [hdrop]
      cases htail : cs.dropWhile isTagChar with
      | nil => simp
      | cons c tail => simpa [htail] using hquoted
    rw [dollar_of_parameter hparameter, htake, hdrop]

/-! ### Symbols -/

theorem symbols_blank : ∀ s ∈ dialectSymbols .postgres ++ symbols, ' ' ∉ s.1.toList := by
  decide +kernel

theorem find?_symbol (cs : List Char) :
    (dialectSymbols .postgres ++ symbols).find? (fun (s, _) => s.toList.isPrefixOf cs)
      = (dialectSymbols .postgres ++ symbols).find? fun s => s.1.toList.isPrefixOf cs := rfl

theorem find?_symbol_blank (cs rest : List Char) :
    (dialectSymbols .postgres ++ symbols).find?
        (fun s => s.1.toList.isPrefixOf (cs ++ ' ' :: rest))
      = (dialectSymbols .postgres ++ symbols).find? fun s => s.1.toList.isPrefixOf cs :=
  List.find?_congr fun s hs => isPrefixOf_blank (symbols_blank s hs) cs rest

theorem symbol?_blank (cs rest : List Char) :
    symbol? .postgres (cs ++ ' ' :: rest)
      = (symbol? .postgres cs).map fun (t, r) => (t, r ++ ' ' :: rest) := by
  unfold symbol?
  rw [find?_symbol, find?_symbol, find?_symbol_blank]
  cases hfound : (dialectSymbols .postgres ++ symbols).find? fun s => s.1.toList.isPrefixOf cs with
  | none => rfl
  | some found =>
    obtain ⟨s, grows⟩ := found
    have hstarts := List.find?_some hfound
    have hlength : s.length ≤ cs.length := by
      rw [← String.length_toList]
      exact (List.isPrefixOf_iff_prefix.mp hstarts).length_le
    have hmore : (if grows && Dialect.postgres.freeOperators then
        (cs.drop s.length).takeWhile isOperatorChar else []).length
          ≤ (cs.drop s.length).length := by
      split
      · exact (List.takeWhile_sublist _).length_le
      · exact Nat.zero_le _
    simp only [List.drop_append_of_le_length hlength, takeWhile_blank (p := isOperatorChar) rfl,
      List.drop_append_of_le_length hmore, Option.map_some]

theorem symbols_pos : ∀ s ∈ dialectSymbols .postgres ++ symbols, 0 < s.1.length := by
  decide +kernel

theorem length_symbol? {c : Char} {cs r : List Char} {t : Token}
    (h : symbol? .postgres (c :: cs) = some (t, r)) : r.length ≤ cs.length := by
  unfold symbol? at h
  split at h
  · cases h
  · rename_i s grows hfound
    have hpos := symbols_pos _ (List.mem_of_find?_eq_some hfound)
    cases h
    simp only [List.length_drop, List.length_cons] at hpos ⊢
    omega

/-! ### Words and comments -/

theorem wordFrom_total (start : List Char) : Total (wordFrom .postgres start) := by
  have hblank : Dialect.continuesIdent .postgres ' ' = false := rfl
  intro cs
  have hlength := List.length_dropWhile_le (p := Dialect.continuesIdent .postgres) cs
  simp only [wordFrom, takeWhile_blank hblank, dropWhile_blank hblank]
  exact ⟨hlength, fun rest => trivial⟩

theorem skipComment_blank (nests : Bool) (depth : Nat) {cs r : List Char}
    (h : skipComment nests depth cs = some r) :
    r.length ≤ cs.length ∧
      ∀ rest, skipComment nests depth (cs ++ ' ' :: rest) = some (r ++ ' ' :: rest) := by
  fun_induction skipComment nests depth cs with
  | case1 => cases h
  | case2 => cases h
  | case3 c n rest hend =>
    cases h
    refine ⟨by simp only [List.length_cons]; omega, fun more => ?_⟩
    simp [skipComment, hend]
  | case4 c n rest hend depth ih =>
    obtain ⟨hlength, hrest⟩ := ih h
    refine ⟨by simp only [List.length_cons]; omega, fun more => ?_⟩
    simp [skipComment, hend, hrest]
  | case5 depth c n rest hend hopen ih =>
    obtain ⟨hlength, hrest⟩ := ih h
    obtain ⟨rfl, rfl, rfl⟩ := hopen
    refine ⟨by simp only [List.length_cons]; omega, fun more => ?_⟩
    simp [skipComment, hrest]
  | case6 depth c n rest hend hopen ih =>
    obtain ⟨hlength, hrest⟩ := ih h
    refine ⟨by simp only [List.length_cons] at hlength ⊢; omega, fun more => ?_⟩
    have := hrest more
    simp only [List.cons_append] at this ⊢
    simp only [skipComment, hend, hopen, this, if_false]

/-! ### Prefixes, symbols and names -/

theorem cons_of_blank {cs rest tail : List Char} {q : Char} (hq : q ≠ ' ')
    (h : cs ++ ' ' :: rest = q :: tail) : ∃ cs', cs = q :: cs' ∧ tail = cs' ++ ' ' :: rest := by
  cases cs with
  | nil => exact absurd (List.cons.inj h).1.symm hq
  | cons c cs' =>
    obtain ⟨rfl, rfl⟩ := List.cons.inj h
    exact ⟨cs', rfl, rfl⟩

theorem prefixed?_none {c : Char} {cs : List Char} (h : prefixed? .postgres c cs = none)
    (rest : List Char) : prefixed? .postgres c (cs ++ ' ' :: rest) = none := by
  have hbits : Dialect.bitTexts .postgres = true := rfl
  have hescapes : Dialect.escapeTexts .postgres = true := rfl
  have hquote : ∀ tail, cs ++ ' ' :: rest = '\'' :: tail → ∃ cs', cs = '\'' :: cs' :=
    fun tail htail => (cons_of_blank (by decide) htail).imp fun _ => And.left
  unfold prefixed?
  split
  case h_6 => rfl
  case h_4 hupper htail =>
    obtain ⟨cs₁, rfl, htail'⟩ := cons_of_blank (q := '&') (by decide) htail
    obtain ⟨cs₂, rfl, -⟩ := cons_of_blank (q := '\'') (by decide) htail'.symm
    simp [prefixed?, hupper, hescapes] at h
  all_goals
    rename_i hupper htail
    obtain ⟨cs', rfl⟩ := hquote _ htail
    simp [prefixed?, hupper, hbits, hescapes] at h

theorem quotedText_stable (escapes : Bool) (make : String → Value) :
    Stable fun cs => (untilQuote .postgres escapes '\'' cs).map fun (s, r) =>
      (some (Token.literal (make (String.ofList s))), r) :=
  (untilQuote_stable .postgres escapes (by decide)).map fun s =>
    some (Token.literal (make (String.ofList s)))

theorem prefixed?_some {c : Char} {cs r : List Char} {t : Option Token}
    (h : prefixed? .postgres c cs = some (some (t, r))) :
    r.length ≤ cs.length ∧
      ∀ rest, prefixed? .postgres c (cs ++ ' ' :: rest) = some (some (t, r ++ ' ' :: rest)) := by
  have hbits : Dialect.bitTexts .postgres = true := rfl
  have hescapes : Dialect.escapeTexts .postgres = true := rfl
  unfold prefixed? at h
  simp only [hbits, hescapes, if_true] at h
  split at h
  case h_1 hupper =>
    obtain ⟨hlength, hrest⟩ := quotedText_stable false .bits (Option.some_inj.mp h)
    refine ⟨Nat.le_succ_of_le hlength, fun rest => ?_⟩
    simpa [prefixed?, hupper, hbits] using hrest rest
  case h_2 hupper =>
    obtain ⟨hlength, hrest⟩ := quotedText_stable false .national (Option.some_inj.mp h)
    refine ⟨Nat.le_succ_of_le hlength, fun rest => ?_⟩
    simp only [List.cons_append, prefixed?, hupper]
    exact congrArg some (hrest rest)
  case h_3 hupper =>
    obtain ⟨hlength, hrest⟩ := (StableFrom.stable untilEscapedQuote_stable).map
      (fun s => some (Token.literal (.escaped (String.ofList s)))) (Option.some_inj.mp h)
    refine ⟨Nat.le_succ_of_le hlength, fun rest => ?_⟩
    simpa [prefixed?, hupper, hescapes] using hrest rest
  case h_4 hupper =>
    obtain ⟨hlength, hrest⟩ := (StableFrom.stable untilUnicodeQuote_stable).map
      (fun s => some (Token.literal (.unicode (String.ofList s)))) (Option.some_inj.mp h)
    refine ⟨Nat.le_trans hlength (Nat.le_add_right _ 2), fun rest => ?_⟩
    simpa [prefixed?, hupper, hescapes] using hrest rest
  case h_5 hupper =>
    obtain ⟨hlength, hrest⟩ := quotedText_stable true .hex (Option.some_inj.mp h)
    refine ⟨Nat.le_succ_of_le hlength, fun rest => ?_⟩
    simpa [prefixed?, hupper] using hrest rest
  case h_6 => cases h

/-- Whatever is no literal and no comment ends before a blank. -/
theorem plain_stable (c : Char) : Stable (plain .postgres c) := by
  have hnumeric : Text.isNumeric ' ' = false := by decide +kernel
  -- the marks that start names elsewhere start none here
  have hmark : ((c == '#' || c == '@') && Dialect.startsIdent .postgres c) = false := by
    by_cases h₁ : c = '#'
    · rw [h₁]; rfl
    by_cases h₂ : c = '@'
    · rw [h₂]; rfl
    · simp [h₁, h₂]
  intro cs a r h
  obtain ⟨hword, hwordFrom⟩ := wordFrom_total [c] cs
  have hsymbol := symbol?_blank (c :: cs)
  have hcharacters := List.length_dropWhile_le (p := Text.isNumeric) cs
  unfold plain at h ⊢
  simp only [List.cons_append] at hsymbol
  simp only [hmark, Bool.false_and, Bool.false_eq_true, if_false] at h ⊢
  simp only [hsymbol, takeWhile_blank hnumeric, dropWhile_blank hnumeric, hwordFrom]
  cases hfound : symbol? .postgres (c :: cs) with
  | some found =>
    obtain ⟨t, r'⟩ := found
    rw [hfound] at h
    cases h
    exact ⟨length_symbol? hfound, fun rest => rfl⟩
  | none =>
    rw [hfound] at h
    simp only [Option.map_none] at h ⊢
    by_cases hquestion : (c == '?') = true
    · simp only [hquestion, if_true] at h ⊢
      cases h
      exact ⟨hcharacters, fun rest => rfl⟩
    by_cases hident : Dialect.startsIdent .postgres c = true
    · simp only [hquestion, hident, if_true] at h ⊢
      cases h
      exact ⟨hword, fun rest => rfl⟩
    by_cases hdollar : (c == '$') = true
    · simp only [hquestion, hident, hdollar, if_true] at h ⊢
      exact (dollar_stable.map some) h
    · simp only [hquestion, hident, hdollar] at h ⊢
      by_cases hblank : Text.isBlank c = true
      all_goals
        simp only [hblank, if_true] at h ⊢
        cases h
        exact ⟨Nat.le_refl _, fun rest => rfl⟩

/-! ### Kinds of tokens -/

/--
A scanner is done with some characters before a blank, unless it skips a comment that they end
in.
-/
def Ends (f : List Char → Option (Option Token × List Char)) (cs : List Char) : Prop :=
  ∀ ⦃t r⦄, f cs = some (t, r) →
    r.length ≤ cs.length ∧
      ((∀ rest, f (cs ++ ' ' :: rest) = some (t, r ++ ' ' :: rest)) ∨
        t = none ∧ r = [] ∧ f (cs ++ ' ' :: "AND".toList) = some (none, []))

namespace Ends

variable {f g : List Char → Option (Option Token × List Char)} {cs : List Char}

theorem ite {p : List Char → Bool} (hp : ∀ rest, p (cs ++ ' ' :: rest) = p cs)
    (hf : p cs = true → Ends f cs) (hg : p cs = false → Ends g cs) :
    Ends (fun cs => if p cs then f cs else g cs) cs := by
  intro t r h
  simp only [hp] at h ⊢
  cases hcs : p cs with
  | true =>
    rw [hcs] at h
    exact hf hcs h
  | false =>
    rw [hcs] at h
    exact hg hcs h

/-- The one character that has been read is all there is to the token. -/
theorem taken (t : Option Token) : Ends (fun cs => some (t, cs)) cs := by
  rintro t r ⟨⟩
  exact ⟨Nat.le_refl _, .inl fun rest => rfl⟩

theorem failed : Ends (fun _ => none) cs := by
  intro t r h
  cases h

theorem prefixed {c : Char} (hg : prefixed? .postgres c cs = none → Ends g cs) :
    Ends (fun cs => match prefixed? .postgres c cs with
      | some found => found
      | none => g cs) cs := by
  intro t r h
  dsimp only at h ⊢
  cases hprefixed : prefixed? .postgres c cs with
  | none =>
    rw [hprefixed] at h
    simp only [prefixed?_none hprefixed]
    exact hg hprefixed h
  | some found =>
    rw [hprefixed] at h
    obtain rfl : found = some (t, r) := h
    obtain ⟨hlength, hrest⟩ := prefixed?_some hprefixed
    exact ⟨hlength, .inl fun rest => by simp only [hrest]⟩

end Ends

theorem Stable.ends {f : List Char → Option (Option Token × List Char)} (h : Stable f)
    (cs : List Char) : Ends f cs := by
  intro t r hrun
  obtain ⟨hlength, hrest⟩ := h hrun
  exact ⟨hlength, .inl hrest⟩

theorem name_stable {c : Char} (h : Dialect.opensQuoted .postgres c = true) :
    Stable fun cs => (untilQuote .postgres false (closing c) cs).map fun (s, r) =>
      (some (Token.word (String.ofList s) (some c) ""), r) := by
  have hc : c = '"' := by simpa [Dialect.opensQuoted] using h
  have hclosing : ' ' ≠ closing c := by
    rw [hc]
    decide
  exact (untilQuote_stable .postgres false hclosing).map fun s =>
    some (Token.word (String.ofList s) (some c) "")

theorem doubleQuoted_stable : Stable (step.textLiteral' .postgres) :=
  (untilQuote_stable .postgres (Dialect.backslashEscapes .postgres) (by decide : ' ' ≠ '"')).map
    fun s => some (Token.literal (.doubleQuoted (String.ofList s)))

/-- A number, or a period that is a symbol. -/
theorem number_ends {c : Char} (h : (c.isDigit || c == '.') = true) (afterWord : Bool)
    (cs : List Char) :
    Ends (fun cs =>
      if c == '.' && cs.headD ' ' == '_' then
        if afterWord then some (some (.symbol "."), cs) else none
      else if c == '.' && afterWord && Dialect.numericWords .postgres then
        some (some (.symbol "."), cs)
      else
        let (t, r) := number .postgres (c :: cs)
        some (some t, r)) cs := by
  refine .ite (fun rest => by rw [headD_blank]) (fun _ => ?_) fun _ => ?_
  · exact .ite (fun _ => rfl) (fun _ => .taken _) fun _ => .failed
  refine .ite (fun _ => rfl) (fun _ => .taken _) fun _ => ?_
  have hlength := length_number cs h
  obtain ⟨-, hrest⟩ := number_total (c :: cs)
  simp only [List.cons_append] at hrest
  rintro t r hrun
  simp only [hrest] at hrun ⊢
  cases hrun
  exact ⟨hlength, .inl fun rest => rfl⟩

/-- What follows a comment of one line, which may be the end of the text. -/
theorem skipLine_blank (cs : List Char) :
    (skipLine .postgres cs).length ≤ cs.length ∧
      ((∀ rest, skipLine .postgres (cs ++ ' ' :: rest) = skipLine .postgres cs ++ ' ' :: rest) ∨
        skipLine .postgres cs = [] ∧
          skipLine .postgres (cs ++ ' ' :: "AND".toList) = []) := by
  induction cs with
  | nil => exact ⟨Nat.le_refl _, .inr ⟨rfl, rfl⟩⟩
  | cons c cs ih =>
    obtain ⟨hlength, hrest⟩ := ih
    by_cases hc : (c != '\n' && !(c == '\r' && Dialect.postgres == .postgres)) = true
    · simp only [skipLine, List.cons_append, List.dropWhile_cons, hc, if_true] at hlength hrest ⊢
      exact ⟨Nat.le_succ_of_le hlength, hrest⟩
    · simp only [skipLine, List.cons_append, List.dropWhile_cons, hc]
      exact ⟨Nat.le_succ _, .inl fun rest => rfl⟩

theorem lineComment_ends (cs : List Char) :
    Ends (fun cs => some (none, skipLine .postgres cs)) cs := by
  rintro t r ⟨⟩
  obtain ⟨hlength, hrest | ⟨hend, hrest⟩⟩ := skipLine_blank cs
  · exact ⟨hlength, .inl fun rest => by simp only [hrest]⟩
  · exact ⟨hlength, .inr ⟨rfl, hend, by simp only [hrest]⟩⟩

/-- A comment of several lines, behind its slash. -/
theorem comment_ends {cs : List Char} (h : (cs.headD ' ' == '*') = true) (nests : Bool) :
    Ends (fun cs => (skipComment nests 0 (cs.drop 1)).map (none, ·)) cs := by
  cases cs with
  | nil => cases h
  | cons n cs =>
    intro t r hrun
    obtain ⟨r', hr', heq⟩ := Option.map_eq_some_iff.mp hrun
    cases heq
    obtain ⟨hlength, hrest⟩ := skipComment_blank _ _ hr'
    refine ⟨Nat.le_succ_of_le hlength, .inl fun rest => ?_⟩
    exact congrArg (Option.map (none, ·)) (hrest rest)

/-! ### One step -/

theorem step_ends (afterWord : Bool) (c : Char) (cs : List Char) :
    Ends (fun cs => step .postgres afterWord c cs) cs := by
  unfold step
  refine .ite (fun _ => rfl) (fun _ => .taken none) fun _ => .prefixed fun _ => ?_
  refine .ite (fun _ => rfl) (fun _ => (quotedText_stable _ .text).ends cs) fun _ => ?_
  refine .ite (fun _ => rfl) (fun hname => (name_stable hname).ends cs) fun _ => ?_
  refine .ite (fun _ => rfl) (fun _ => doubleQuoted_stable.ends cs) fun _ => ?_
  refine .ite (fun _ => rfl) (fun hnumber => number_ends hnumber afterWord cs) fun _ => ?_
  refine .ite (fun rest => ?_) (fun _ => lineComment_ends cs) fun _ => ?_
  · simp only [headD_blank]
    rfl
  refine .ite (fun rest => ?_) (fun hopen => comment_ends ?_ _) fun _ => ?_
  · rw [headD_blank]
  · exact (Bool.and_eq_true_iff.mp hopen).2
  refine .ite (fun rest => ?_) (fun _ => lineComment_ends cs) fun _ => (plain_stable c).ends cs
  rw [headD_blank]

/-- A step ends before a blank, unless it is a comment that the text ends in. -/
theorem step_blank {afterWord : Bool} {c : Char} {cs r : List Char} {t : Option Token}
    (h : step .postgres afterWord c cs = some (t, r)) :
    r.length ≤ cs.length ∧
      ((∀ rest, step .postgres afterWord c (cs ++ ' ' :: rest) = some (t, r ++ ' ' :: rest)) ∨
        t = none ∧ r = [] ∧
          step .postgres afterWord c (cs ++ ' ' :: "AND".toList) = some (none, [])) :=
  step_ends afterWord c cs h

end RowScope.Sql.Token
