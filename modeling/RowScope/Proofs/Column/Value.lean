/-
Which text values are written as literals of themselves.

A text denotes itself as a literal if it stands between quotes with each quote in it doubled,
and there is no other literal that does (`IsTextLiteral`).  A value is written otherwise: what
looks doubled or escaped is left alone.  So it is the literal of its text exactly if nothing in
it looks like that.

Three things can be wrong with what is written, and each is told here of the text alone.  Two
quotes side by side come out as one.  An odd number of quotes behind a backslash ends the
literal early, or leaves it open.  And texts that only differ in whether a quote is doubled are
written the same (`settled`).
-/
import Mathlib.Algebra.Group.Nat.Even
import RowScope.Column.Value
import RowScope.Proofs.Sql.Token.Quoted

namespace RowScope.Sql

variable {q : Char}

/-! ### Doubled quotes -/

theorem doubled_quote (cs : List Char) : doubled q (q :: cs) = q :: q :: doubled q cs := by
  simp [doubled]

theorem doubled_char {c : Char} (hc : c ≠ q) (cs : List Char) :
    doubled q (c :: cs) = c :: doubled q cs := by
  simp [doubled, hc]

/-- All quotes are doubled in a text: it is the inside of a literal. -/
def Doubled (q : Char) (cs : List Char) : Prop := ∃ t, cs = doubled q t

theorem doubled_nil : Doubled q [] := ⟨[], rfl⟩

theorem doubled_char_iff {c : Char} (hc : c ≠ q) {cs : List Char} :
    Doubled q (c :: cs) ↔ Doubled q cs := by
  constructor
  · rintro ⟨t, ht⟩
    cases t with
    | nil => cases ht
    | cons b t =>
      by_cases hb : b = q
      · rw [hb, doubled_quote] at ht
        exact absurd (List.cons.inj ht).1 hc
      · rw [doubled_char hb] at ht
        exact ⟨t, (List.cons.inj ht).2⟩
  · rintro ⟨t, rfl⟩
    exact ⟨c :: t, (doubled_char hc t).symm⟩

theorem doubled_pair {cs : List Char} : Doubled q (q :: q :: cs) ↔ Doubled q cs := by
  constructor
  · rintro ⟨t, ht⟩
    cases t with
    | nil => cases ht
    | cons b t =>
      by_cases hb : b = q
      · rw [hb, doubled_quote] at ht
        exact ⟨t, (List.cons.inj (List.cons.inj ht).2).2⟩
      · rw [doubled_char hb] at ht
        exact absurd (List.cons.inj ht).1.symm hb
  · rintro ⟨t, rfl⟩
    exact ⟨q :: t, (doubled_quote t).symm⟩

/-- A quote alone is not doubled. -/
theorem not_doubled_lone {cs : List Char} (hcs : cs.head? ≠ some q) : ¬Doubled q (q :: cs) := by
  rintro ⟨t, ht⟩
  cases t with
  | nil => cases ht
  | cons b t =>
    by_cases hb : b = q
    · rw [hb, doubled_quote] at ht
      rw [(List.cons.inj ht).2] at hcs
      exact hcs rfl
    · rw [doubled_char hb] at ht
      exact hb (List.cons.inj ht).1.symm

/-- What is read up to its end as a text has the quotes of that text doubled. -/
theorem Token.untilQuote_eq_iff (d : Dialect) {cs s : List Char} :
    untilQuote d false q cs = some (s, []) ↔ cs = doubled q s ++ [q] := by
  have hbehind : ∀ {read : Option (List Char × List Char)} {c : Char} {s : List Char},
      (read.map fun p => (c :: p.1, p.2)) = some (s, []) →
      ∃ t, read = some (t, []) ∧ s = c :: t := by
    intro read c s h
    obtain ⟨⟨t, r⟩, hread, heq⟩ := Option.map_eq_some_iff.mp h
    cases heq
    exact ⟨t, hread, rfl⟩
  constructor
  · intro h
    generalize hescapes : false = escapes at h
    fun_induction untilQuote d escapes q cs generalizing s with
    | case1 => cases h
    | case2 => cases h; rfl
    | case3 => cases h
    | case4 rest ih =>
      obtain ⟨t, ht, rfl⟩ := hbehind h
      rw [doubled_quote, ih ht]
      rfl
    | case5 => cases h
    | case6 | case7 => simp [← hescapes] at *
    | case8 c n rest hc _ ih =>
      obtain ⟨t, ht, rfl⟩ := hbehind h
      rw [doubled_char hc, ih ht]
      rfl
  · rintro rfl
    exact Token.untilQuote_doubled d s

/-! ### Texts that are written as they should be -/

/-- Two characters stand side by side at the start of a text or further on. -/
theorem pair_infix_cons {a b c : Char} {cs : List Char} :
    [a, b] <:+: c :: cs ↔ (c = a ∧ cs.head? = some b) ∨ [a, b] <:+: cs := by
  rw [List.infix_cons_iff, List.cons_prefix_cons]
  cases cs with
  | nil => simp
  | cons d cs => simp [eq_comm, List.cons_prefix_cons]

theorem length_escapeQuotes_le (escaped : Bool) (cs : List Char) :
    (escapeQuotes q escaped cs).length ≤ (doubled q cs).length := by
  fun_induction escapeQuotes q escaped cs with
  | case1 => simp
  | case2 => simp [doubled]
  | case3 => simp [doubled]
  | case4 escaped c hc => simp [doubled, hc]
  | case5 n rest ih =>
    rw [doubled_quote, List.length_cons, List.length_cons, List.length_cons]
    omega
  | case6 escaped rest _ ih =>
    rw [doubled_quote, doubled_quote]
    simp only [List.length_cons]
    omega
  | case7 escaped n rest _ _ ih =>
    rw [doubled_quote, List.length_cons, List.length_cons, List.length_cons, List.length_cons]
    omega
  | case8 escaped c n rest hc ih =>
    rw [doubled_char hc, List.length_cons, List.length_cons]
    omega

/-- All quotes of a text get doubled exactly if nothing in it looks doubled or escaped. -/
theorem escapeQuotes_eq_doubled (hq : q ≠ '\\') (escaped : Bool) (cs : List Char) :
    escapeQuotes q escaped cs = doubled q cs
      ↔ ¬['\\', q] <:+: cs ∧ ¬[q, q] <:+: cs ∧ (escaped = true → cs.head? ≠ some q) := by
  fun_induction escapeQuotes q escaped cs with
  | case1 => simp [doubled]
  | case2 => simp [doubled]
  | case3 escaped he =>
    refine iff_of_true (by simp [doubled]) ⟨?_, ?_, fun h => absurd h he⟩
    · exact fun h => absurd h.length_le (by simp)
    · exact fun h => absurd h.length_le (by simp)
  | case4 escaped c hc =>
    refine iff_of_true (by simp [doubled, hc]) ⟨?_, ?_, fun _ h => hc (Option.some.inj h)⟩
    · exact fun h => absurd h.length_le (by simp)
    · exact fun h => absurd h.length_le (by simp)
  | case5 n rest ih =>
    have hlength := length_escapeQuotes_le (q := q) true (n :: rest)
    constructor
    · intro h
      have := congrArg List.length h
      rw [doubled_quote] at this
      simp only [List.length_cons] at this
      omega
    · rintro ⟨-, -, h⟩
      exact absurd rfl (h rfl)
  | case6 escaped rest _ ih =>
    have hlength := length_escapeQuotes_le (q := q) false rest
    constructor
    · intro h
      have := congrArg List.length h
      rw [doubled_quote, doubled_quote] at this
      simp only [List.length_cons] at this
      omega
    · rintro ⟨-, h, -⟩
      exact absurd ⟨[], rest, rfl⟩ h
  | case7 escaped n rest he hn ih =>
    rw [doubled_quote, List.cons.injEq, List.cons.injEq, ih, @pair_infix_cons '\\' q q,
      @pair_infix_cons q q q]
    simp [hq, hn, he]
  | case8 escaped c n rest hc ih =>
    rw [doubled_char hc, List.cons.injEq, ih, @pair_infix_cons '\\' q c,
      @pair_infix_cons q q c]
    have hhead : (c :: n :: rest).head? ≠ some q := fun h => hc (Option.some.inj h)
    simp only [true_and, decide_eq_true_eq, hc, false_and, false_or, not_or, not_and]
    constructor
    · rintro ⟨hslash, hpair, hbehind⟩
      exact ⟨⟨hbehind, hslash⟩, hpair, fun _ => hhead⟩
    · rintro ⟨⟨hbehind, hslash⟩, hpair, -⟩
      exact ⟨hslash, hpair, hbehind⟩

/-! ### Quotes behind a backslash -/

/-- How many quotes a text starts with. -/
def leading (q : Char) (cs : List Char) : Nat := (cs.takeWhile (· = q)).length

/-- Behind each backslash of a text stands an even number of quotes. -/
def EvenBehind (q : Char) (cs : List Char) : Prop :=
  ∀ before behind, cs = before ++ '\\' :: behind → Even (leading q behind)

theorem leading_quote (cs : List Char) : leading q (q :: cs) = leading q cs + 1 := by
  simp [leading]

theorem leading_char {c : Char} (hc : c ≠ q) (cs : List Char) : leading q (c :: cs) = 0 := by
  simp [leading, hc]

theorem evenBehind_nil : EvenBehind q [] := by
  intro before behind h
  cases before with
  | nil => cases h
  | cons => cases h

theorem evenBehind_cons {c : Char} {cs : List Char} :
    EvenBehind q (c :: cs) ↔ (c = '\\' → Even (leading q cs)) ∧ EvenBehind q cs := by
  constructor
  · intro h
    refine ⟨?_, fun before behind heq => h (c :: before) behind ?_⟩
    · rintro rfl
      exact h [] cs rfl
    · rw [heq, List.cons_append]
  · rintro ⟨hfirst, hrest⟩ before behind heq
    cases before with
    | nil =>
      obtain ⟨rfl, rfl⟩ := List.cons.inj heq
      exact hfirst rfl
    | cons b before => exact hrest before behind (List.cons.inj heq).2

theorem evenBehind_quote (hq : q ≠ '\\') {cs : List Char} :
    EvenBehind q (q :: cs) ↔ EvenBehind q cs := by
  rw [evenBehind_cons]
  simp [hq]

/-- Quotes in front of anything else are doubled exactly if their number is even. -/
theorem doubled_replicate_iff {cs : List Char} (hcs : cs.head? ≠ some q) :
    ∀ k, Doubled q (List.replicate k q ++ cs) ↔ Even k ∧ Doubled q cs
  | 0 => by simp
  | 1 => iff_of_false (not_doubled_lone hcs) fun h => absurd h.1 (by decide)
  | k + 2 => by
    have hpair : List.replicate (k + 2) q ++ cs = q :: q :: (List.replicate k q ++ cs) := rfl
    rw [hpair, doubled_pair, doubled_replicate_iff hcs k, Nat.even_add_one, Nat.even_add_one,
      not_not]

section Scan

variable {written cs : List Char} {k : Nat}

/-- Where the text ends, only the quotes count that have been taken as they are. -/
theorem doubled_end (k : Nat) :
    Doubled q (List.replicate k q ++ []) ↔ Even (k + leading q []) ∧ EvenBehind q [] := by
  have hend : ([] : List Char).head? ≠ some q := Option.some_ne_none q |>.symm
  rw [doubled_replicate_iff hend]
  exact and_congr_right fun _ => iff_of_true doubled_nil evenBehind_nil

/-- A quote behind a backslash is taken as it is, so it counts with those in front of it. -/
theorem doubled_kept (hq : q ≠ '\\')
    (h : Doubled q (List.replicate (k + 1) q ++ written)
      ↔ Even (k + 1 + leading q cs) ∧ EvenBehind q cs) :
    Doubled q (List.replicate k q ++ q :: written)
      ↔ Even (k + leading q (q :: cs)) ∧ EvenBehind q (q :: cs) := by
  have hquotes : List.replicate k q ++ q :: written = List.replicate (k + 1) q ++ written := by
    rw [List.replicate_succ', List.append_assoc, List.singleton_append]
  have hcount : k + leading q (q :: cs) = k + 1 + leading q cs := by
    rw [leading_quote]
    omega
  rw [hquotes, h, hcount, evenBehind_quote hq]

/-- Another character ends the quotes in front of it, and may begin to count those behind it. -/
theorem doubled_other {escaped : Bool} (hk : escaped = false → k = 0) {c : Char} (hc : c ≠ q)
    (h : Doubled q written ↔ (c = '\\' → Even (leading q cs)) ∧ EvenBehind q cs) :
    Doubled q (List.replicate k q ++ c :: written)
      ↔ (escaped = true → Even (k + leading q (c :: cs))) ∧ EvenBehind q (c :: cs) := by
  have hhead : (c :: written).head? ≠ some q := fun heq => hc (Option.some.inj heq)
  have hquotes : (escaped = true → Even k) ↔ Even k := by
    cases escaped with
    | true => simp
    | false => simp [hk rfl]
  rw [doubled_replicate_iff hhead, doubled_char_iff hc, h, evenBehind_cons, leading_char hc,
    Nat.add_zero, hquotes]

/-- A quote that is doubled counts with none. -/
theorem doubled_written (hq : q ≠ '\\') (h : Doubled q written ↔ EvenBehind q cs) :
    Doubled q (q :: q :: written) ↔ EvenBehind q (q :: cs) := by
  rw [doubled_pair, h, evenBehind_quote hq]

end Scan

/--
What is written is the inside of a literal exactly if behind each backslash stands an even number
of quotes.  Behind a backslash those at the start count among these, and so do `k` quotes in front
that have been taken as they are.
-/
theorem doubled_escapeQuotes (hq : q ≠ '\\') {escaped : Bool} (cs : List Char) {k : Nat}
    (hk : escaped = false → k = 0) :
    Doubled q (List.replicate k q ++ escapeQuotes q escaped cs)
      ↔ (escaped = true → Even (k + leading q cs)) ∧ EvenBehind q cs := by
  have hend : Doubled q [] ↔ EvenBehind q [] := iff_of_true doubled_nil evenBehind_nil
  fun_induction escapeQuotes q escaped cs generalizing k with
  | case1 escaped =>
    cases escaped with
    | true => simpa using doubled_end k
    | false => simpa [hk rfl] using hend
  | case2 => simpa using doubled_kept hq (doubled_end (k + 1))
  | case3 escaped he =>
    obtain rfl := hk (by simpa using he)
    simpa [he] using doubled_written hq hend
  | case4 escaped c hc => exact doubled_other hk hc (hend.trans (by simp [leading]))
  | case5 n rest ih =>
    have hrest := ih (k := k + 1) fun h => absurd h (by decide)
    simpa using doubled_kept hq (by simpa using hrest)
  | case6 escaped rest he ih =>
    -- the second quote of the pair stands for the double of the first
    obtain rfl := hk (by simpa using he)
    have hrest := ih (k := 0) fun _ => rfl
    simpa [he, evenBehind_quote hq] using doubled_written hq (by simpa using hrest)
  | case7 escaped n rest he hn ih =>
    obtain rfl := hk (by simpa using he)
    have hrest := ih (k := 0) fun _ => rfl
    simpa [he] using doubled_written hq (by simpa using hrest)
  | case8 escaped c n rest hc ih =>
    have hrest := ih (k := 0) fun _ => rfl
    exact doubled_other hk hc (by simpa using hrest)

/-! ### Texts that are written the same -/

/--
What is left of a text once two quotes side by side are one quote, from left to right.  Behind a
backslash quotes stay as many as they are.
-/
def settled (q : Char) : (escaped : Bool) → List Char → List Char
  | _, [] => []
  | _, [c] => [c]
  | escaped, c :: d :: rest =>
    if c = q then
      if escaped then c :: settled q true (d :: rest)
      else if d = q then c :: settled q false rest
      else c :: settled q false (d :: rest)
    else c :: settled q (c = '\\') (d :: rest)

/-- A text with every quote doubled, except behind a backslash. -/
def redoubled (q : Char) : (escaped : Bool) → List Char → List Char
  | _, [] => []
  | escaped, c :: rest =>
    if c = q then
      if escaped then c :: redoubled q true rest
      else c :: c :: redoubled q false rest
    else c :: redoubled q (c = '\\') rest

/-- What is written of a text tells what is left of it, and no more. -/
theorem escapeQuotes_eq_redoubled (escaped : Bool) (cs : List Char) :
    escapeQuotes q escaped cs = redoubled q escaped (settled q escaped cs) := by
  fun_induction escapeQuotes q escaped cs with
  | case1 => rfl
  | case2 => simp [settled, redoubled]
  | case3 escaped he => simp [settled, redoubled, he]
  | case4 escaped c hc => simp [settled, redoubled, hc]
  | case5 n rest ih => rw [settled, if_pos rfl, if_pos rfl, redoubled, if_pos rfl, if_pos rfl, ih]
  | case6 escaped rest he ih =>
    rw [settled, if_pos rfl, if_neg he, if_pos rfl, redoubled, if_pos rfl, if_neg he, ih]
  | case7 escaped n rest he hn ih =>
    rw [settled, if_pos rfl, if_neg he, if_neg hn, redoubled, if_pos rfl, if_neg he, ih]
  | case8 escaped c n rest hc ih => rw [settled, if_neg hc, redoubled, if_neg hc, ih]

theorem head?_redoubled (escaped : Bool) (cs : List Char) :
    (redoubled q escaped cs).head? = cs.head? := by
  cases cs with
  | nil => rfl
  | cons c rest =>
    rw [redoubled]
    split
    · split <;> rfl
    · rfl

theorem redoubled_inj {escaped : Bool} {xs ys : List Char} :
    redoubled q escaped xs = redoubled q escaped ys ↔ xs = ys := by
  refine ⟨fun h => ?_, fun h => h ▸ rfl⟩
  have hhead : xs.head? = ys.head? := by
    rw [← head?_redoubled escaped xs, h, head?_redoubled]
  induction xs generalizing escaped ys with
  | nil => exact (List.head?_eq_none_iff.mp hhead.symm).symm
  | cons x xs ih =>
    obtain ⟨ys, rfl⟩ := List.head?_eq_some_iff.mp hhead.symm
    have htail : ∀ {escaped}, redoubled q escaped xs = redoubled q escaped ys → xs = ys := by
      intro escaped h
      exact ih h (by rw [← head?_redoubled escaped xs, h, head?_redoubled])
    rw [redoubled, redoubled] at h
    by_cases hx : x = q
    · rw [if_pos hx, if_pos hx] at h
      by_cases he : escaped = true
      · rw [if_pos he, if_pos he] at h
        rw [htail (List.cons.inj h).2]
      · rw [if_neg he, if_neg he] at h
        rw [htail (List.cons.inj (List.cons.inj h).2).2]
    · rw [if_neg hx, if_neg hx] at h
      rw [htail (List.cons.inj h).2]

theorem quoted_inj {s t : String} :
    quoted q s = quoted q t ↔ escapeQuotes q false s.toList = escapeQuotes q false t.toList := by
  rw [quoted, quoted, String.ofList_inj, List.cons.injEq, List.append_left_inj]
  simp

/-! ### Literals -/

/-- The text of the one literal that denotes a text: between quotes, with its quotes doubled. -/
def IsTextLiteral (written s : String) : Prop :=
  written.toList = '\'' :: (doubled '\'' s.toList ++ ['\''])

theorem isTextLiteral_quoted {s t : String} :
    IsTextLiteral (quoted '\'' s) t ↔ escapeQuotes '\'' false s.toList = doubled '\'' t.toList := by
  rw [IsTextLiteral, quoted, String.toList_ofList, List.cons.injEq, List.append_left_inj]
  simp

/-- A text is written as a literal of some text if its quotes behind backslashes are even. -/
theorem exists_isTextLiteral_quoted {s : String} :
    (∃ t, IsTextLiteral (quoted '\'' s) t) ↔ EvenBehind '\'' s.toList := by
  have hwhole : Doubled '\'' (escapeQuotes '\'' false s.toList) ↔ EvenBehind '\'' s.toList := by
    simpa using doubled_escapeQuotes (by decide) s.toList (fun _ : false = false => rfl)
  refine Iff.trans ⟨?_, ?_⟩ hwhole
  · rintro ⟨t, ht⟩
    exact ⟨t.toList, isTextLiteral_quoted.mp ht⟩
  · rintro ⟨t, ht⟩
    exact ⟨String.ofList t, isTextLiteral_quoted.mpr (by rw [ht, String.toList_ofList])⟩

/-- The default dialect reads a literal as the text it denotes, and such a text as nothing else. -/
theorem isTextLiteral_iff_step {written s : String} :
    IsTextLiteral written s ↔ ∃ cs, written.toList = '\'' :: cs ∧ ∀ afterWord,
      Token.step .postgres afterWord '\'' cs = some (some (.literal (.text s)), []) := by
  have hstep : ∀ afterWord cs, Token.step .postgres afterWord '\'' cs
      = (Token.untilQuote .postgres false '\'' cs).map fun p =>
        (some (.literal (.text (String.ofList p.1))), p.2) := by
    intro afterWord cs
    rfl
  rw [IsTextLiteral]
  constructor
  · intro h
    refine ⟨_, h, fun afterWord => ?_⟩
    rw [hstep, Token.untilQuote_doubled, Option.map_some]
    simp only [String.ofList_toList]
  · rintro ⟨cs, hcs, h⟩
    have hread := h false
    rw [hstep, Option.map_eq_some_iff] at hread
    obtain ⟨⟨t, r⟩, hread, heq⟩ := hread
    cases heq
    rw [hcs, String.toList_ofList, (Token.untilQuote_eq_iff _).mp hread]

end RowScope.Sql

namespace RowScope.Column

open Sql

/--
What is written for a text value, for every text.  It is the literal of that text exactly if no
quote stands behind a backslash and no two stand side by side.  It is a literal of any text at
all exactly if behind each backslash stands an even number of quotes.  Two texts are written the
same exactly if they are the same once two quotes side by side are one, where no backslash is in
front.  Literals are what the default dialect takes for one, from the first quote to the last.
-/
theorem Value.render_text (s : String) :
    (IsTextLiteral (Value.text s).toSql.render s
      ↔ ¬['\\', '\''] <:+: s.toList ∧ ¬['\'', '\''] <:+: s.toList) ∧
    ((∃ t, IsTextLiteral (Value.text s).toSql.render t) ↔ EvenBehind '\'' s.toList) ∧
    (∀ t, (Value.text s).toSql.render = (Value.text t).toSql.render
      ↔ settled '\'' false s.toList = settled '\'' false t.toList) ∧
    ∀ written, IsTextLiteral written s ↔ ∃ cs, written.toList = '\'' :: cs ∧ ∀ afterWord,
      Token.step .postgres afterWord '\'' cs = some (some (.literal (.text s)), []) := by
  refine ⟨?_, exists_isTextLiteral_quoted, fun t => ?_, fun written => isTextLiteral_iff_step⟩
  · refine isTextLiteral_quoted.trans ?_
    rw [escapeQuotes_eq_doubled (by decide)]
    simp
  · refine quoted_inj.trans ?_
    rw [escapeQuotes_eq_redoubled, escapeQuotes_eq_redoubled, redoubled_inj]

/--
Two texts that are written the same, one of which is not what is meant; a text that ends its
literal in its middle, with the rest of it read as a condition; and one that leaves it open.
-/
theorem Value.render_text_alters :
    ((Value.text "a''b").toSql.render = (Value.text "a'b").toSql.render ∧
      IsTextLiteral (Value.text "a''b").toSql.render "a'b") ∧
    ((Value.text "a\\' OR true --").toSql.render = "'a\\' OR true --'" ∧
      (∀ t, ¬IsTextLiteral (Value.text "a\\' OR true --").toSql.render t) ∧
      Token.read .postgres (Value.text "a\\' OR true --").toSql.render
        = some [⟨.literal (.text "a\\"), false⟩, ⟨.word "OR" none "OR", true⟩,
          ⟨.word "true" none "TRUE", true⟩]) ∧
    Token.read .postgres (Value.text "a\\'").toSql.render = none := by
  have hodd : ¬EvenBehind '\'' "a\\' OR true --".toList := by
    intro h
    exact absurd (h ['a'] "' OR true --".toList (by decide)) (by decide)
  refine ⟨⟨by decide +kernel, by unfold IsTextLiteral; decide +kernel⟩,
    ⟨by decide +kernel, fun t ht => ?_, by decide +kernel⟩, by decide +kernel⟩
  exact hodd (exists_isTextLiteral_quoted.mp ⟨t, ht⟩)

end RowScope.Column
