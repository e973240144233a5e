/-
Texts between quotes, written and read again.

A text is written with its quotes doubled, unless they look doubled already: a quote behind a
backslash is kept, and so are two quotes side by side.  A reader knows nothing of this.  To
it two quotes are always one, and where a backslash is a character like any other, a quote
behind it ends the text.  So a text comes back as it was just as long as it has nothing in it
that looks escaped; two quotes side by side come back as one (`untilQuote_escapeQuotes`).
-/
import RowScope.Sql.Token

namespace RowScope.Sql

variable {q : Char}

/-- A text with every quote doubled. -/
def doubled (q : Char) (cs : List Char) : List Char :=
  cs.flatMap fun c => if c = q then [q, q] else [c]

/-- A text with one quote in the place of two that stand side by side, from left to right. -/
def collapsed (q : Char) : List Char → List Char
  | c :: n :: rest =>
    if c = q ∧ n = q then q :: collapsed q rest else c :: collapsed q (n :: rest)
  | cs => cs

/-- Without two quotes side by side nothing collapses, and with them something does. -/
theorem collapsed_eq_iff (cs : List Char) : collapsed q cs = cs ↔ ¬[q, q] <:+: cs := by
  have hlength : ∀ cs, (collapsed q cs).length ≤ cs.length := by
    intro cs
    fun_induction collapsed q cs with
    | case1 => simp; omega
    | case2 => simp_all
    | case3 => simp
  fun_induction collapsed q cs with
  | case1 c n rest h =>
    obtain ⟨rfl, rfl⟩ := h
    constructor
    · intro heq
      have := congrArg List.length heq
      have := hlength rest
      simp at *
      omega
    · intro hinfix
      exact absurd ⟨[], rest, rfl⟩ hinfix
  | case2 c n rest h ih =>
    rw [List.cons.injEq, List.infix_cons_iff, List.cons_prefix_cons, List.cons_prefix_cons]
    simp only [true_and, ih]
    constructor
    · rintro h1 (⟨rfl, rfl, -⟩ | h2)
      · exact h ⟨rfl, rfl⟩
      · exact h1 h2
    · exact fun h1 h2 => h1 (.inr h2)
  | case3 cs h =>
    refine iff_of_true rfl fun hinfix => ?_
    match cs with
    | [] => simp at hinfix
    | [c] => simpa using hinfix.length_le
    | c :: n :: rest => exact h c n rest rfl

namespace Token

theorem untilQuote_pair (d : Dialect) (rest : List Char) :
    untilQuote d false q (q :: q :: rest)
      = (untilQuote d false q rest).map fun (s, r) => (q :: s, r) := by
  rw [untilQuote, if_pos rfl, if_pos rfl]

theorem untilQuote_char (d : Dialect) {c : Char} (hc : c ≠ q) {cs : List Char} (hcs : cs ≠ []) :
    untilQuote d false q (c :: cs)
      = (untilQuote d false q cs).map fun (s, r) => (c :: s, r) := by
  cases cs with
  | nil => exact absurd rfl hcs
  | cons n rest =>
    rw [untilQuote, if_neg hc]
    rfl

theorem length_untilQuote (d : Dialect) (escapes : Bool) {cs s r : List Char}
    (h : untilQuote d escapes q cs = some (s, r)) : r.length ≤ cs.length := by
  fun_induction untilQuote d escapes q cs generalizing s with
  | case1 => cases h
  | case2 => cases h; simp
  | case3 => cases h
  | case5 => cases h; simp
  | _ =>
    rename_i ih
    obtain ⟨⟨t, r'⟩, ht, heq⟩ := Option.map_eq_some_iff.mp h
    cases heq
    have hlength := ih ht
    simp only [List.length_cons] at hlength ⊢
    omega

/-- What a text is read as up to its closing quote is the same in front of anything but a quote. -/
theorem untilQuote_append (d : Dialect) (escapes : Bool) {cs s r back : List Char}
    (hback : back.head? ≠ some q) (h : untilQuote d escapes q cs = some (s, r)) :
    untilQuote d escapes q (cs ++ back) = some (s, r ++ back) := by
  fun_induction untilQuote d escapes q cs generalizing s with
  | case1 => cases h
  | case2 =>
    cases h
    cases back with
    | nil => simp [untilQuote]
    | cons b back =>
      have hb : b ≠ q := fun hb => hback (congrArg some hb)
      simp [untilQuote, hb]
  | case3 => cases h
  | case5 n rest hn =>
    cases h
    simp [untilQuote, hn]
  | _ =>
    rename_i ih
    obtain ⟨⟨t, r'⟩, ht, heq⟩ := Option.map_eq_some_iff.mp h
    cases heq
    have hrest := ih ht
    simp only [List.cons_append] at hrest ⊢
    rw [untilQuote]
    simp [*]

/-- Every text can be written, with all its quotes doubled. -/
theorem untilQuote_doubled (d : Dialect) (cs : List Char) :
    untilQuote d false q (doubled q cs ++ [q]) = some (cs, []) := by
  induction cs with
  | nil => simp [doubled, untilQuote]
  | cons c cs ih =>
    rw [doubled, List.flatMap_cons, ← doubled]
    by_cases hc : c = q
    · simp only [hc, if_true, List.cons_append, List.nil_append]
      rw [untilQuote_pair, ih]
      rfl
    · simp only [hc, if_false, List.cons_append, List.nil_append]
      rw [untilQuote_char d hc (by simp), ih]
      rfl

/-- A text without a quote behind a backslash comes back with pairs of quotes collapsed. -/
theorem untilQuote_escapeQuotes (d : Dialect) {cs : List Char} (h : ¬['\\', q] <:+: cs) :
    untilQuote d false q (escapeQuotes q false cs ++ [q]) = some (collapsed q cs, []) := by
  -- What the state remembers is a backslash, and a quote does not follow on one.
  have hstate : ∀ (escaped : Bool) (cs : List Char), ¬['\\', q] <:+: cs →
      (escaped = true → cs.head? ≠ some q) →
      untilQuote d false q (escapeQuotes q escaped cs ++ [q]) = some (collapsed q cs, []) := by
    intro escaped cs h hescaped
    fun_induction escapeQuotes q escaped cs with
    | case1 => simp [untilQuote, collapsed]
    | case2 => exact absurd rfl (hescaped rfl)
    | case3 => simp [untilQuote, collapsed]
    | case4 escaped c hc => simp [untilQuote, collapsed, hc]
    | case5 n rest => exact absurd rfl (hescaped rfl)
    | case6 escaped rest _ ih =>
      have hrest : ¬['\\', q] <:+: rest := fun hr =>
        h ((hr.trans (List.suffix_cons q rest).isInfix).trans (List.suffix_cons q _).isInfix)
      rw [List.cons_append, List.cons_append, untilQuote_pair, ih hrest nofun, collapsed,
        if_pos ⟨rfl, rfl⟩]
      rfl
    | case7 escaped n rest _ hn ih =>
      have hrest : ¬['\\', q] <:+: n :: rest := fun hr =>
        h (hr.trans (List.suffix_cons q _).isInfix)
      rw [List.cons_append, List.cons_append, untilQuote_pair, ih hrest nofun, collapsed,
        if_neg fun hc => hn hc.2]
      rfl
    | case8 escaped c n rest hc ih =>
      have hrest : ¬['\\', q] <:+: n :: rest := fun hr =>
        h (hr.trans (List.suffix_cons c _).isInfix)
      have hbehind : decide (c = '\\') = true → (n :: rest).head? ≠ some q := by
        intro hslash hn
        rw [of_decide_eq_true hslash, Option.some.inj hn] at h
        exact h ⟨[], rest, rfl⟩
      rw [List.cons_append, untilQuote_char d hc (by simp), ih hrest hbehind, collapsed,
        if_neg fun hpair => hc hpair.1]
      rfl
  exact hstate false cs h nofun

end Token

end RowScope.Sql
