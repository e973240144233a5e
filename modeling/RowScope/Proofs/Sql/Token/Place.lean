/-
What is between two quotes, at any place of a text.

A text literal and a quoted name are one token each, and the characters around them are cut
in the same way whatever stands between the quotes (`Place`).  So a place of a text says what
its quotes say.  With every quote inside doubled that is what was to be written there.  As it is
written, with quotes left alone that look doubled, it is the same with each two quotes that
stand side by side as one (`Place.read_written`).

The characters in front of a place have to end with a token of their own.  In the default
dialect a blank at their end sees to that, unless it is within a comment.
-/
import RowScope.Proofs.Sql.Token.Cuts
import RowScope.Proofs.Sql.Token.Quoted

namespace RowScope.Sql.Token

/-! ### Characters around a quote -/

/-- The tokens of characters that stand behind others. -/
def cut (d : Dialect) (afterWord spaced : Bool) (cs : List Char) : Option (List Lexeme) :=
  lexemes d cs.length afterWord spaced cs

/-- Characters that are cut in front of a quote as they are, whatever stands behind the quote. -/
def Detached (d : Dialect) (q : Char) (front : List Char) (before : List Lexeme)
    (afterWord spaced : Bool) : Prop :=
  ∀ rest after, cut d afterWord spaced (q :: rest) = some after →
    cut d false false (front ++ q :: rest) = some (before ++ after)

/-- The kinds of tokens that are written between quotes, with the quotes inside escaped. -/
inductive Quoting (d : Dialect) : Char → (String → Token) → Prop where
  | text (h : d.backslashEscapes = false) : Quoting d '\'' fun s => .literal (.text s)
  | name {q : Char} (hopens : d.opensQuoted q = true) (hq : q ≠ '[') :
      Quoting d q fun s => .word s (some q) ""

section Lexemes

variable {d : Dialect} {afterWord spaced : Bool}

theorem lexemes_mono {n m : Nat} {cs : List Char} {ts : List Lexeme} (hnm : n ≤ m)
    (h : lexemes d n afterWord spaced cs = some ts) :
    lexemes d m afterWord spaced cs = some ts := by
  induction n generalizing m afterWord spaced cs ts with
  | zero =>
    cases cs with
    | nil => simpa [lexemes] using h
    | cons c cs => cases h
  | succ n ih =>
    obtain ⟨m, rfl⟩ : ∃ k, m = k + 1 := ⟨m - 1, by omega⟩
    have hnm := Nat.le_of_succ_le_succ hnm
    cases cs with
    | nil => simpa [lexemes] using h
    | cons c cs =>
      unfold lexemes at h ⊢
      split at h
      · cases h
      · exact ih hnm h
      · obtain ⟨ts, hts, rfl⟩ := Option.map_eq_some_iff.mp h
        rw [ih hnm hts]
        rfl

theorem lexemes_token {n : Nat} {c : Char} {cs rest : List Char} {t : Token}
    (h : step d afterWord c cs = some (some t, rest)) :
    lexemes d (n + 1) afterWord spaced (c :: cs)
      = (lexemes d n t.isWord false rest).map (⟨t, spaced⟩ :: ·) := by
  rw [lexemes, h]

theorem lexemes_blank {n : Nat} {c : Char} {cs rest : List Char}
    (h : step d afterWord c cs = some (none, rest)) :
    lexemes d (n + 1) afterWord spaced (c :: cs) = lexemes d n false true rest := by
  rw [lexemes, h]

end Lexemes

/-- A blank ends every token of the default dialect. -/
theorem detached_of_blank {front : List Char} {before : List Lexeme}
    (h : Cuts false false front before)
    (hclosed : Cuts false false (front ++ ' ' :: "AND".toList) (before ++ [andLexeme])) (q : Char) :
    Detached .postgres q (front ++ [' ']) before false true := by
  intro rest after hafter
  have hcuts := h.append hclosed (cuts_of_lexemes hafter)
  rw [List.append_assoc]
  exact hcuts.lexemes (Nat.le_refl _)

namespace Quoting

variable {d : Dialect} {q : Char} {make : String → Token}

theorem step (h : Quoting d q make) (afterWord : Bool) (cs : List Char) :
    Token.step d afterWord q cs
      = (untilQuote d false q cs).map fun (s, r) => (some (make (String.ofList s)), r) := by
  cases h with
  | text h =>
    have htext : Token.step d afterWord '\'' cs = textLiteral d .text cs := by cases d <;> rfl
    rw [htext, textLiteral, h]
  | name hopens hq =>
    have hquote : q = '"' ∨ q = '`' := by
      cases d <;> simp only [Dialect.opensQuoted, Bool.or_eq_true, beq_iff_eq] at hopens <;> grind
    rcases hquote with rfl | rfl <;> cases d <;> first | rfl | cases hopens

theorem injective (h : Quoting d q make) {s t : String} : make s = make t ↔ s = t := by
  cases h <;> simp

end Quoting

/-! ### Places -/

/-- A place between two quotes in a text, with the tokens in front of it and behind it. -/
structure Place (d : Dialect) where
  quote : Char
  make : String → Token
  quoting : Quoting d quote make
  front : List Char
  before : List Lexeme
  afterWord : Bool
  spaced : Bool
  detached : Detached d quote front before afterWord spaced
  back : List Char
  after : List Lexeme
  behind : ∀ s, cut d (make s).isWord false back = some after
  apart : back.head? ≠ some quote

namespace Place

variable {d : Dialect} (p : Place d)

/-- The text with some characters between the quotes. -/
def text (inside : List Char) : String :=
  String.ofList (p.front ++ p.quote :: (inside ++ p.quote :: p.back))

/-- The tokens of the text when the quotes say something. -/
def tokens (s : String) : List Lexeme := p.before ++ ⟨p.make s, p.spaced⟩ :: p.after

theorem tokens_inj {s t : String} : p.tokens s = p.tokens t ↔ s = t := by
  simp [tokens, p.quoting.injective]

theorem read_text {inside s : List Char}
    (h : untilQuote d false p.quote (inside ++ [p.quote]) = some (s, [])) :
    read d (p.text inside) = some (p.tokens (String.ofList s)) := by
  have hstep : step d p.afterWord p.quote (inside ++ p.quote :: p.back)
      = some (some (p.make (String.ofList s)), p.back) := by
    have hquote := untilQuote_append d false p.apart h
    rw [List.append_assoc, List.singleton_append] at hquote
    rw [p.quoting.step, hquote]
    rfl
  have hbehind : lexemes d (inside ++ p.quote :: p.back).length
      (p.make (String.ofList s)).isWord false p.back = some p.after := by
    refine lexemes_mono ?_ (p.behind (String.ofList s))
    simp only [List.length_append, List.length_cons]
    omega
  have hplace : cut d p.afterWord p.spaced (p.quote :: (inside ++ p.quote :: p.back))
      = some (⟨p.make (String.ofList s), p.spaced⟩ :: p.after) := by
    rw [cut, List.length_cons, lexemes_token hstep, hbehind]
    rfl
  have hread := p.detached _ _ hplace
  rw [read, text, String.toList_ofList]
  exact hread

/-- With every quote doubled a place says what is written there. -/
theorem read_doubled (cs : List Char) :
    read d (p.text (doubled p.quote cs)) = some (p.tokens (String.ofList cs)) :=
  p.read_text (untilQuote_doubled d cs)

/-- Without a quote behind a backslash it is written with pairs of quotes collapsed. -/
theorem read_written {cs : List Char} (h : ¬['\\', p.quote] <:+: cs) :
    read d (p.text (escapeQuotes p.quote false cs))
      = some (p.tokens (String.ofList (collapsed p.quote cs))) :=
  p.read_text (untilQuote_escapeQuotes d h)

/-- The text that is written says what it should exactly if no two quotes stand side by side. -/
theorem read_written_eq_iff {cs : List Char} (h : ¬['\\', p.quote] <:+: cs) :
    read d (p.text (escapeQuotes p.quote false cs)) = read d (p.text (doubled p.quote cs))
      ↔ ¬[p.quote, p.quote] <:+: cs := by
  rw [p.read_written h, p.read_doubled, Option.some_inj, p.tokens_inj, String.ofList_inj,
    collapsed_eq_iff]

end Place

end RowScope.Sql.Token
