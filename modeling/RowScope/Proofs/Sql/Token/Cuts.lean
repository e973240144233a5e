/-
Texts with AND between them.

A text that is cut into tokens on its own is cut into the same tokens in front of a blank,
unless it ends within a comment; so the tokens of a conjunction are those of its operands
with AND between them.  Whether a text ends within a comment is told by the text with AND
behind it: the keyword is a token of its own there, or it is swallowed.
-/
import RowScope.Proofs.Sql.Token.Blank

namespace RowScope.Sql.Token

/-- The tokens that characters are cut into, step by step. -/
inductive Cuts : (afterWord spaced : Bool) → List Char → List Lexeme → Prop where
  | nil {afterWord spaced : Bool} : Cuts afterWord spaced [] []
  | blank {afterWord spaced : Bool} {c : Char} {cs rest : List Char} {ts : List Lexeme}
      (hstep : step .postgres afterWord c cs = some (none, rest))
      (hrest : Cuts false true rest ts) : Cuts afterWord spaced (c :: cs) ts
  | token {afterWord spaced : Bool} {c : Char} {cs rest : List Char} {t : Token}
      {ts : List Lexeme} (hstep : step .postgres afterWord c cs = some (some t, rest))
      (hrest : Cuts t.isWord false rest ts) : Cuts afterWord spaced (c :: cs) (⟨t, spaced⟩ :: ts)

section Cuts

variable {afterWord spaced : Bool} {cs rest : List Char} {ts us : List Lexeme}

theorem cuts_of_lexemes {n : Nat} (h : lexemes .postgres n afterWord spaced cs = some ts) :
    Cuts afterWord spaced cs ts := by
  induction n generalizing afterWord spaced cs ts with
  | zero =>
    cases cs with
    | nil =>
      cases h
      exact .nil
    | cons c cs => cases h
  | succ n ih =>
    cases cs with
    | nil =>
      cases h
      exact .nil
    | cons c cs =>
      unfold lexemes at h
      split at h
      · cases h
      · rename_i hstep
        exact .blank hstep (ih h)
      · rename_i hstep
        obtain ⟨ts', hts', rfl⟩ := Option.map_eq_some_iff.mp h
        exact .token hstep (ih hts')

/-- As many steps as there are characters are enough. -/
theorem Cuts.lexemes {n : Nat} (h : Cuts afterWord spaced cs ts) (hn : cs.length ≤ n) :
    lexemes .postgres n afterWord spaced cs = some ts := by
  induction h generalizing n with
  | nil => cases n <;> rfl
  | blank hstep _ ih =>
    cases n with
    | zero => cases hn
    | succ n =>
      have hrest := (step_blank hstep).1
      rw [Token.lexemes, hstep]
      exact ih (Nat.le_trans hrest (Nat.le_of_succ_le_succ hn))
  | token hstep _ ih =>
    cases n with
    | zero => cases hn
    | succ n =>
      have hrest := (step_blank hstep).1
      rw [Token.lexemes, hstep]
      simp only [ih (Nat.le_trans hrest (Nat.le_of_succ_le_succ hn)), Option.map_some]

theorem read_eq_some {text : String} :
    read .postgres text = some ts ↔ Cuts false false text.toList ts :=
  ⟨cuts_of_lexemes, fun h => h.lexemes (Nat.le_refl _)⟩

theorem Cuts.of_blank {c : Char} (h : Cuts afterWord spaced (c :: cs) ts)
    (hstep : step .postgres afterWord c cs = some (none, rest)) : Cuts false true rest ts := by
  cases h with
  | blank hstep' hrest =>
    rw [hstep] at hstep'
    cases hstep'
    exact hrest
  | token hstep' hrest =>
    rw [hstep] at hstep'
    cases hstep'

theorem Cuts.of_token {c : Char} {t : Token} (h : Cuts afterWord spaced (c :: cs) ts)
    (hstep : step .postgres afterWord c cs = some (some t, rest)) :
    ∃ ts', ts = ⟨t, spaced⟩ :: ts' ∧ Cuts t.isWord false rest ts' := by
  cases h with
  | blank hstep' hrest =>
    rw [hstep] at hstep'
    cases hstep'
  | token hstep' hrest =>
    rw [hstep] at hstep'
    cases hstep'
    exact ⟨_, rfl, hrest⟩

/-- The keyword that joins conditions. -/
def andLexeme : Lexeme := ⟨.word "AND" none "AND", true⟩

/-- The keyword in front of a filter. -/
def whereLexeme : Lexeme := ⟨.word "WHERE" none "WHERE", true⟩

/-- A text that does not end within a comment is cut before a blank as it is alone. -/
theorem Cuts.append (h : Cuts afterWord spaced cs ts)
    (hclosed : Cuts afterWord spaced (cs ++ ' ' :: "AND".toList) (ts ++ [andLexeme]))
    (hrest : Cuts false true rest us) : Cuts afterWord spaced (cs ++ ' ' :: rest) (ts ++ us) := by
  induction h with
  | nil => exact .blank rfl hrest
  | blank hstep hmid ih =>
    obtain ⟨-, hstable | ⟨-, rfl, hswallowed⟩⟩ := step_blank hstep
    · exact .blank (hstable rest) (ih (hclosed.of_blank (hstable _)))
    · -- nothing is left of the text, and nothing of what stands behind it
      cases hmid
      cases hclosed.of_blank hswallowed
  | token hstep hmid ih =>
    obtain ⟨-, hstable | ⟨hnone, -⟩⟩ := step_blank hstep
    · obtain ⟨ts', heq, hclosed'⟩ := hclosed.of_token (hstable _)
      cases heq
      exact .token (hstable rest) (ih hclosed')
    · cases hnone

/-- `AND` between two texts is a token between their tokens. -/
theorem Cuts.and (h : Cuts afterWord spaced cs ts)
    (hclosed : Cuts afterWord spaced (cs ++ ' ' :: "AND".toList) (ts ++ [andLexeme]))
    (hrest : Cuts false true rest us) :
    Cuts afterWord spaced (cs ++ ' ' :: ("AND".toList ++ ' ' :: rest))
      (ts ++ andLexeme :: us) := by
  have hand : Cuts false true "AND".toList [andLexeme] :=
    cuts_of_lexemes (n := 3) (by decide +kernel)
  have htwice : Cuts false true ("AND".toList ++ ' ' :: "AND".toList) [andLexeme, andLexeme] :=
    cuts_of_lexemes (n := 5) (by decide +kernel)
  exact h.append hclosed (hand.append htwice hrest)

theorem cuts_where :
    Cuts false false (" WHERE".toList ++ ' ' :: cs) ts ↔
      ∃ us, ts = whereLexeme :: us ∧ Cuts false true cs us := by
  have hblank : ∀ cs, step .postgres false ' ' cs = some (none, cs) := fun _ => rfl
  have hword : step .postgres false 'W' "HERE".toList
      = some (some (.word "WHERE" none "WHERE"), []) := by decide +kernel
  obtain ⟨-, hstable | ⟨hnone, -⟩⟩ := step_blank hword
  · constructor
    · intro h
      obtain ⟨us, rfl, hrest⟩ := (h.of_blank (hblank _)).of_token (hstable cs)
      exact ⟨us, rfl, hrest.of_blank rfl⟩
    · rintro ⟨us, rfl, hrest⟩
      exact .blank (hblank _) (.token (hstable cs) (.blank rfl hrest))
  · cases hnone

end Cuts

end RowScope.Sql.Token
