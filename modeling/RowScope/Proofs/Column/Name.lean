/-
Which name the identifier of a column stands for.

A database reads an identifier in two ways (`Identifies`).  A word is folded to small letters,
and must not be reserved.  A text between double quotes is taken as it stands, with two quotes
for each that is meant.

A name is written as a word only if that is read as the name again: folding changes nothing of
it, and it is not reserved.  The list of reserved words is searched by halves, which finds what is
in it because it is in order (`search_iff`).  Every other name is written between quotes, by the
rule that leaves alone what looks escaped already.  So it is read as itself exactly if nothing in
it looks like that, and what is written without quotes has no quote in it to begin with.
-/
import Mathlib.Data.List.Chain
import RowScope.Column.Name
import RowScope.Proofs.Column.Value

namespace RowScope.Column

open Sql

/-! ### Reserved words -/

/-- Words in order are all found, and nothing else is. -/
theorem search_iff {word : String} {words : List String} (hsorted : words.Pairwise (· < ·))
    {steps : Nat} (hsteps : words.length ≤ steps) :
    search word steps words = true ↔ word ∈ words := by
  induction steps generalizing words with
  | zero =>
    rw [List.length_eq_zero_iff.mp (Nat.le_zero.mp hsteps)]
    simp [search]
  | succ steps ih =>
    rw [search]
    have hparts := List.take_append_drop (words.length / 2) words
    have hfront : (words.take (words.length / 2)).length ≤ words.length / 2 :=
      List.length_take_le _ _
    generalize words.take (words.length / 2) = front at hparts hfront
    cases hback : words.drop (words.length / 2) with
    | nil =>
      have hempty : words = [] := by
        have := List.drop_eq_nil_iff.mp hback
        exact List.length_eq_zero_iff.mp (by omega)
      simp [hempty]
    | cons middle behind =>
      have hlength := congrArg List.length hback
      rw [List.length_drop, List.length_cons] at hlength
      rw [hback] at hparts
      rw [← hparts, List.pairwise_append, List.pairwise_cons] at hsorted
      obtain ⟨hsortedFront, ⟨hbehind, hsortedBehind⟩, hacross⟩ := hsorted
      rw [← hparts, List.mem_append, List.mem_cons]
      by_cases hword : word = middle
      · simp [hword]
      · by_cases hless : word < middle
        · -- What stands behind the middle is greater still.
          have hnot : word ∉ behind := fun h =>
            String.lt_asymm hless (hbehind word h)
          simp only [hword, hless, if_true, if_false, ih hsortedFront (by omega), hnot, or_false]
        · have hnot : word ∉ front := fun h => hless (hacross word h middle List.mem_cons_self)
          simp only [hword, hless, if_false, ih hsortedBehind (by omega), hnot, false_or]

theorem reservedWords_sorted : reservedWords.Pairwise (· < ·) := by
  have hchain : reservedWords.IsChain (· < ·) := by decide +kernel
  exact List.isChain_iff_pairwise.mp hchain

theorem isReserved_iff {word : String} : isReserved word = true ↔ word ∈ reservedWords :=
  search_iff reservedWords_sorted (Nat.le_refl _)

/-! ### Identifiers -/

/-- The characters a word may start with. -/
def IsWordStart (c : Char) : Prop :=
  ('a' ≤ c ∧ c ≤ 'z') ∨ ('A' ≤ c ∧ c ≤ 'Z') ∨ c = '_' ∨ 128 ≤ c.toNat

/-- The characters a word may go on with. -/
def IsWordRest (c : Char) : Prop := IsWordStart c ∨ ('0' ≤ c ∧ c ≤ '9') ∨ c = '$'

/-- A text is a single identifier and stands for a name. -/
inductive Identifies (written name : String) : Prop
  /-- A word that is not reserved stands for itself in small letters. -/
  | word (c : Char) (cs : List Char) (hwritten : written.toList = c :: cs)
      (hstart : IsWordStart c) (hrest : ∀ d ∈ cs, IsWordRest d)
      (hname : name.toList = (c :: cs).map Char.toLower) (hreserved : name ∉ reservedWords)
  /-- A text between quotes stands for what is between them, each quote in it written twice. -/
  | quoted (hname : name ≠ "")
      (hwritten : written.toList = '"' :: (doubled '"' name.toList ++ ['"']))

theorem not_isWordStart_quote : ¬IsWordStart '"' := by
  unfold IsWordStart
  decide

/-- No text stands for two names. -/
theorem Identifies.unique {written name other : String} (h : Identifies written name)
    (h' : Identifies written other) : name = other := by
  cases h with
  | word c cs hwritten hstart _ hname _ =>
    cases h' with
    | word c' cs' hwritten' _ _ hname' _ =>
      rw [← String.toList_inj, hname, hname', ← hwritten, hwritten']
    | quoted _ hwritten' =>
      rw [hwritten] at hwritten'
      exact absurd ((List.cons.inj hwritten').1 ▸ hstart) not_isWordStart_quote
  | quoted _ hwritten =>
    cases h' with
    | word c' cs' hwritten' hstart' _ _ _ =>
      rw [hwritten'] at hwritten
      exact absurd ((List.cons.inj hwritten).1 ▸ hstart') not_isWordStart_quote
    | quoted _ hwritten' =>
      rw [hwritten] at hwritten'
      have hread := Token.untilQuote_doubled (q := '"') .postgres name.toList
      rw [(List.cons.inj hwritten').2, Token.untilQuote_doubled, Option.some.injEq,
        Prod.mk.injEq] at hread
      exact String.toList_inj.mp hread.1.symm

/-- Escaping leaves nothing out. -/
theorem length_le_escapeQuotes {q : Char} (escaped : Bool) (cs : List Char) :
    cs.length ≤ (escapeQuotes q escaped cs).length := by
  fun_induction escapeQuotes q escaped cs <;> grind

theorem toList_quoted (q : Char) (name : String) :
    (Sql.quoted q name).toList = q :: (escapeQuotes q false name.toList ++ [q]) :=
  String.toList_ofList

theorem quoted_ne (q : Char) (name : String) : Sql.quoted q name ≠ name := by
  intro h
  have hlength := congrArg List.length (toList_quoted q name)
  rw [h, List.length_cons, List.length_append] at hlength
  have hescaped : name.toList.length ≤ (escapeQuotes q false name.toList).length :=
    length_le_escapeQuotes false name.toList
  omega

/-- Between quotes a name is written as itself exactly if nothing in it looks escaped. -/
theorem identifies_quoted {name : String} :
    Identifies (Sql.quoted '"' name) name
      ↔ name ≠ "" ∧ ¬['"', '"'] <:+: name.toList ∧ ¬['\\', '"'] <:+: name.toList := by
  have hescaped := escapeQuotes_eq_doubled (q := '"') (by decide) false name.toList
  constructor
  · intro h
    cases h with
    | word c cs hword hstart _ _ _ =>
      rw [toList_quoted] at hword
      exact absurd ((List.cons.inj hword).1 ▸ hstart) not_isWordStart_quote
    | quoted hname hquoted =>
      rw [toList_quoted] at hquoted
      have hnone := hescaped.mp (List.append_cancel_right (List.cons.inj hquoted).2)
      exact ⟨hname, hnone.2.1, hnone.1⟩
  · rintro ⟨hname, hpair, hslash⟩
    refine .quoted hname ?_
    rw [toList_quoted, hescaped.mpr ⟨hslash, hpair, nofun⟩]

/-! ### Plain names -/

/-- A name of small letters, digits and the signs `_` and `$`, neither digit nor `$` in front. -/
def IsPlainName (name : String) : Prop :=
  ∃ c cs, name.toList = c :: cs ∧ (('a' ≤ c ∧ c ≤ 'z') ∨ c = '_') ∧
    ∀ d ∈ cs, ('a' ≤ d ∧ d ≤ 'z') ∨ ('0' ≤ d ∧ d ≤ '9') ∨ d = '_' ∨ d = '$'

theorem isLower_iff {c : Char} : c.isLower = true ↔ 'a' ≤ c ∧ c ≤ 'z' := by
  change (decide ('a' ≤ c) && decide (c ≤ 'z')) = true ↔ _
  rw [Bool.and_eq_true, decide_eq_true_eq, decide_eq_true_eq]

theorem isDigit_iff {c : Char} : c.isDigit = true ↔ '0' ≤ c ∧ c ≤ '9' := by
  change (decide ('0' ≤ c) && decide (c ≤ '9')) = true ↔ _
  rw [Bool.and_eq_true, decide_eq_true_eq, decide_eq_true_eq]

theorem isPlainStart_iff {c : Char} :
    isPlainStart c = true ↔ ('a' ≤ c ∧ c ≤ 'z') ∨ c = '_' := by
  rw [isPlainStart, Bool.or_eq_true, isLower_iff, beq_iff_eq]

theorem isPlainRest_iff {c : Char} : isPlainRest c = true
    ↔ ('a' ≤ c ∧ c ≤ 'z') ∨ ('0' ≤ c ∧ c ≤ '9') ∨ c = '_' ∨ c = '$' := by
  simp only [isPlainRest, Bool.or_eq_true, isLower_iff, isDigit_iff, beq_iff_eq, or_assoc]

theorem isPlain_iff {name : String} : isPlain name = true ↔ IsPlainName name := by
  rw [isPlain, IsPlainName]
  cases name.toList with
  | nil => simp
  | cons c cs =>
    simp [isPlainStart_iff, isPlainRest_iff]

/-- Folding changes small letters, digits and signs in nothing. -/
theorem toLower_plain {c : Char}
    (h : ('a' ≤ c ∧ c ≤ 'z') ∨ ('0' ≤ c ∧ c ≤ '9') ∨ c = '_' ∨ c = '$') : c.toLower = c := by
  refine dif_neg fun hcapital => ?_
  obtain ⟨hge, hle⟩ : 'A' ≤ c ∧ c ≤ 'Z' := hcapital
  rcases h with ⟨h, -⟩ | ⟨-, h⟩ | rfl | rfl
  · exact absurd (Char.le_trans h hle) (by decide)
  · exact absurd (Char.le_trans hge h) (by decide)
  · exact absurd hle (by decide)
  · exact absurd hge (by decide)

/-- A plain name that is not reserved is a word that stands for itself. -/
theorem identifies_plain {name : String} (hplain : IsPlainName name)
    (hreserved : name ∉ reservedWords) : Identifies name name := by
  obtain ⟨c, cs, hname, hstart, hrest⟩ := hplain
  refine .word c cs hname ?_ (fun d hd => ?_) ?_ hreserved
  · exact hstart.imp_right fun h => .inr (.inl h)
  · rcases hrest d hd with h | h | rfl | rfl
    · exact .inl (.inl h)
    · exact .inr (.inl h)
    · exact .inl (.inr (.inr (.inl rfl)))
    · exact .inr (.inr rfl)
  · have hc : c.toLower = c := toLower_plain (hstart.imp_right fun h => .inr (.inl h))
    have hcs : cs.map Char.toLower = cs := by
      rw [List.map_congr_left fun d hd => toLower_plain (hrest d hd), List.map_id']
    rw [hname, List.map_cons, hc, hcs]

theorem quote_not_mem_plain {name : String} (hplain : IsPlainName name) :
    '"' ∉ name.toList := by
  obtain ⟨c, cs, hname, hstart, hrest⟩ := hplain
  rw [hname]
  intro h
  rcases List.mem_cons.mp h with rfl | h
  · revert hstart
    decide
  · have := hrest _ h
    revert this
    decide

theorem render_plain {name : String} (h : IsPlainName name ∧ name ∉ reservedWords) :
    (ident name).render = name := by
  rw [ident, isPlain_iff.mpr h.1, Bool.eq_false_iff.mpr (mt isReserved_iff.mp h.2)]
  rfl

theorem render_quoted {name : String} (h : ¬(IsPlainName name ∧ name ∉ reservedWords)) :
    (ident name).render = Sql.quoted '"' name := by
  have hcond : ¬(isPlain name && !isReserved name) = true := by
    rwa [Bool.and_eq_true, isPlain_iff, Bool.not_eq_true', ← Bool.not_eq_true, isReserved_iff]
  rw [ident, if_neg hcond]
  rfl

/--
How the name of a column is written, for every name.  The text is a single identifier that stands
for this name and no other exactly if the name is not empty and has neither two quotes side by side
nor a quote behind a backslash.  It is the name itself exactly if the name is plain and not
reserved, and begins and ends with a quote otherwise.
-/
theorem ident_identifies (name : String) :
    ((∀ other, Identifies (ident name).render other ↔ other = name)
      ↔ name ≠ "" ∧ ¬['"', '"'] <:+: name.toList ∧ ¬['\\', '"'] <:+: name.toList) ∧
    ((ident name).render = name ↔ IsPlainName name ∧ name ∉ reservedWords) ∧
    ((ident name).render = name ∨
      ∃ inside, (ident name).render.toList = '"' :: (inside ++ ['"'])) := by
  have hexactly : (∀ other, Identifies (ident name).render other ↔ other = name)
      ↔ Identifies (ident name).render name :=
    ⟨fun h => (h name).mpr rfl, fun h other => ⟨fun h' => h'.unique h, fun heq => heq ▸ h⟩⟩
  rw [hexactly]
  by_cases hbare : IsPlainName name ∧ name ∉ reservedWords
  · have hquote := quote_not_mem_plain hbare.1
    have hsound := identifies_plain hbare.1 hbare.2
    rw [render_plain hbare]
    refine ⟨iff_of_true hsound ⟨?_, ?_, ?_⟩, iff_of_true rfl hbare, .inl rfl⟩
    · rintro rfl
      obtain ⟨⟨c, cs, hname, -⟩, -⟩ := hbare
      cases hname
    · exact fun h => hquote (h.subset (by simp))
    · exact fun h => hquote (h.subset (by simp))
  · rw [render_quoted hbare]
    exact ⟨identifies_quoted, iff_of_false (quoted_ne '"' name) hbare,
      .inr ⟨_, toList_quoted '"' name⟩⟩

end RowScope.Column
