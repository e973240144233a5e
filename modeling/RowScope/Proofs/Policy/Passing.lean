/-
Texts that are about no table of the rules.

Rules that miss a statement make nothing of it, so all that a guard does to such a text is to
read it and to write it down again.  Whether the text that goes out still says the same is
then a matter of printing alone, and printing is not faithful to literals: a quote is doubled
only where it does not look doubled already.  Two quotes side by side in a text or a quoted
name, wherever it stands, go out as they are and are one quote to whoever reads the result
(`Guard.enforce_missed`), and a quote behind a backslash ends the literal too early.
-/
import RowScope.Guard
import RowScope.Proofs.Policy.Frame
import RowScope.Proofs.Sql.Equality
import RowScope.Proofs.Sql.Token.Place

namespace RowScope

open Sql

/-! ### A SELECT of a text -/

/-- The statement that selects a text. -/
def selectText (s : String) : Statement :=
  .query ⟨[], .select ⟨.standard, [], [[.expr (.value (.text s))]], "", [], [], none, []⟩,
    [.text ""]⟩

/-- A SELECT of whatever is written between two quotes. -/
def selecting (cs : List Char) : String := "SELECT '" ++ String.ofList cs ++ "'"

theorem misses_selectText (r : Rule) (s : String) : r.Misses (selectText s) := by
  constructor
  · intro b hb name hname
    rw [List.mem_singleton.mp hb] at hname
    cases hname
  · intro i hi
    cases hi

theorem render_selectText (s : String) :
    Guard.render [selectText s] = selecting (escapeQuotes '\'' false s.toList) := by
  have hpieces : (selectText s).render = "" ++ ("SELECT" ++ "" ++ (" " ++ (quoted '\'' s ++ ""
      ++ "" ++ "")) ++ "" ++ "" ++ "" ++ "" ++ "") ++ ("" ++ "") := rfl
  rw [Guard.render, List.map_singleton, String.intercalate_singleton]
  simp only [hpieces, String.append_empty, String.empty_append]
  rw [← String.toList_inj]
  simp [selecting, quoted]

/-- The place between the quotes, where a backslash is a character like any other. -/
def selectPlace (d : Dialect) (hplain : d.backslashEscapes = false) : Token.Place d where
  quote := '\''
  make s := .literal (.text s)
  quoting := .text hplain
  front := "SELECT ".toList
  before := [⟨.word "SELECT" none "SELECT", false⟩]
  afterWord := false
  spaced := true
  detached := by
    intro rest after hafter
    have hword : Token.step d false 'S' ("ELECT".toList ++ ' ' :: '\'' :: rest)
        = some (some (.word "SELECT" none "SELECT"), ' ' :: '\'' :: rest) := by
      cases d <;> rfl
    have hquote : Token.lexemes d (rest.length + 6) false true ('\'' :: rest) = some after :=
      Token.lexemes_mono (by simp only [List.length_cons]; omega) hafter
    change Token.lexemes d (rest.length + 8) false false
      ('S' :: ("ELECT".toList ++ ' ' :: '\'' :: rest)) = _
    rw [Token.lexemes_token hword, Token.isWord, Token.lexemes_blank rfl, hquote]
    rfl
  back := []
  after := []
  behind _ := rfl
  apart := nofun

theorem parse_selecting {d : Dialect} {hplain : d.backslashEscapes = false} {cs s : List Char}
    (h : Token.read d ((selectPlace d hplain).text cs)
      = some ((selectPlace d hplain).tokens (String.ofList s))) :
    Statement.parse d (selecting cs) = .ok [selectText (String.ofList s)] := by
  have htext : selecting cs = (selectPlace d hplain).text cs := by
    rw [← String.toList_inj]
    simp [selecting, selectPlace, Token.Place.text]
  rw [Statement.parse, htext, h]
  cases d <;> rfl

theorem selectText_inj {s t : String} : selectText s = selectText t ↔ s = t := by
  constructor
  · intro h
    simpa [selectText] using h
  · rintro rfl
    rfl

/-! ### Texts that pass -/

namespace Guard

variable {g : Guard} {sql : String}

/-- Where no rule is about anything in a text, it is written down as it was read. -/
theorem enforce_of_misses {ss : List Statement} (hparse : g.parse sql = .ok ss)
    (hmisses : ∀ s ∈ ss, ∀ r ∈ g.policy.rules, r.Misses s) :
    (g.enforce sql).2 = .ok (render ss) := by
  have hsame : (g.statements sql).2 = .ok ss :=
    statements_eq_ok.2 ⟨ss, hparse, List.forall₂_same.mpr fun s hs =>
      Enforcement.enforceRules_of_misses g.policy.strict (hmisses s hs)⟩
  show (g.statements sql).2.map render = _
  rw [hsame]
  rfl

/-- No rule is about the SELECT of a text, so it goes out with its quotes escaped. -/
theorem enforce_selectText {s : String} (hparse : g.parse sql = .ok [selectText s]) :
    (g.enforce sql).2 = .ok (selecting (escapeQuotes '\'' false s.toList)) := by
  rw [enforce_of_misses hparse, render_selectText]
  intro t ht r _
  rw [List.mem_singleton.mp ht]
  exact misses_selectText r s

theorem parse_doubled (hplain : g.dialect.backslashEscapes = false) (cs : List Char) :
    g.parse (selecting (doubled '\'' cs)) = .ok [selectText (String.ofList cs)] := by
  have hparse : Statement.parse g.dialect (selecting (doubled '\'' cs))
      = .ok [selectText (String.ofList cs)] :=
    parse_selecting ((selectPlace g.dialect hplain).read_doubled cs)
  rw [Guard.parse, hparse]
  rfl

theorem parse_written (hplain : g.dialect.backslashEscapes = false) {cs : List Char}
    (h : ¬['\\', '\''] <:+: cs) :
    g.parse (selecting (escapeQuotes '\'' false cs))
      = .ok [selectText (String.ofList (collapsed '\'' cs))] := by
  have hparse : Statement.parse g.dialect (selecting (escapeQuotes '\'' false cs))
      = .ok [selectText (String.ofList (collapsed '\'' cs))] :=
    parse_selecting ((selectPlace g.dialect hplain).read_written h)
  rw [Guard.parse, hparse]
  rfl

/--
What becomes of a text that all rules miss.  Whatever the policy and the dialect, it is
written down as it was read.  That need not be what it said.  At any place where a text or a
name stands between quotes, without a quote behind a backslash, what goes out says the same
with pairs of quotes collapsed, and so it says something else exactly if two quotes stand side
by side there.

A SELECT of a text is all such a place, so where a backslash is a character like any other it is
read again as the SELECT of the text with pairs of quotes collapsed.
-/
theorem enforce_missed (g : Guard) :
    (∀ sql ss, g.parse sql = .ok ss → (∀ s ∈ ss, ∀ r ∈ g.policy.rules, r.Misses s) →
      (g.enforce sql).2 = .ok (render ss)) ∧
    (∀ sql ss, g.parse sql = .ok ss → (∀ s ∈ ss, ∀ r ∈ g.policy.rules, r.Misses s) →
      ∀ (p : Token.Place g.dialect) (cs : List Char),
        render ss = p.text (escapeQuotes p.quote false cs) → ¬['\\', p.quote] <:+: cs →
        ∃ out, (g.enforce sql).2 = .ok out ∧
          Token.read g.dialect out = some (p.tokens (String.ofList (collapsed p.quote cs))) ∧
          g.parse out = g.parse (p.text (doubled p.quote (collapsed p.quote cs))) ∧
          (Token.read g.dialect out = Token.read g.dialect (p.text (doubled p.quote cs))
            ↔ ¬[p.quote, p.quote] <:+: cs)) ∧
    (g.dialect.backslashEscapes = false → ∀ s : String, ¬['\\', '\''] <:+: s.toList →
      ∃ out, g.parse (selecting (doubled '\'' s.toList)) = .ok [selectText s] ∧
        (g.enforce (selecting (doubled '\'' s.toList))).2 = .ok out ∧
        g.parse out = .ok [selectText (String.ofList (collapsed '\'' s.toList))] ∧
        (g.parse out = g.parse (selecting (doubled '\'' s.toList))
          ↔ ¬['\'', '\''] <:+: s.toList)) := by
  refine ⟨fun sql ss => enforce_of_misses, ?_, ?_⟩
  · intro sql ss hparse hmisses p cs hplace hs
    have hread := p.read_written hs
    have hcollapsed := p.read_doubled (collapsed p.quote cs)
    rw [← hplace] at hread
    refine ⟨_, enforce_of_misses hparse hmisses, hread, ?_, ?_⟩
    · rw [Guard.parse, Guard.parse, Statement.parse, Statement.parse, hread, hcollapsed]
    · rw [hplace, p.read_written_eq_iff hs]
  · intro hplain s hs
    have hin := parse_doubled (g := g) hplain s.toList
    have hout := parse_written (g := g) hplain hs
    rw [String.ofList_toList] at hin
    refine ⟨_, hin, enforce_selectText hin, hout, ?_⟩
    rw [hin, hout, Except.ok.injEq, List.singleton_inj, selectText_inj, ← collapsed_eq_iff]
    constructor
    · intro h
      simpa using congrArg String.toList h
    · intro h
      rw [h, String.ofList_toList]

/-- The place of a text in the filter of a SELECT, between other conditions. -/
def notePlace : Token.Place .postgres where
  quote := '\''
  make s := .literal (.text s)
  quoting := .text rfl
  front := "SELECT x FROM items WHERE note =".toList ++ [' ']
  before := [⟨.word "SELECT" none "SELECT", false⟩, ⟨.word "x" none "X", true⟩,
    ⟨.word "FROM" none "FROM", true⟩, ⟨.word "items" none "ITEMS", true⟩,
    ⟨.word "WHERE" none "WHERE", true⟩, ⟨.word "note" none "NOTE", true⟩, ⟨.symbol "=", true⟩]
  afterWord := false
  spaced := true
  detached := Token.detached_of_blank (Token.cuts_of_lexemes (n := 32) (by decide +kernel))
    (Token.cuts_of_lexemes (n := 36) (by decide +kernel)) '\''
  back := " AND n = 1".toList
  after := [⟨.word "AND" none "AND", true⟩, ⟨.word "n" none "N", true⟩, ⟨.symbol "=", true⟩,
    ⟨.literal (.number "1" false), true⟩]
  behind _ := by
    change Token.cut .postgres false false _ = _
    decide +kernel
  apart := by decide

/--
A text with two quotes side by side, in statements that the one rule is not about: what goes out
is read again, with another text.
-/
theorem enforce_missed_quotes :
    let g : Guard := { policy := ⟨[ordersRule], true⟩ }
    let said := notePlace.text (doubled '\'' "a''b".toList)
    (∃ ss, g.parse said = .ok ss ∧ (∀ s ∈ ss, ∀ r ∈ g.policy.rules, r.Misses s) ∧
      ∃ out, (g.enforce said).2 = .ok out ∧
        g.parse out = g.parse (notePlace.text (doubled '\'' "a'b".toList)) ∧
        Token.read .postgres out ≠ Token.read .postgres said) ∧
    g.parse (selecting (doubled '\'' "a''b".toList)) = .ok [selectText "a''b"] ∧
    ∃ out, (g.enforce (selecting (doubled '\'' "a''b".toList))).2 = .ok out ∧
      g.parse out = .ok [selectText "a'b"] := by
  intro g said
  have hplain : ¬['\\', '\''] <:+: "a''b".toList := by decide
  have hcheck : ∃ ss ∈ (g.parse said).toOption, (∀ s ∈ ss, ∀ r ∈ g.policy.rules, r.Misses s) ∧
      render ss = notePlace.text (escapeQuotes '\'' false "a''b".toList) := by
    decide +kernel
  obtain ⟨ss, hss, hmisses, hplace⟩ := hcheck
  have hparse : g.parse said = .ok ss := by
    cases hsaid : g.parse said with
    | error e =>
      rw [hsaid] at hss
      cases hss
    | ok ss' =>
      rw [hsaid] at hss
      cases hss
      rfl
  obtain ⟨-, hplaces, htexts⟩ := enforce_missed g
  obtain ⟨out, hout, -, hread, hsame⟩ :=
    hplaces said ss hparse hmisses notePlace "a''b".toList hplace hplain
  obtain ⟨out', hin', hout', hread', -⟩ := htexts rfl "a''b" hplain
  exact ⟨⟨ss, hparse, hmisses, out, hout, hread, fun h => hsame.mp h (by decide)⟩, hin', out',
    hout', hread'⟩

/--
Texts that no rule is about and that do not say the same any more.  A value with two quotes side
by side loses one of them, and behind a value with a quote behind a backslash a literal is left
open, so that what goes out is refused.
-/
theorem enforce_alters_text :
    let g : Guard := { policy := ⟨[ordersRule], true⟩ }
    (∃ s t, g.parse "SELECT 'a''''b'" = .ok [s] ∧ (∀ r ∈ g.policy.rules, r.Misses s) ∧
      (g.enforce "SELECT 'a''''b'").2 = .ok "SELECT 'a''b'" ∧
      g.parse "SELECT 'a''b'" = .ok [t] ∧ s ≠ t) ∧
    ∃ s, g.parse "SELECT 'a\\''b'" = .ok [s] ∧ (∀ r ∈ g.policy.rules, r.Misses s) ∧
      (g.enforce "SELECT 'a\\''b'").2 = .ok "SELECT 'a\\'b'" ∧
      g.parse "SELECT 'a\\'b'" = .error (.unreadable .unexpected) := by
  intro g
  have hpair := parse_doubled (g := g) rfl "a''b".toList
  have hlone := parse_doubled (g := g) rfl "a'b".toList
  have hslash := parse_doubled (g := g) rfl "a\\'b".toList
  refine ⟨⟨_, _, hpair, fun r _ => misses_selectText r _, enforce_selectText hpair, hlone, ?_⟩,
    ⟨_, hslash, fun r _ => misses_selectText r _, enforce_selectText hslash, ?_⟩⟩
  · rw [ne_eq, selectText_inj]
    decide
  · have hopen : Token.read .postgres "SELECT 'a\\'b'" = none := by decide +kernel
    simp only [Guard.parse, Statement.parse, g, hopen]
    rfl

end Guard

end RowScope
