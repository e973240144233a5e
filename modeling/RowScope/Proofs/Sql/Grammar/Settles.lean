/-
What a grammar gives whatever stands behind.

A grammar that is run on some tokens may look at those behind them, and so it may give
something else in front of one text than in front of another.  It settles on certain tokens
(`Settles`) if it takes just these away, or fails, and does either without a look at what
stands behind, as long as that is of a certain kind.

The kind that matters here is what may stand behind a name or a constant (`Quiet`).  No
keyword and no mark that the grammar asks for at such a place is among it, so most readers
find nothing there and leave it alone.
-/
import RowScope.Proofs.Sql.Grammar.Climb

namespace RowScope.Sql.Grammar

/-! ### Runs -/

theorem many_apply {α : Type} (step : Grammar (Option α)) (level : Level) (tokens : List Lexeme) :
    many step level tokens = manyUpTo step (tokens.length + 1) level tokens := rfl

theorem bind_of_ok {α β : Type} {g : Grammar α} {level : Level} {tokens rest : List Lexeme} {a : α}
    (h : g level tokens = .ok (a, rest)) (f : α → Grammar β) :
    (g >>= f) level tokens = f a level rest := by
  rw [bind_apply, h]
  rfl

theorem bind_of_error {α β : Type} {g : Grammar α} {level : Level} {tokens : List Lexeme}
    {cause : SyntaxError} (h : g level tokens = .error cause) (f : α → Grammar β) :
    (g >>= f) level tokens = .error cause := by
  rw [bind_apply, h]
  rfl

section Attempts

variable {α : Type} {g h : Grammar α} {level : Level} {tokens rest : List Lexeme} {a : α}

theorem attempt_of_ok (h : g level tokens = .ok (a, rest)) :
    attempt g level tokens = .ok (some a, rest) := by
  unfold attempt
  rw [h]

theorem attempt_of_unexpected (h : g level tokens = .error .unexpected) :
    attempt g level tokens = .ok (none, tokens) := by
  unfold attempt
  rw [h]

theorem attempt_of_tooDeep (h : g level tokens = .error .tooDeep) :
    attempt g level tokens = .error .tooDeep := by
  unfold attempt
  rw [h]

end Attempts

section Settling

variable {α β : Type} {g : Grammar α} {level : Level} {ts : List Lexeme}
variable {P : List Lexeme → Prop}

/-- A grammar takes certain tokens away, and what it gives is told without those behind them. -/
def Settles (g : Grammar α) (level : Level) (ts : List Lexeme) (P : List Lexeme → Prop) : Prop :=
  ∃ r : Except SyntaxError α, ∀ rest, P rest → g level (ts ++ rest) = r.map (·, rest)

/-- A grammar takes nothing away and gives a certain thing. -/
def Passes (g : Grammar α) (level : Level) (P : List Lexeme → Prop) (a : α) : Prop :=
  ∀ rest, P rest → g level rest = .ok (a, rest)

/-- A grammar reads nothing, for a certain cause. -/
def Fails (g : Grammar α) (level : Level) (P : List Lexeme → Prop) (cause : SyntaxError) : Prop :=
  ∀ rest, P rest → g level rest = .error cause

theorem Passes.settles {a : α} (h : Passes g level P a) : Settles g level [] P := ⟨.ok a, h⟩

theorem Fails.settles {cause : SyntaxError} (h : Fails g level P cause) : Settles g level [] P :=
  ⟨.error cause, h⟩

theorem Fails.bind {f : α → Grammar β} {cause : SyntaxError} (h : Fails g level P cause) :
    Fails (g >>= f) level P cause := by
  intro rest hrest
  exact bind_of_error (h rest hrest) f

theorem Passes.pure (a : α) : Passes (Pure.pure a) level P a := fun _ _ => rfl

theorem Passes.bind {f : α → Grammar β} {a : α} {b : β} (h : Passes g level P a)
    (hf : Passes (f a) level P b) : Passes (g >>= f) level P b := by
  intro rest hrest
  rw [bind_of_ok (h rest hrest)]
  exact hf rest hrest

/-- A step that finds nothing is not repeated. -/
theorem Passes.many {step : Grammar (Option α)} (h : Passes step level P none) :
    Passes (many step) level P [] := by
  intro rest hrest
  rw [many_apply, manyUpTo, bind_apply, h rest hrest]
  rfl

theorem Passes.fails {f : α → Grammar β} {a : α} {cause : SyntaxError} (h : Passes g level P a)
    (hf : Fails (f a) level P cause) : Fails (g >>= f) level P cause := by
  intro rest hrest
  rw [bind_of_ok (h rest hrest)]
  exact hf rest hrest

theorem Fails.ite {c : Prop} {_ : Decidable c} {h : Grammar α} {cause : SyntaxError}
    (hg : Fails g level P cause) (hh : Fails h level P cause) :
    Fails (if c then g else h) level P cause := by
  split
  · exact hg
  · exact hh

/-- A grammar takes nothing away and gives something that is told without the tokens. -/
def Finds (g : Grammar α) (level : Level) (P : List Lexeme → Prop) : Prop :=
  ∃ a, Passes g level P a

namespace Finds

theorem pure (a : α) : Finds (Pure.pure a) level P := ⟨a, .pure a⟩

theorem after {f : α → Grammar β} {a : α} (h : Passes g level P a)
    (hf : Finds (f a) level P) : Finds (g >>= f) level P := by
  obtain ⟨b, hb⟩ := hf
  exact ⟨b, h.bind hb⟩

theorem ite {c : Prop} {_ : Decidable c} {h : Grammar α} (hg : Finds g level P)
    (hh : Finds h level P) : Finds (if c then g else h) level P := by
  split
  · exact hg
  · exact hh

end Finds

namespace Settles

theorem pure (a : α) : Settles (Pure.pure a) level [] P := ⟨.ok a, fun _ _ => rfl⟩

theorem after {f : α → Grammar β} {a : α} (h : Passes g level P a)
    (hf : Settles (f a) level [] P) : Settles (g >>= f) level [] P := by
  obtain ⟨r, hr⟩ := hf
  refine ⟨r, fun rest hrest => ?_⟩
  rw [List.nil_append, bind_of_ok (h rest hrest)]
  exact hr rest hrest

/-- What is done with the result takes nothing more away. -/
theorem bind {f : α → Grammar β} (h : Settles g level ts P)
    (hf : ∀ a, Settles (f a) level [] P) : Settles (g >>= f) level ts P := by
  obtain ⟨r, hr⟩ := h
  cases r with
  | error cause => exact ⟨.error cause, fun rest hrest => bind_of_error (hr rest hrest) f⟩
  | ok a =>
    obtain ⟨r', hr'⟩ := hf a
    refine ⟨r', fun rest hrest => ?_⟩
    rw [bind_of_ok (hr rest hrest)]
    exact hr' rest hrest

theorem ite {c : Prop} {_ : Decidable c} {h : Grammar α} (hg : Settles g level ts P)
    (hh : Settles h level ts P) : Settles (if c then g else h) level ts P := by
  split
  · exact hg
  · exact hh

end Settles

end Settling

/-! ### What may stand behind a name -/

/-- The tokens that end a name or a constant: none, AND, a period, an equals sign or a cast. -/
inductive Quiet : List Lexeme → Prop where
  | done : Quiet []
  | and {text : String} {spaced : Bool} {rest : List Lexeme} :
      Quiet (⟨.word text none "AND", spaced⟩ :: rest)
  | period {spaced : Bool} {rest : List Lexeme} : Quiet (⟨.symbol ".", spaced⟩ :: rest)
  | equals {spaced : Bool} {rest : List Lexeme} : Quiet (⟨.symbol "=", spaced⟩ :: rest)
  | cast {spaced : Bool} {rest : List Lexeme} : Quiet (⟨.symbol "::", spaced⟩ :: rest)

section Words

variable {level : Level} {P : List Lexeme → Prop} (hP : ∀ rest, P rest → Quiet rest)
include hP

theorem keyword_passes {key : String} (h : key ≠ "AND") : Passes (keyword key) level P false := by
  intro rest hrest
  cases hP rest hrest with
  | and =>
    rename_i text spaced rest
    have hrun : keyword key level (⟨.word text none "AND", spaced⟩ :: rest)
        = (if "AND" == key then (skip >>= fun _ => pure true : Grammar Bool) else pure false)
            level (⟨.word text none "AND", spaced⟩ :: rest) := rfl
    rw [hrun, beq_false_of_ne (Ne.symm h)]
    rfl
  | _ => rfl

theorem atSymbol_passes {s : String} (h : s ∉ [".", "=", "::"]) :
    Passes (atSymbol s) level P false := by
  simp only [List.mem_cons, List.not_mem_nil, not_or, or_false] at h
  obtain ⟨hperiod, hequals, hcast⟩ := h
  intro rest hrest
  have hrun : ∀ t spaced rest, atSymbol s level (⟨.symbol t, spaced⟩ :: rest)
      = .ok (t == s, ⟨.symbol t, spaced⟩ :: rest) := fun _ _ _ => rfl
  cases hP rest hrest with
  | period => rw [hrun, beq_false_of_ne (Ne.symm hperiod)]
  | equals => rw [hrun, beq_false_of_ne (Ne.symm hequals)]
  | cast => rw [hrun, beq_false_of_ne (Ne.symm hcast)]
  | _ => rfl

theorem symbol_passes {s : String} (h : s ∉ [".", "=", "::"]) :
    Passes (symbol s) level P false :=
  (atSymbol_passes hP h).bind (.pure false)

theorem parens_fails {α : Type} {g : Grammar α} : Fails (parens g) level P .unexpected := by
  intro rest hrest
  cases hP rest hrest <;> rfl

theorem value_fails : Fails value level P .unexpected := by
  intro rest hrest
  cases hP rest hrest <;> rfl

theorem lengthText_passes : Passes lengthText level P "" := by
  intro rest hrest
  cases hP rest hrest <;> rfl

theorem charLengthText_passes : Passes charLengthText level P "" := by
  intro rest hrest
  cases hP rest hrest <;> rfl

theorem scaleText_passes : Passes scaleText level P "" := by
  intro rest hrest
  cases hP rest hrest <;> rfl

theorem wordsAfter_passes {key : String} {keys : List String} (h : key ≠ "AND") :
    Passes (wordsAfter (key :: keys)) level P "" := by
  intro rest hrest
  cases hP rest hrest with
  | and =>
    rename_i text spaced rest
    have hrun : wordsAfter (key :: keys) level (⟨.word text none "AND", spaced⟩ :: rest)
        = (do
            let found ← (if "AND" == key && startsWith keys rest then
              (modify (List.drop (keys.length + 1)) >>= fun _ => pure true : Grammar Bool)
              else pure false)
            return if found then " " ++ " ".intercalate (key :: keys) else "" : Grammar String)
            level (⟨.word text none "AND", spaced⟩ :: rest) := rfl
    rw [hrun, beq_false_of_ne (Ne.symm h)]
    rfl
  | _ => rfl

theorem zoneText_passes : Passes zoneText level P "" := by
  intro rest hrest
  cases hP rest hrest <;> rfl

theorem builtinType_finds (key : String) : Finds (builtinType key) level P := by
  have hhas : ∀ f, Passes (has f) level P (f level.dialect) := fun f _ _ => rfl
  unfold builtinType
  refine .ite (.pure _) (.after (hhas _) (.ite (.pure _) (.ite ?_ (.ite ?_ (.ite ?_ (.ite ?_
    (.ite ?_ (.ite ?_ (.ite ?_ (.ite ?_ (.after (hhas _) (.ite ?_ (.pure _)))))))))))))
  · exact .after (lengthText_passes hP) (.after (wordsAfter_passes hP (by decide)) (.pure _))
  · exact .after (scaleText_passes hP) (.after (wordsAfter_passes hP (by decide)) (.pure _))
  · exact .after (lengthText_passes hP) (.pure _)
  · exact .after (charLengthText_passes hP) (.pure _)
  · exact .after (wordsAfter_passes hP (by decide)) (.after (wordsAfter_passes hP (by decide))
      (.after (charLengthText_passes hP) (.pure _)))
  · exact .after (wordsAfter_passes hP (by decide)) (.after (lengthText_passes hP) (.pure _))
  · exact .after (wordsAfter_passes hP (by decide)) (.after (scaleText_passes hP) (.pure _))
  · exact .after (lengthText_passes hP) (.after (zoneText_passes hP) (.pure _))
  · exact .after (wordsAfter_passes hP (by decide)) (.pure _)

end Words

end RowScope.Sql.Grammar
