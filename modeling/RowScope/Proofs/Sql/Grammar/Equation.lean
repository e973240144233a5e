/-
Equations between a name and a closed operand.

A dotted name is read by readers that lie one level deeper for each part.  It is read as a
whole, or refused, and an operand for which the same holds whatever conditions follow is
closed (`Closed`).  Behind an equation of the two the reading goes on from where it ends
(`equation_settles`).

Constants are closed, with the operators in front of them and the casts behind them.
-/
import RowScope.Proofs.Sql.Grammar.Word

namespace RowScope.Sql.Grammar

/-! ### Access to parts -/

section Links

variable {level : Level} (hlevel : level.dialect = .postgres) {P : List Lexeme → Prop}
variable (hP : ∀ rest, P rest → Closing rest) {ts : List Lexeme}
include hlevel hP

omit hlevel in
/-- What stands behind a name is no part of it. -/
theorem links_pass : Passes links level P none := by
  have hbracket : ∀ b, Passes (symbolIf b "[") level P false := by
    intro b
    cases b with
    | false => exact .pure false
    | true => exact symbol_passes (fun _ h => (hP _ h).quiet) (by decide)
  have hhas : Passes (has Dialect.subscripts) level P level.dialect.subscripts := fun _ _ => rfl
  have hrest : Passes (do
      if ← symbolIf (← has Dialect.subscripts) "[" then
        return some [.part (← subscript)]
      else return none : Grammar (Option (List Link))) level P none :=
    hhas.bind ((hbracket _).bind (.pure none))
  intro rest h
  cases hP rest h <;> exact hrest _ h

omit hlevel hP in
/-- Behind a period a word is tried as an expression first. -/
theorem field_word (text key : String) (quote : Option Char) (spaced : Bool)
    (tokens : List Lexeme) :
    field level (⟨.word text quote key, spaced⟩ :: tokens)
      = (do
          let found ← attempt do
            match linksOf (← exprAboveBinding .period) with
            | some links => return links
            | none => fail
          match found with
          | some links => return links
          | none => return [.field (.ident (← ident))] : Grammar (List Link)) level
            (⟨.word text quote key, spaced⟩ :: tokens) := rfl

omit hlevel hP in
theorem attempt_linksOf {g : Grammar Expr} {e : Expr} {tokens rest : List Lexeme}
    (hg : g level tokens = .ok (e, rest)) :
    attempt (do
        match linksOf (← g) with
        | some links => return links
        | none => fail : Grammar (List Link)) level tokens
      = .ok (linksOf e, if (linksOf e).isSome then rest else tokens) := by
  cases hlinks : linksOf e with
  | some links =>
    refine attempt_of_ok ((bind_of_ok hg _).trans ?_)
    rw [hlinks]
    rfl
  | none =>
    refine attempt_of_unexpected ((bind_of_ok hg _).trans ?_)
    rw [hlinks]
    rfl

omit hP in
/-- The steps behind a period: the rest of the name at once, or its next part, or too deep. -/
theorem field_cases (text key : String) (quote : Option Char) (spaced : Bool)
    (hinner : Settles (exprAbove 200) level (⟨.word text quote key, spaced⟩ :: ts) P) :
    (∃ steps, ∀ rest, P rest →
        field level (⟨.word text quote key, spaced⟩ :: (ts ++ rest)) = .ok (steps, rest)) ∨
      (∀ rest, P rest → field level (⟨.word text quote key, spaced⟩ :: (ts ++ rest))
        = .ok ([.field (.ident ⟨text, quote⟩)], ts ++ rest)) ∨
      ∀ rest, P rest → field level (⟨.word text quote key, spaced⟩ :: (ts ++ rest))
        = .error .tooDeep := by
  obtain ⟨r, hr⟩ := hinner
  have hperiod : ∀ rest, P rest → exprAboveBinding .period level
      (⟨.word text quote key, spaced⟩ :: (ts ++ rest)) = r.map (·, rest) := by
    intro rest hrest
    rw [← hr rest hrest]
    change exprAbove (level.dialect.strength .period) level _ = _
    rw [hlevel]
    rfl
  cases r with
  | ok e =>
    have hfound := fun rest hrest => attempt_linksOf (hperiod rest hrest)
    cases hlinks : linksOf e with
    | some steps =>
      simp only [hlinks] at hfound
      refine .inl ⟨steps, fun rest hrest => ?_⟩
      rw [field_word, bind_of_ok (hfound rest hrest)]
      rfl
    | none =>
      simp only [hlinks] at hfound
      refine .inr (.inl fun rest hrest => ?_)
      rw [field_word, bind_of_ok (hfound rest hrest)]
      rfl
  | error cause =>
    cases cause with
    | unexpected =>
      refine .inr (.inl fun rest hrest => ?_)
      rw [field_word, bind_of_ok (attempt_of_unexpected (bind_of_error (hperiod rest hrest) _))]
      rfl
    | tooDeep =>
      refine .inr (.inr fun rest hrest => ?_)
      rw [field_word, bind_of_error (attempt_of_tooDeep (bind_of_error (hperiod rest hrest) _))]

omit hlevel in
theorem links_ended (n : Nat) {rest : List Lexeme} (hrest : P rest) :
    manyUpTo links (n + 1) level rest = .ok ([], rest) := by
  rw [manyUpTo, bind_of_ok (links_pass hP rest hrest)]
  rfl

omit hlevel in
/-- No steps stand behind an operand that ends where the condition goes on. -/
theorem links_nothing : ∃ r : Except SyntaxError (List (List Link)),
    ∀ n, ([] : List Lexeme).length < n → ∀ rest, P rest →
      manyUpTo links n level ([] ++ rest) = r.map (·, rest) := by
  refine ⟨.ok [], fun n hn rest hrest => ?_⟩
  cases n with
  | zero => cases hn
  | succ n => exact links_ended hP n hrest

/-- The steps behind the first word of a name are those of the name, whatever stands behind it. -/
theorem links_settle (hinner : ∀ text quote key spaced ts, Parts ts →
    Settles (exprAbove 200) level (⟨.word text quote key, spaced⟩ :: ts) P) (h : Parts ts) :
    ∃ r : Except SyntaxError (List (List Link)), ∀ n, ts.length < n → ∀ rest, P rest →
      manyUpTo links n level (ts ++ rest) = r.map (·, rest) := by
  induction h with
  | nil => exact links_nothing hP
  | cons h ih =>
    rename_i spaced spaced' text key quote ts
    have hlinks : ∀ tokens, links level (⟨.symbol ".", spaced⟩ ::
          ⟨.word text quote key, spaced'⟩ :: tokens)
        = (field >>= fun steps => pure (some steps) : Grammar (Option (List Link))) level
          (⟨.word text quote key, spaced'⟩ :: tokens) := fun _ => rfl
    -- one turn takes the period and what `field` reads behind it
    have hturn : ∀ n tokens steps rest,
        field level (⟨.word text quote key, spaced'⟩ :: tokens) = .ok (steps, rest) →
        manyUpTo links (n + 1) level (⟨.symbol ".", spaced⟩ :: ⟨.word text quote key, spaced'⟩ ::
          tokens) = (manyUpTo links n >>= fun more => pure (steps :: more)) level rest := by
      intro n tokens steps rest hfield
      rw [manyUpTo, bind_of_ok ((hlinks tokens).trans (bind_of_ok hfield _))]
    simp only [List.length_cons, List.cons_append]
    obtain ⟨steps, hfield⟩ | hfield | hfield :=
      field_cases hlevel text key quote spaced' (hinner text quote key spaced' ts h)
    · refine ⟨.ok [steps], fun n hn rest hrest => ?_⟩
      obtain ⟨n, rfl⟩ : ∃ m, n = m + 2 := ⟨n - 2, by omega⟩
      rw [hturn _ _ _ _ (hfield rest hrest), bind_of_ok (links_ended hP n hrest)]
      rfl
    · obtain ⟨r, hr⟩ := ih
      refine ⟨r.map ([.field (.ident ⟨text, quote⟩)] :: ·), fun n hn rest hrest => ?_⟩
      obtain ⟨n, rfl⟩ : ∃ m, n = m + 1 := ⟨n - 1, by omega⟩
      have hmore := hr n (by omega) rest hrest
      rw [hturn _ _ _ _ (hfield rest hrest)]
      cases r with
      | ok more =>
        rw [bind_of_ok hmore]
        rfl
      | error cause =>
        rw [bind_of_error hmore]
        rfl
    · refine ⟨.error .tooDeep, fun n hn rest hrest => ?_⟩
      obtain ⟨n, rfl⟩ : ∃ m, n = m + 1 := ⟨n - 1, by omega⟩
      rw [manyUpTo, bind_of_error ((hlinks _).trans (bind_of_error (hfield rest hrest) _))]
      rfl

end Links

/-! ### Operands and operators -/

/-- An operand and the steps behind it. -/
def primary (n : Nat) : Grammar Expr := do
  let root ← operand n
  let chain ← many links
  collated (← rowStar root chain.flatten)

theorem expression_eq (strength : Nat) (level : Level) (tokens : List Lexeme) :
    expression strength level tokens
      = (primary (tokens.length + 1) >>= climb strength (tokens.length + 1)) level tokens := by
  unfold expression primary
  simp only [bind_assoc]
  rfl

theorem climb_ended {level : Level} {strength : Nat} {rest : List Lexeme}
    (h : strengthOf level.dialect level.inColumn rest ≤ strength) (n : Nat) (left : Expr) :
    climb strength n left level rest = .ok (left, rest) := by
  cases n with
  | zero =>
    rw [climb, bind_of_ok (nextStrength_apply level rest), decide_eq_true h]
    rfl
  | succ n =>
    rw [climb, bind_of_ok (nextStrength_apply level rest), if_pos h]
    rfl

/-- Nothing climbs from an operand that no operator behind it binds tighter than. -/
theorem climb_nothing {level : Level} {P : List Lexeme → Prop} {strength : Nat}
    (h : ∀ rest, P rest → strengthOf level.dialect level.inColumn rest ≤ strength) (left : Expr) :
    ∃ r : Except SyntaxError Expr, ∀ n, ([] : List Lexeme).length < n → ∀ rest, P rest →
      climb strength n left level ([] ++ rest) = r.map (·, rest) :=
  ⟨.ok left, fun n _ rest hrest => climb_ended (h rest hrest) n left⟩

/-- The equals sign behind the first operand of an equation. -/
def AtEquals (rest : List Lexeme) : Prop := ∃ spaced tail, rest = ⟨.symbol "=", spaced⟩ :: tail

theorem AtEquals.closing {rest : List Lexeme} (h : AtEquals rest) : Closing rest := by
  obtain ⟨spaced, tail, rfl⟩ := h
  exact .equals

theorem Parts.mark {ts rest : List Lexeme} (h : Parts ts) (hrest : AtEquals rest) :
    Mark (ts ++ rest) := by
  obtain ⟨spaced, tail, rfl⟩ := hrest
  cases h with
  | nil => exact .equals
  | cons => exact .period

section Depth

variable {level : Level} {P : List Lexeme → Prop} {ts : List Lexeme}

theorem rowStar_passes (hP : ∀ rest, P rest → Closing rest) (root : Expr) (chain : List Link) :
    Passes (rowStar root chain) level P (accessed root chain) := by
  intro rest hrest
  cases hP rest hrest <;> rfl

/-- An operand, and the steps behind it, each told without what stands behind them. -/
theorem primary_of_operand (front ts : List Lexeme) (hP : ∀ rest, P rest → Closing rest)
    (hroot : ∃ r : Except SyntaxError Expr, ∀ n rest, P rest →
      operand (n + 1) level (front ++ (ts ++ rest)) = r.map (·, ts ++ rest))
    (hchain : ∃ r : Except SyntaxError (List (List Link)), ∀ n, ts.length < n → ∀ rest, P rest →
      manyUpTo links n level (ts ++ rest) = r.map (·, rest)) :
    ∃ r : Except SyntaxError Expr, ∀ n rest, P rest →
      primary (n + 1) level (front ++ (ts ++ rest)) = r.map (·, rest) := by
  obtain ⟨root, hroot⟩ := hroot
  obtain ⟨chain, hchain⟩ := hchain
  cases root with
  | error cause =>
    refine ⟨.error cause, fun n rest hrest => ?_⟩
    rw [primary, bind_of_error (hroot n rest hrest)]
    rfl
  | ok root =>
    have hmany : ∀ rest, P rest → many links level (ts ++ rest) = chain.map (·, rest) :=
      fun rest hrest => hchain _ (by rw [List.length_append]; omega) rest hrest
    cases chain with
    | error cause =>
      refine ⟨.error cause, fun n rest hrest => ?_⟩
      rw [primary, bind_of_ok (hroot n rest hrest), bind_of_error (hmany rest hrest)]
      rfl
    | ok chain =>
      refine ⟨.ok (accessed root chain.flatten), fun n rest hrest => ?_⟩
      rw [primary, bind_of_ok (hroot n rest hrest), bind_of_ok (hmany rest hrest),
        bind_of_ok (rowStar_passes hP _ _ rest hrest)]
      exact collated_passes (fun _ h => (hP _ h).quiet) _ rest hrest

/-- A name in front of an equals sign is read as a whole, or refused, whatever the equation. -/
theorem primary_settles (k : Nat) (hinner : ∀ text quote key spaced ts, Parts ts →
      Settles (exprAbove 200) (Level.ofDepth .postgres k) (⟨.word text quote key, spaced⟩ :: ts)
        AtEquals)
    (h : Parts ts) (text key : String) (quote : Option Char) (spaced : Bool) :
    ∃ r : Except SyntaxError Expr, ∀ n rest, AtEquals rest →
      primary (n + 1) (Level.ofDepth .postgres k) (⟨.word text quote key, spaced⟩ :: (ts ++ rest))
        = r.map (·, rest) := by
  have hlevel := dialect_ofDepth .postgres k
  have hclosing : ∀ rest, AtEquals rest → Closing rest := fun _ h => h.closing
  have hmark : ∀ tail, (∃ rest, AtEquals rest ∧ tail = ts ++ rest) → Mark tail := by
    rintro _ ⟨rest, hrest, rfl⟩
    exact h.mark hrest
  obtain ⟨cause, hcause⟩ := exprAbove_fails k
  refine primary_of_operand [⟨.word text quote key, spaced⟩] ts hclosing ?_
    (links_settle hlevel hclosing hinner h)
  exact operand_settles hlevel h text key quote spaced hclosing fun _ =>
    ⟨fun n tail htail => operand_fails hlevel n tail (hmark tail htail),
      cause, fun strength tail htail => hcause strength tail (hmark tail htail)⟩

theorem strengthOf_equals {inColumn : Bool} {rest : List Lexeme} (h : AtEquals rest) :
    strengthOf .postgres inColumn rest = 50 := by
  obtain ⟨spaced, tail, rfl⟩ := h
  rfl

/-- An operand at the front and what climbs from it, each told without what stands behind. -/
theorem exprAbove_settles {k strength : Nat} {us : List Lexeme} {Q : List Lexeme → Prop}
    (hus : ∀ rest, Q rest → P (us ++ rest))
    (hprimary : ∃ r : Except SyntaxError Expr, ∀ n rest, P rest →
      primary (n + 1) (Level.ofDepth .postgres k) (ts ++ rest) = r.map (·, rest))
    (hclimb : ∀ left, ∃ r : Except SyntaxError Expr, ∀ n, us.length < n → ∀ rest, Q rest →
      climb strength n left (Level.ofDepth .postgres k) (us ++ rest) = r.map (·, rest)) :
    Settles (exprAbove strength) (Level.ofDepth .postgres (k + 1)) (ts ++ us) Q := by
  obtain ⟨r, hr⟩ := hprimary
  cases r with
  | error cause =>
    refine ⟨.error cause, fun rest hrest => ?_⟩
    rw [exprAbove_ofDepth, expression_eq, List.append_assoc]
    exact bind_of_error (hr _ _ (hus rest hrest)) _
  | ok e =>
    obtain ⟨r', hr'⟩ := hclimb e
    refine ⟨r', fun rest hrest => ?_⟩
    rw [exprAbove_ofDepth, expression_eq, List.append_assoc,
      bind_of_ok (hr _ _ (hus rest hrest))]
    exact hr' _ (by simp only [List.length_append]; omega) rest hrest

/-- An operand that nothing climbs from is the whole of the expression. -/
theorem exprAbove_alone {k strength : Nat}
    (hended : ∀ inColumn rest, P rest → strengthOf .postgres inColumn rest ≤ strength)
    (hprimary : ∃ r : Except SyntaxError Expr, ∀ n rest, P rest →
      primary (n + 1) (Level.ofDepth .postgres k) (ts ++ rest) = r.map (·, rest)) :
    Settles (exprAbove strength) (Level.ofDepth .postgres (k + 1)) ts P := by
  have hstrength : ∀ rest, P rest → strengthOf (Level.ofDepth .postgres k).dialect
      (Level.ofDepth .postgres k).inColumn rest ≤ strength := by
    rw [dialect_ofDepth]
    exact hended _
  have hsettles : Settles (exprAbove strength) (Level.ofDepth .postgres (k + 1)) (ts ++ []) P :=
    exprAbove_settles (fun _ h => h) hprimary (climb_nothing hstrength)
  rwa [List.append_nil] at hsettles

theorem name_settles (k : Nat) (h : Parts ts) (text key : String) (quote : Option Char)
    (spaced : Bool) :
    Settles (exprAbove 200) (Level.ofDepth .postgres k) (⟨.word text quote key, spaced⟩ :: ts)
      AtEquals := by
  induction k generalizing text key quote spaced ts with
  | zero => exact ⟨.error .tooDeep, fun _ _ => rfl⟩
  | succ k ih =>
    have hended : ∀ inColumn rest, AtEquals rest → strengthOf .postgres inColumn rest ≤ 200 := by
      intro inColumn rest hrest
      rw [strengthOf_equals hrest]
      decide
    exact exprAbove_alone hended (primary_settles k (fun text quote key spaced ts h =>
      ih h text key quote spaced) h text key quote spaced)

end Depth

/-! ### Constants -/

/-- The operators that may stand in front of an operand. -/
def signs : List String := ["-", "+", "~"] ++ serverPrefixes.map Prod.fst

/-- An operand of one piece: a literal, a word, or a parameter. -/
inductive Atom : List Lexeme → Prop where
  | literal {v : Value} {spaced : Bool} : Atom [⟨.literal v, spaced⟩]
  | word {text key : String} {quote : Option Char} {spaced : Bool}
      (hkey : key ∉ ["CASE", "NOT", "INTERVAL", "ANY", "ALL", "SOME"]) :
      Atom [⟨.word text quote key, spaced⟩]
  | parameter {text key : String} {quote : Option Char} {spaced : Bool} :
      Atom [⟨.symbol ":", spaced⟩, ⟨.word text quote key, false⟩]

/-- Casts behind an operand, each to a type of one word. -/
inductive Casts : List Lexeme → Prop where
  | nil : Casts []
  | cons {spaced spaced' : Bool} {text key : String} {quote : Option Char} {ts : List Lexeme}
      (h : Casts ts) : Casts (⟨.symbol "::", spaced⟩ :: ⟨.word text quote key, spaced'⟩ :: ts)

/-- A constant: an operand of one piece, with casts behind it and operators in front of it. -/
inductive Constant : List Lexeme → Prop where
  | cast {ts us : List Lexeme} (h : Atom ts) (hcasts : Casts us) : Constant (ts ++ us)
  | signed {sign : String} {spaced : Bool} {ts : List Lexeme} (hsign : sign ∈ signs)
      (h : Constant ts) : Constant (⟨.symbol sign, spaced⟩ :: ts)

/-- What may stand behind a condition: nothing, or another one behind AND. -/
inductive Ends : List Lexeme → Prop where
  | done : Ends []
  | and {text : String} {spaced : Bool} {rest : List Lexeme} :
      Ends (⟨.word text none "AND", spaced⟩ :: rest)

theorem Ends.closing {rest : List Lexeme} (h : Ends rest) : Closing rest := by
  cases h with
  | done => exact .done
  | and => exact .and

/-- What stands behind the first piece of a constant. -/
theorem Casts.closing {us rest : List Lexeme} (h : Casts us) (hrest : Ends rest) :
    Closing (us ++ rest) := by
  cases h with
  | nil => exact hrest.closing
  | cons => exact .cast

theorem strengthOf_ends {inColumn : Bool} {rest : List Lexeme} (h : Ends rest) :
    strengthOf .postgres inColumn rest ≤ 20 := by
  cases h with
  | done => exact Nat.zero_le 20
  | and => exact Nat.le_refl 20

section Operands

variable {level : Level} (hlevel : level.dialect = .postgres)
include hlevel

theorem operand_literal (v : Value) (spaced : Bool) : ∃ r : Except SyntaxError Expr,
    ∀ n rest, Closing rest →
      operand (n + 1) level (⟨.literal v, spaced⟩ :: rest) = r.map (·, rest) := by
  refine ⟨.ok (.value v), fun n rest hrest => ?_⟩
  have hvalue : value level (⟨.literal v, spaced⟩ :: rest) = .ok (v, rest) := by
    obtain ⟨d, inColumn, statement, query, expr⟩ := level
    cases hlevel
    cases v <;> rfl
  have hcollated : Passes (collated (.value v)) level Closing (.value v) :=
    collated_passes (fun _ h => h.quiet) _
  change (value >>= fun v => collated (.value v) : Grammar Expr) level _ = _
  rw [bind_of_ok hvalue]
  exact hcollated rest hrest

theorem operand_parameter (text key : String) (quote : Option Char) (spaced : Bool) :
    ∃ r : Except SyntaxError Expr, ∀ n rest, Closing rest →
      operand (n + 1) level (⟨.symbol ":", spaced⟩ :: ⟨.word text quote key, false⟩ :: rest)
        = r.map (·, rest) := by
  refine ⟨.ok (.value (.placeholder (":" ++ text))), fun n rest hrest => ?_⟩
  have hcollated : Passes (collated (.value (.placeholder (":" ++ text)))) level Closing
      (.value (.placeholder (":" ++ text))) := collated_passes (fun _ h => h.quiet) _
  have hsymbol : symbolOperand ":" level
      (⟨.symbol ":", spaced⟩ :: ⟨.word text quote key, false⟩ :: rest)
        = .ok (.value (.placeholder (":" ++ text)), rest) := by
    obtain ⟨d, inColumn, statement, query, expr⟩ := level
    cases hlevel
    rfl
  change (symbolOperand ":" >>= collated : Grammar Expr) level _ = _
  rw [bind_of_ok hsymbol]
  exact hcollated rest hrest

/-- An operand of one piece is read whatever stands behind it. -/
theorem operand_atom {ts : List Lexeme} (h : Atom ts) :
    ∃ r : Except SyntaxError Expr, ∀ n rest, Closing rest →
      operand (n + 1) level (ts ++ rest) = r.map (·, rest) := by
  cases h with
  | literal => exact operand_literal hlevel _ _
  | word hkey =>
    simp only [List.mem_cons, List.not_mem_nil, not_or, or_false] at hkey
    exact operand_settles hlevel .nil _ _ _ _ (fun _ h => h) fun hdeep => by grind
  | parameter => exact operand_parameter hlevel _ _ _ _

/-- An operator in front of an operand, with what it is printed as and how it binds. -/
theorem symbolOperand_signed {sign : String} (hsign : sign ∈ signs) (spaced : Bool) :
    ∃ op strength, 20 ≤ strength ∧ strength < 140 ∧ ∀ tokens,
      symbolOperand sign level (⟨.symbol sign, spaced⟩ :: tokens)
        = (exprAbove strength >>= fun e => pure (.unary op e) : Grammar Expr) level tokens := by
  obtain ⟨d, inColumn, statement, query, expr⟩ := level
  cases hlevel
  simp only [signs, serverPrefixes, List.map_cons, List.map_nil, List.cons_append, List.nil_append,
    List.mem_cons, List.not_mem_nil, or_false] at hsign
  rcases hsign with rfl | rfl | hserver
  · exact ⟨_, 90, by decide, by decide, fun _ => rfl⟩
  · exact ⟨_, 90, by decide, by decide, fun _ => rfl⟩
  · rcases hserver with rfl | rfl | rfl | rfl | rfl | rfl | rfl | rfl | rfl | rfl <;>
      exact ⟨_, 80, by decide, by decide, fun _ => rfl⟩

theorem operand_signed {sign : String} (hsign : sign ∈ signs) (spaced : Bool) {ts : List Lexeme}
    (h : ∀ strength ≥ 20, strength < 140 → Settles (exprAbove strength) level ts Ends) :
    ∃ r : Except SyntaxError Expr, ∀ n rest, Ends rest →
      operand (n + 1) level (⟨.symbol sign, spaced⟩ :: (ts ++ rest)) = r.map (·, rest) := by
  obtain ⟨op, strength, hlow, hhigh, hsymbol⟩ := symbolOperand_signed hlevel hsign spaced
  obtain ⟨r, hr⟩ := (h strength hlow hhigh).bind fun e =>
    (collated_passes (fun _ h => h.closing.quiet) (.unary op e)).settles
  refine ⟨r, fun n rest hrest => ?_⟩
  rw [← hr rest hrest]
  change (symbolOperand sign >>= collated : Grammar Expr) level _ = _
  rw [bind_apply, hsymbol, ← bind_apply]
  simp only [bind_assoc, pure_bind]

/-- Casts bind tighter than the operators around a constant, so all of them are taken. -/
theorem climb_casts {us : List Lexeme} (h : Casts us) {strength : Nat} (hlow : 20 ≤ strength)
    (hhigh : strength < 140) (left : Expr) :
    ∃ r : Except SyntaxError Expr, ∀ n, us.length < n → ∀ rest, Ends rest →
      climb strength n left level (us ++ rest) = r.map (·, rest) := by
  induction h generalizing left with
  | nil =>
    refine climb_nothing (fun rest hrest => ?_) left
    rw [hlevel]
    exact Nat.le_trans (strengthOf_ends hrest) hlow
  | cons h ih =>
    rename_i spaced spaced' text key quote us
    obtain ⟨type, htype⟩ := typeText_settles hlevel text key quote spaced'
    have hturn : ∀ n rest, climb strength (n + 1) left level
        (⟨.symbol "::", spaced⟩ :: ⟨.word text quote key, spaced'⟩ :: (us ++ rest))
        = (typeText >>= fun type => climb strength n (.phrase [.expr left, .text ("::" ++ type)]) :
            Grammar Expr) level (⟨.word text quote key, spaced'⟩ :: (us ++ rest)) := by
      intro n rest
      have hstrength : strengthOf level.dialect level.inColumn (⟨.symbol "::", spaced⟩ ::
          ⟨.word text quote key, spaced'⟩ :: (us ++ rest)) = 140 := by
        rw [hlevel]
        rfl
      rw [climb, bind_of_ok (nextStrength_apply _ _), hstrength, if_neg (Nat.not_le_of_lt hhigh)]
      change ((typeText >>= fun type => pure (.phrase [.expr left, .text ("::" ++ type)]))
        >>= climb strength n : Grammar Expr) level _ = _
      simp only [bind_assoc, pure_bind]
      rfl
    cases type with
    | error cause =>
      refine ⟨.error cause, fun n hn rest hrest => ?_⟩
      obtain ⟨n, rfl⟩ : ∃ m, n = m + 1 := ⟨n - 1, by omega⟩
      exact (hturn n rest).trans (bind_of_error (htype _ (h.closing hrest)) _)
    | ok type =>
      obtain ⟨r, hr⟩ := ih (.phrase [.expr left, .text ("::" ++ type)])
      refine ⟨r, fun n hn rest hrest => ?_⟩
      simp only [List.length_cons] at hn
      obtain ⟨n, rfl⟩ : ∃ m, n = m + 1 := ⟨n - 1, by omega⟩
      exact (hturn n rest).trans
        ((bind_of_ok (htype _ (h.closing hrest)) _).trans (hr n (by omega) rest hrest))

end Operands

/-- A constant is read as a whole, or refused, whatever conditions follow. -/
theorem constant_settles {ts : List Lexeme} (h : Constant ts) (k : Nat) {strength : Nat}
    (hlow : 20 ≤ strength) (hhigh : strength < 140) :
    Settles (exprAbove strength) (Level.ofDepth .postgres k) ts Ends := by
  induction k generalizing ts strength with
  | zero => exact ⟨.error .tooDeep, fun _ _ => rfl⟩
  | succ k ih =>
    have hlevel := dialect_ofDepth .postgres k
    cases h with
    | cast hatom hcasts =>
      have hclosing : ∀ rest, Closing rest → Closing rest := fun _ h => h
      exact exprAbove_settles (fun _ => hcasts.closing)
        (primary_of_operand _ [] hclosing (operand_atom hlevel hatom) (links_nothing hclosing))
        (climb_casts hlevel hcasts hlow hhigh)
    | @signed sign spaced ts hsign h =>
      have hclosing : ∀ rest, Ends rest → Closing rest := fun _ h => h.closing
      have hroot := operand_signed hlevel hsign spaced fun _ hlow hhigh => ih h hlow hhigh
      exact exprAbove_alone (fun _ _ hrest => Nat.le_trans (strengthOf_ends hrest) hlow)
        (primary_of_operand (⟨.symbol sign, spaced⟩ :: ts) [] hclosing hroot
          (links_nothing hclosing))

/-! ### The right side of an operator -/

/-- A keyword that stands for a set of operands is next. -/
def quantified (tokens : List Lexeme) : Bool :=
  isOneOf ["ANY", "ALL", "SOME"] ((tokens[0]?).map Lexeme.token)

theorem oneOf_none_iff {level : Level} {tokens rest : List Lexeme} :
    oneOf ["ANY", "ALL", "SOME"] level tokens = .ok (none, rest) ↔
      quantified tokens = false ∧ tokens = rest := by
  unfold quantified oneOf
  rw [bind_of_ok (peek_apply level tokens)]
  generalize (tokens[0]?).map Lexeme.token = next
  have hnone : ∀ rest, (pure none : Grammar (Option String)) level tokens = .ok (none, rest) ↔
      tokens = rest := by
    intro rest
    change Except.ok (none, tokens) = _ ↔ _
    simp
  split
  · rename_i key
    rw [isOneOf]
    cases ["ANY", "ALL", "SOME"].contains key with
    | false => simpa using hnone rest
    | true =>
      refine iff_of_false (fun h => ?_) fun h => Bool.noConfusion h.1
      cases h
  · rename_i hword
    have hother : isOneOf ["ANY", "ALL", "SOME"] next = false := by
      unfold isOneOf
      split
      · exact absurd rfl (hword _ _)
      · rfl
    simpa [hother] using hnone rest

/-- To the right of an operator stands an operand, unless a set of them does. -/
theorem rightSide_unquantified {tokens : List Lexeme} (h : quantified tokens = false)
    (left : Expr) (op : BinaryOp) (compares : Bool) (strength : Nat) (level : Level) :
    rightSide left op compares strength level tokens
      = (exprAbove strength >>= fun right => pure (.binary left op right) : Grammar Expr) level
        tokens := by
  rw [rightSide, bind_of_ok (oneOf_none_iff.mpr ⟨h, rfl⟩)]

theorem Atom.unquantified {ts : List Lexeme} (h : Atom ts) (rest : List Lexeme) :
    quantified (ts ++ rest) = false := by
  cases h with
  | word hkey =>
    rename_i text key quote spaced
    cases quote with
    | some q => rfl
    | none =>
      change ["ANY", "ALL", "SOME"].contains key = false
      simp only [List.mem_cons, List.not_mem_nil, not_or, or_false] at hkey
      simp [hkey]
  | _ => rfl

/-! ### Equations -/

/-- An operand that is read as a whole, or refused, whatever conditions follow. -/
structure Closed (ts : List Lexeme) : Prop where
  unquantified : ∀ rest, quantified (ts ++ rest) = false
  settles : ∀ k, Settles (exprAbove 50) (Level.ofDepth .postgres k) ts Ends

theorem Constant.closed {ts : List Lexeme} (h : Constant ts) : Closed ts where
  unquantified rest := by
    cases h with
    | cast hatom =>
      rw [List.append_assoc]
      exact hatom.unquantified _
    | signed => rfl
  settles k := constant_settles h k (by decide) (by decide)

/-- A dotted name, an equals sign and a closed operand. -/
inductive Equation : List Lexeme → Prop where
  | mk {text key : String} {quote : Option Char} {spaced spaced' : Bool} {ts us : List Lexeme}
      (hname : Parts ts) (hclosed : Closed us) :
      Equation (⟨.word text quote key, spaced⟩ :: (ts ++ ⟨.symbol "=", spaced'⟩ :: us))

/-- An equals sign and the operand behind it. -/
theorem infixed_equals {us : List Lexeme} (h : Closed us) (left : Expr) (level : Level)
    (spaced : Bool) (rest : List Lexeme) :
    infixed left 50 level (⟨.symbol "=", spaced⟩ :: (us ++ rest))
      = (exprAbove 50 >>= fun right => pure (.binary left .eq right) : Grammar Expr) level
        (us ++ rest) := by
  have hrun : infixed left 50 level (⟨.symbol "=", spaced⟩ :: (us ++ rest))
      = rightSide left .eq true 50 level (us ++ rest) := rfl
  rw [hrun, rightSide_unquantified (h.unquantified rest)]

/-- An equation is read as one, or refused, and what follows goes on from there. -/
theorem equation_settles {ts : List Lexeme} (h : Equation ts) (k : Nat) :
    ∃ r : Except SyntaxError Expr, (∀ e, r = .ok e → e.topOp? = some .eq) ∧
      ∀ strength < 50, ∀ rest, Ends rest →
        expression strength (Level.ofDepth .postgres k) (ts ++ rest)
          = r >>= fun e =>
              climb strength (ts ++ rest).length e (Level.ofDepth .postgres k) rest := by
  obtain ⟨hname, hclosed⟩ := h
  rename_i text key quote spaced spaced' ts us
  obtain ⟨left, hleft⟩ := primary_settles k
    (fun text quote key spaced ts h => name_settles k h text key quote spaced) hname text key quote
    spaced
  obtain ⟨right, hright⟩ := hclosed.settles k
  have htokens : ∀ rest, ⟨.word text quote key, spaced⟩ :: (ts ++ ⟨.symbol "=", spaced'⟩ :: us)
      ++ rest = ⟨.word text quote key, spaced⟩ :: (ts ++ ⟨.symbol "=", spaced'⟩ :: (us ++ rest)) :=
    fun rest => by simp
  cases left with
  | error cause =>
    refine ⟨.error cause, ?_, fun strength _ rest hrest => ?_⟩
    · intro e he
      cases he
    · rw [expression_eq, htokens]
      exact bind_of_error (hleft _ _ ⟨_, _, rfl⟩) _
  | ok left =>
    -- behind the name the equals sign is the next operator
    have hnext : ∀ strength < 50, ∀ rest, Ends rest → expression strength
        (Level.ofDepth .postgres k) (⟨.word text quote key, spaced⟩ ::
          (ts ++ ⟨.symbol "=", spaced'⟩ :: us) ++ rest)
        = ((exprAbove 50 >>= fun right => pure (.binary left .eq right)) >>= climb strength
            (⟨.word text quote key, spaced⟩ :: (ts ++ ⟨.symbol "=", spaced'⟩ :: us) ++ rest).length
            : Grammar Expr) (Level.ofDepth .postgres k) (us ++ rest) := by
      intro strength hs rest hrest
      have hstrength : strengthOf (Level.ofDepth .postgres k).dialect
          (Level.ofDepth .postgres k).inColumn (⟨.symbol "=", spaced'⟩ :: (us ++ rest)) = 50 := by
        rw [dialect_ofDepth]
        exact strengthOf_equals ⟨_, _, rfl⟩
      rw [expression_eq]
      generalize List.length _ = n
      rw [htokens, bind_of_ok (hleft _ _ ⟨_, _, rfl⟩), climb,
        bind_of_ok (nextStrength_apply _ _), hstrength, if_neg (Nat.not_le_of_lt hs), bind_apply,
        infixed_equals hclosed]
      rfl
    cases right with
    | error cause =>
      refine ⟨.error cause, ?_, fun strength hs rest hrest => ?_⟩
      · intro e he
        cases he
      · rw [hnext strength hs rest hrest]
        exact bind_of_error (bind_of_error (hright rest hrest) _) _
    | ok right =>
      refine ⟨.ok (.binary left .eq right), ?_, fun strength hs rest hrest => ?_⟩
      · intro e he
        cases he
        rfl
      · rw [hnext strength hs rest hrest, bind_of_ok (bind_of_ok (hright rest hrest) _)]
        rfl

end RowScope.Sql.Grammar
