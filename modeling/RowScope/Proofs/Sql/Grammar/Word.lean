/-
Words as operands.

A word may be a keyword, a type with a text behind it, or a name, and which of them it is
depends on what follows.  In front of a period, an equals sign, a cast, AND or the end it is
always decided in the same way: no text follows, so it is no type, and no construct is
complete, so it is a name unless the construct consists of the keyword alone.

The constructs that ask for an expression right behind their keyword are the exception.  They
fail in front of a mark between names, since no expression starts with one (`Mark`); what
they would read behind AND is not looked at here.
-/
import RowScope.Proofs.Sql.Grammar.Settles

namespace RowScope.Sql.Grammar

section Words

variable {level : Level} {P : List Lexeme → Prop} (hP : ∀ rest, P rest → Quiet rest)
include hP

/-! ### Constructs -/

theorem named_passes (word : Ident) : Passes (named word) level P (.ident word) := by
  intro rest hrest
  cases hP rest hrest <;> rfl

omit hP in
theorem intervalExpr_fails (hlevel : level.dialect = .postgres) {operand : Grammar Expr}
    {cause : SyntaxError} (h : Fails operand level P cause) :
    Fails (intervalExpr operand) level P cause := by
  have hunit : Passes (has Dialect.intervalsNeedUnit) level P false := fun rest _ => by
    change Except.ok (level.dialect.intervalsNeedUnit, rest) = _
    rw [hlevel]
    rfl
  exact hunit.fails h.bind

omit hP in
/-- All that an interval needs to know of its value is how it is read at that place. -/
theorem intervalExpr_congr {operand operand' : Grammar Expr} {tokens : List Lexeme}
    (h : operand level tokens = operand' level tokens) :
    intervalExpr operand level tokens = intervalExpr operand' level tokens := by
  have hrun : ∀ operand : Grammar Expr, intervalExpr operand level tokens
      = (if level.dialect.intervalsNeedUnit then expr else operand : Grammar Expr) level tokens
        >>= fun p => (intervalUnits >>= fun units =>
          pure (.phrase [.text "INTERVAL ", .expr p.1, .text units]) : Grammar Expr) level p.2 := by
    intro operand
    change (if level.dialect.intervalsNeedUnit then _ else _ : Grammar Expr) level tokens = _
    split <;> rfl
  rw [hrun, hrun]
  split <;> simp only [h]

omit hP in
theorem construct_congr {operand operand' : Grammar Expr} {tokens : List Lexeme} (word : Ident)
    (key : String) (h : key = "INTERVAL" → operand level tokens = operand' level tokens) :
    construct operand word key level tokens = construct operand' word key level tokens := by
  by_cases hkey : key = "INTERVAL"
  · subst hkey
    have hrun : ∀ operand : Grammar Expr, construct operand word "INTERVAL" level tokens
        = (intervalExpr operand >>= fun e => pure (some e) : Grammar (Option Expr)) level tokens :=
      fun _ => rfl
    rw [hrun, hrun, bind_apply, bind_apply, intervalExpr_congr (h rfl)]
  · have hsame : construct operand word key = construct operand' word key := by
      unfold construct
      refine congrArg _ (funext fun level => ?_)
      dsimp only
      split
      case h_27 => exact absurd rfl hkey
      all_goals rfl
    rw [hsame]

theorem construct_settles (hlevel : level.dialect = .postgres) {operand : Grammar Expr}
    (word : Ident) (key : String) (hdeep : key = "CASE" ∨ key = "NOT" ∨ key = "INTERVAL" →
      Fails operand level P .unexpected ∧
        ∃ cause, ∀ strength, Fails (exprAbove strength) level P cause) :
    Settles (construct operand word key) level [] P := by
  have hhas : ∀ f, Passes (has f) level P (f level.dialect) := fun f _ _ => rfl
  have hread : Passes (read : Grammar Level) level P level := fun _ _ => rfl
  have hfail : ∀ {α : Type}, Fails (fail : Grammar α) level P .unexpected := fun _ _ => rfl
  have hsome : ∀ {g : Grammar Expr} {cause : SyntaxError}, Fails g level P cause →
      Settles (g >>= fun e => pure (some e)) level [] P := fun h => h.bind.settles
  unfold construct
  refine .after hread ?_
  split
  iterate 2 exact .ite (.pure _) (.pure _)
  · exact .pure _
  iterate 4 exact .ite (.pure _) (.pure _)
  iterate 5 exact .after (symbol_passes hP (by decide)) (.pure _)
  · obtain ⟨-, cause, hexpr⟩ := hdeep (.inl rfl)
    exact hsome ((keyword_passes hP (by decide)).fails (hexpr 0).bind)
  · refine (Settles.after hread (.bind (.ite (.pure _) hfail.settles) fun _ => ?_)).bind
      fun _ => .pure _
    exact (parens_fails hP).settles
  iterate 3 exact hsome (parens_fails hP)
  · exact hsome (parens_fails hP)
  · exact hsome (parens_fails hP)
  iterate 2 exact hsome (parens_fails hP)
  · exact .after (atSymbol_passes hP (by decide)) (.pure _)
  iterate 2 exact hsome (parens_fails hP)
  · exact hsome (parens_fails hP)
  · exact hsome (parens_fails hP)
  · obtain ⟨hoperand, -⟩ := hdeep (.inr (.inr rfl))
    exact hsome (intervalExpr_fails hlevel hoperand)
  · refine .after (symbol_passes hP (by decide)) ?_
    exact .after (atSymbol_passes hP (by decide)) (.pure _)
  · obtain ⟨-, cause, hexpr⟩ := hdeep (.inr (.inl rfl))
    exact hsome ((keyword_passes hP (by decide)).fails (hread.fails (hexpr _)).bind)
  · exact .pure _

omit hP in
theorem wordOperand_congr {operand operand' : Grammar Expr} {t : Lexeme} {tokens : List Lexeme}
    (word : Ident) (key : String)
    (h : key = "INTERVAL" → operand level tokens = operand' level tokens) :
    wordOperand operand word key level (t :: tokens)
      = wordOperand operand' word key level (t :: tokens) := by
  have hconstruct : (skip *> construct operand word key) level (t :: tokens)
      = (skip *> construct operand' word key) level (t :: tokens) := construct_congr word key h
  unfold wordOperand
  rw [hconstruct]

theorem wordOperand_settles (hlevel : level.dialect = .postgres) {operand : Grammar Expr}
    (word : Ident) (key : String) (t : Lexeme)
    (hdeep : key = "CASE" ∨ key = "NOT" ∨ key = "INTERVAL" →
      Fails operand level P .unexpected ∧
        ∃ cause, ∀ strength, Fails (exprAbove strength) level P cause) :
    Settles (wordOperand operand word key) level [t] P := by
  obtain ⟨r, hr⟩ := construct_settles hP hlevel word key hdeep
  have hconstruct : ∀ rest, P rest → (skip *> construct operand word key) level (t :: rest)
      = r.map (·, rest) := hr
  have hnamed : ∀ rest, P rest → (skip *> named word) level (t :: rest) = .ok (.ident word, rest) :=
    fun rest hrest => named_passes hP word rest hrest
  cases r with
  | ok found =>
    cases found with
    | some e =>
      refine ⟨.ok e, fun rest hrest => ?_⟩
      unfold wordOperand
      rw [List.singleton_append, hconstruct rest hrest]
      rfl
    | none =>
      refine ⟨.ok (.ident word), fun rest hrest => ?_⟩
      unfold wordOperand
      rw [List.singleton_append, hconstruct rest hrest]
      exact hnamed rest hrest
  | error cause =>
    refine ⟨if (neverName level.dialect).contains key then .error cause else .ok (.ident word),
      fun rest hrest => ?_⟩
    unfold wordOperand
    rw [List.singleton_append, hconstruct rest hrest, hnamed rest hrest]
    dsimp only [Except.map]
    split <;> rfl

end Words

/-! ### Dotted names -/

/-- What may stand behind a whole name: nothing, AND, an equals sign or a cast. -/
inductive Closing : List Lexeme → Prop where
  | done : Closing []
  | and {text : String} {spaced : Bool} {rest : List Lexeme} :
      Closing (⟨.word text none "AND", spaced⟩ :: rest)
  | equals {spaced : Bool} {rest : List Lexeme} : Closing (⟨.symbol "=", spaced⟩ :: rest)
  | cast {spaced : Bool} {rest : List Lexeme} : Closing (⟨.symbol "::", spaced⟩ :: rest)

/-- The further parts of a dotted name, each behind its period. -/
inductive Parts : List Lexeme → Prop where
  | nil : Parts []
  | cons {spaced spaced' : Bool} {text key : String} {quote : Option Char} {ts : List Lexeme}
      (h : Parts ts) : Parts (⟨.symbol ".", spaced⟩ :: ⟨.word text quote key, spaced'⟩ :: ts)

theorem Closing.quiet {rest : List Lexeme} (h : Closing rest) : Quiet rest := by
  cases h with
  | done => exact .done
  | and => exact .and
  | equals => exact .equals
  | cast => exact .cast

/-- Behind the first word of a name stands a period, or what stands behind the whole name. -/
theorem Parts.quiet {ts rest : List Lexeme} (h : Parts ts) (hrest : Closing rest) :
    Quiet (ts ++ rest) := by
  cases h with
  | nil => exact hrest.quiet
  | cons => exact .period

section Names

variable {level : Level} (hlevel : level.dialect = .postgres) {ts : List Lexeme}
include hlevel

theorem namePart_apply (before : List NamePart) (text key : String) (quote : Option Char)
    (spaced : Bool) (rest : List Lexeme) :
    namePart before level (⟨.word text quote key, spaced⟩ :: rest)
      = .ok (.ident ⟨text, quote⟩, rest) := by
  have hcomputes : computesName level.dialect ⟨text, quote⟩ = false := by rw [hlevel]; rfl
  have hident : ident level (⟨.word text quote key, spaced⟩ :: rest) = .ok (⟨text, quote⟩, rest) :=
    rfl
  unfold namePart
  rw [bind_apply, hident]
  change (if computesName level.dialect ⟨text, quote⟩ && _ then _ else _ : Grammar NamePart)
    level rest = _
  rw [hcomputes]
  rfl

/-- One part of a name, and the rest of it if a period follows. -/
theorem nameParts_succ (n : Nat) (before : List NamePart) (text key : String)
    (quote : Option Char) (spaced : Bool) (rest : List Lexeme) :
    nameParts (n + 1) before level (⟨.word text quote key, spaced⟩ :: rest)
      = (do if ← symbol "." then nameParts n (before ++ [.ident ⟨text, quote⟩])
            else return before ++ [.ident ⟨text, quote⟩] : Grammar (List NamePart)) level rest := by
  have hdoubled : level.dialect.doubleDotNames = false := by rw [hlevel]; rfl
  have hpart := namePart_apply hlevel before text key quote spaced rest
  change (if before.length == 1 && level.dialect.doubleDotNames && _ then _ else _ :
    Grammar (List NamePart)) level _ = _
  rw [hdoubled, Bool.and_false, Bool.false_and, if_neg Bool.false_ne_true, bind_apply, hpart]
  rfl

theorem nameParts_settles (h : Parts ts) (text key : String) (quote : Option Char)
    (spaced : Bool) (before : List NamePart) : ∃ parts, ∀ n, ts.length < n → ∀ rest, Closing rest →
      nameParts n before level (⟨.word text quote key, spaced⟩ :: (ts ++ rest))
        = .ok (parts, rest) := by
  induction h generalizing text key quote spaced before with
  | nil =>
    refine ⟨before ++ [.ident ⟨text, quote⟩], fun n hn rest hrest => ?_⟩
    cases n with
    | zero => cases hn
    | succ n =>
      rw [nameParts_succ hlevel]
      cases hrest <;> rfl
  | cons h ih =>
    rename_i spaced₁ spaced₂ text' key' quote' ts
    obtain ⟨parts, hparts⟩ := ih text' key' quote' spaced₂ (before ++ [.ident ⟨text, quote⟩])
    refine ⟨parts, fun n hn rest hrest => ?_⟩
    cases n with
    | zero => cases hn
    | succ n =>
      simp only [List.length_cons] at hn
      rw [nameParts_succ hlevel]
      exact hparts n (by omega) rest hrest

/-- A dotted name is read as a whole. -/
theorem nameText_apply (h : Parts ts) (text key : String) (quote : Option Char) (spaced : Bool) :
    ∃ n, ∀ rest, Closing rest →
      nameText level (⟨.word text quote key, spaced⟩ :: (ts ++ rest)) = .ok (n, rest) := by
  obtain ⟨parts, hparts⟩ := nameParts_settles hlevel h text key quote spaced []
  refine ⟨NamePart.renderName parts, fun rest hrest => ?_⟩
  have hname : name level (⟨.word text quote key, spaced⟩ :: (ts ++ rest)) = .ok (parts, rest) :=
    hparts _ (by simp only [List.length_append, List.length_cons]; omega) rest hrest
  change (name level _ >>= fun p => _) = _
  rw [hname]
  rfl

/-! ### Texts with a type in front -/

omit hlevel in
theorem arraySuffixes_pass {P : List Lexeme → Prop} (hP : ∀ rest, P rest → Quiet rest) :
    Passes (many arraySuffix) level P [] := by
  have hbracket : ∀ b, Passes (symbolIf b "[") level P false := by
    intro b
    cases b with
    | false => exact .pure false
    | true => exact symbol_passes hP (by decide)
  have hhas : Passes (has Dialect.bracketTypes) level P level.dialect.bracketTypes :=
    fun _ _ => rfl
  exact .many (hhas.bind ((hbracket _).bind (.pure none)))

omit hlevel in
/-- The type that starts with a word: a built-in one by its keyword, or one with a name. -/
theorem elementType_word (text : String) {key : String} (hkey : key ≠ "INTERVAL")
    (quote : Option Char) (spaced : Bool) (tokens : List Lexeme) :
    elementType level (⟨.word text quote key, spaced⟩ :: tokens)
      = (do
          let found ← attempt do
            skip
            match ← builtinType key with
            | some text => return text
            | none => fail
          match found with
          | some text => return .builtin text
          | none =>
            let others := ["CHARACTER", "CHAR", "BIT", "DOUBLE", "TIMESTAMP", "TIME", "ARRAY",
              "STRUCT"]
            require !(plainTypes ++ integerTypes ++ decimalTypes ++ sizedTypes ++ charTypes
              ++ others).contains key
            let n ← nameText
            return .custom (n ++ (← typeModifiers)) : Grammar TypeText) level
              (⟨.word text quote key, spaced⟩ :: tokens) := by
  change (if key == "INTERVAL" then _ else _ : Grammar TypeText) level _ = _
  rw [beq_false_of_ne hkey]
  rfl

/-- The type that a name may be: a built-in one by its first word, or one of that name. -/
theorem elementType_cases (h : Parts ts) (text : String) {key : String} (hkey : key ≠ "INTERVAL")
    (quote : Option Char) (spaced : Bool) :
    (∃ type, ∀ rest, Closing rest →
        elementType level (⟨.word text quote key, spaced⟩ :: (ts ++ rest))
          = .ok (.builtin type, ts ++ rest)) ∨
      (∃ type, ∀ rest, Closing rest →
        elementType level (⟨.word text quote key, spaced⟩ :: (ts ++ rest))
          = .ok (.custom type, rest)) ∨
      ∀ rest, Closing rest → elementType level (⟨.word text quote key, spaced⟩ :: (ts ++ rest))
        = .error .unexpected := by
  have hfinds : Finds (builtinType key) level Quiet := builtinType_finds (fun _ h => h) key
  obtain ⟨found, hfound⟩ := hfinds
  have hskip : ∀ rest, skip level (⟨.word text quote key, spaced⟩ :: (ts ++ rest))
      = .ok ((), ts ++ rest) := fun _ => rfl
  cases found with
  | some type =>
    refine .inl ⟨type, fun rest hrest => ?_⟩
    have hbehind := hfound _ (h.quiet hrest)
    rw [elementType_word text hkey,
      bind_of_ok (attempt_of_ok ((bind_of_ok (hskip rest) _).trans (bind_of_ok hbehind _)))]
    rfl
  | none =>
    obtain ⟨n, hname⟩ := nameText_apply hlevel h text key quote spaced
    have hmodifiers : ∀ rest, Closing rest → typeModifiers level rest = .ok ("", rest) :=
      fun rest hrest => by cases hrest <;> rfl
    have hnamed : ∀ rest, Closing rest →
        elementType level (⟨.word text quote key, spaced⟩ :: (ts ++ rest))
          = (do
              let others := ["CHARACTER", "CHAR", "BIT", "DOUBLE", "TIMESTAMP", "TIME", "ARRAY",
                "STRUCT"]
              require !(plainTypes ++ integerTypes ++ decimalTypes ++ sizedTypes ++ charTypes
                ++ others).contains key
              let n ← nameText
              return .custom (n ++ (← typeModifiers)) : Grammar TypeText) level
                (⟨.word text quote key, spaced⟩ :: (ts ++ rest)) := by
      intro rest hrest
      have hbehind := hfound _ (h.quiet hrest)
      rw [elementType_word text hkey, bind_of_ok (attempt_of_unexpected
        ((bind_of_ok (hskip rest) _).trans (bind_of_ok hbehind _)))]
    dsimp only at hnamed
    generalize (List.contains _ key) = reserved at hnamed
    cases reserved with
    | false =>
      refine .inr (.inl ⟨n ++ "", fun rest hrest => (hnamed rest hrest).trans ?_⟩)
      change (nameText >>= fun n => typeModifiers >>= fun m => pure (.custom (n ++ m)) :
        Grammar TypeText) level _ = _
      rw [bind_of_ok (hname rest hrest), bind_of_ok (hmodifiers rest hrest)]
      rfl
    | true => exact .inr (.inr fun rest hrest => hnamed rest hrest)

omit hlevel in
theorem dataType_of_element {tokens rest : List Lexeme} {type : TypeText}
    (h : elementType level tokens = .ok (type, rest)) (hrest : Quiet rest) :
    dataType level tokens = .ok (type, rest) := by
  unfold dataType
  rw [bind_of_ok h, bind_of_ok (arraySuffixes_pass (P := Quiet) (fun _ h => h) rest hrest)]
  rfl

/-- No name is a type with a text behind it. -/
theorem typedText_fails {operand : Grammar Expr} (h : Parts ts) (text key : String)
    (quote : Option Char) (spaced : Bool) {rest : List Lexeme} (hrest : Closing rest)
    (hinterval : key = "INTERVAL" → operand level (ts ++ rest) = .error .unexpected) :
    typedText operand level (⟨.word text quote key, spaced⟩ :: (ts ++ rest))
      = .error .unexpected := by
  have hbehind := h.quiet hrest
  have hvalue : value level (ts ++ rest) = .error .unexpected :=
    value_fails (P := Quiet) (fun _ h => h) _ hbehind
  have hbinary : has Dialect.binaryCasts level (ts ++ rest) = .ok (false, ts ++ rest) := by
    change Except.ok (level.dialect.binaryCasts, _) = _
    rw [hlevel]
    rfl
  unfold typedText
  by_cases hkey : key = "INTERVAL"
  · subst hkey
    have helement : elementType level (⟨.word text quote "INTERVAL", spaced⟩ :: (ts ++ rest))
        = .ok (.interval "INTERVAL", ts ++ rest) := rfl
    rw [bind_of_ok (dataType_of_element helement hbehind)]
    have hoperand : Fails operand level (· = ts ++ rest) .unexpected := by
      rintro _ rfl
      exact hinterval rfl
    exact intervalExpr_fails hlevel hoperand _ rfl
  · obtain ⟨type, helement⟩ | ⟨type, helement⟩ | helement :=
      elementType_cases hlevel h text hkey quote spaced
    · rw [bind_of_ok (dataType_of_element (helement rest hrest) hbehind)]
      generalize hbuiltin : TypeText.builtin type = builtin
      split
      · cases hbuiltin
      · cases hbuiltin
      · rw [bind_of_ok hbinary]
        exact bind_of_error hvalue _
      · exact bind_of_error hvalue _
    · rw [bind_of_ok (dataType_of_element (helement rest hrest) hrest.quiet)]
      rfl
    · exact bind_of_error (bind_of_error (helement rest hrest) _) _

/-- A single word is a type, or none, whatever stands behind it. -/
theorem typeText_settles (text key : String) (quote : Option Char) (spaced : Bool) :
    Settles typeText level [⟨.word text quote key, spaced⟩] Closing := by
  suffices h : Settles elementType level [⟨.word text quote key, spaced⟩] Closing by
    have hsuffixes : ∀ element, Settles (many arraySuffix >>= fun suffixes =>
        if suffixes.isEmpty then pure element
        else pure (.builtin (element.render ++ "".intercalate suffixes)) : Grammar TypeText)
        level [] Closing := fun _ => .after (arraySuffixes_pass fun _ h => h.quiet) (.pure _)
    exact (h.bind hsuffixes).bind fun type => .pure type.render
  by_cases hkey : key = "INTERVAL"
  · subst hkey
    exact ⟨.ok (.interval "INTERVAL"), fun _ _ => rfl⟩
  · obtain ⟨type, helement⟩ | ⟨type, helement⟩ | helement :=
      elementType_cases hlevel .nil text hkey quote spaced
    · exact ⟨.ok (.builtin type), helement⟩
    · exact ⟨.ok (.custom type), helement⟩
    · exact ⟨.error .unexpected, helement⟩

omit hlevel in
theorem collated_passes {P : List Lexeme → Prop} (hP : ∀ rest, P rest → Quiet rest) (e : Expr) :
    Passes (collated e) level P e := by
  have hread : Passes (read : Grammar Level) level P level := fun _ _ => rfl
  have hkeyword : ∀ b, Passes (keywordIf b "COLLATE") level P false := by
    intro b
    cases b with
    | false => exact .pure false
    | true => exact keyword_passes hP (by decide)
  exact hread.bind ((hkeyword _).bind (.pure e))

/-- The first word of a name is an operand, whatever stands behind the name. -/
theorem operand_settles (h : Parts ts) (text key : String) (quote : Option Char)
    (spaced : Bool) {P : List Lexeme → Prop} (hP : ∀ rest, P rest → Closing rest)
    (hdeep : key = "CASE" ∨ key = "NOT" ∨ key = "INTERVAL" →
      (∀ n, Fails (operand n) level (fun tail => ∃ rest, P rest ∧ tail = ts ++ rest) .unexpected) ∧
        ∃ cause, ∀ strength, Fails (exprAbove strength) level
          (fun tail => ∃ rest, P rest ∧ tail = ts ++ rest) cause) :
    ∃ r : Except SyntaxError Expr, ∀ n rest, P rest →
      operand (n + 1) level (⟨.word text quote key, spaced⟩ :: (ts ++ rest))
        = r.map (·, ts ++ rest) := by
  have hquiet : ∀ tail, (∃ rest, P rest ∧ tail = ts ++ rest) → Quiet tail := by
    rintro _ ⟨rest, hrest, rfl⟩
    exact h.quiet (hP rest hrest)
  have hword := (wordOperand_settles hquiet hlevel ⟨text, quote⟩ key
    ⟨.word text quote key, spaced⟩ fun hkey => ⟨(hdeep hkey).1 0, (hdeep hkey).2⟩).bind
      fun e => (collated_passes hquiet e).settles
  obtain ⟨r, hr⟩ := hword
  refine ⟨r, fun n rest hrest => ?_⟩
  have hfails : ∀ n, key = "INTERVAL" → operand n level (ts ++ rest) = .error .unexpected :=
    fun n hkey => (hdeep (.inr (.inr hkey))).1 n _ ⟨rest, hrest, rfl⟩
  have htyped := typedText_fails hlevel h text key quote spaced (hP rest hrest) (hfails n)
  have hpeek : peek level (⟨.word text quote key, spaced⟩ :: (ts ++ rest))
      = .ok (some (.word text quote key), ⟨.word text quote key, spaced⟩ :: (ts ++ rest)) := rfl
  have hisWord : Token.isWord ((some (.word text quote key)).getD (.symbol "")) = true := rfl
  have hsame := wordOperand_congr (t := ⟨.word text quote key, spaced⟩) ⟨text, quote⟩ key
    fun hkey => (hfails n hkey).trans (hfails 0 hkey).symm
  rw [operand, bind_of_ok hpeek, if_pos hisWord, bind_of_ok (attempt_of_unexpected htyped),
    ← hr _ ⟨rest, hrest, rfl⟩]
  change (wordOperand (operand n) ⟨text, quote⟩ key >>= collated : Grammar Expr) level _ = _
  rw [bind_apply, hsame]
  rfl

end Names

/-! ### Marks between names -/

/-- A mark between names. -/
inductive Mark : List Lexeme → Prop where
  | period {spaced : Bool} {rest : List Lexeme} : Mark (⟨.symbol ".", spaced⟩ :: rest)
  | equals {spaced : Bool} {rest : List Lexeme} : Mark (⟨.symbol "=", spaced⟩ :: rest)

theorem operand_fails {level : Level} (hlevel : level.dialect = .postgres) (n : Nat) :
    Fails (operand n) level Mark .unexpected := by
  obtain ⟨d, inColumn, statement, query, expr⟩ := level
  cases hlevel
  intro rest hrest
  cases n with
  | zero => rfl
  | succ n => cases hrest <;> rfl

theorem expression_fails {level : Level} (hlevel : level.dialect = .postgres) (strength : Nat) :
    Fails (expression strength) level Mark .unexpected := by
  intro rest hrest
  have hget : (get : Grammar (List Lexeme)) level rest = .ok (rest, rest) := rfl
  unfold expression
  rw [bind_of_ok hget, bind_of_error (operand_fails hlevel _ rest hrest)]

/-- One level down, an expression is read by the grammar of expressions. -/
theorem exprAbove_ofDepth (k strength : Nat) (tokens : List Lexeme) :
    exprAbove strength (Level.ofDepth .postgres (k + 1)) tokens
      = expression strength (Level.ofDepth .postgres k) tokens := by
  cases k <;> rfl

theorem dialect_ofDepth (d : Dialect) (k : Nat) : (Level.ofDepth d k).dialect = d := by
  cases k <;> rfl

theorem exprAbove_fails (k : Nat) :
    ∃ cause, ∀ strength, Fails (exprAbove strength) (Level.ofDepth .postgres k) Mark cause := by
  cases k with
  | zero => exact ⟨.tooDeep, fun strength rest hrest => rfl⟩
  | succ k =>
    refine ⟨.unexpected, fun strength rest hrest => ?_⟩
    rw [exprAbove_ofDepth]
    exact expression_fails (dialect_ofDepth _ k) strength rest hrest

end RowScope.Sql.Grammar
