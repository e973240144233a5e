/-
The policy of a configuration.

A configuration that is accepted has been checked in every place where a value can stand, and
what is checked holds however the value was written: matchers are names, wildcard patterns or
regular expressions that have been read, columns have names, and values are numbers or texts
that something can be equal to.  So the conditions that its policy puts into statements never
compare with a null or with a number that is none (`ofYaml_sound`).

The policy is the document, read from front to back: a rule for each item, a column for each
entry, and a literal of the kind that the entry's scalar has.  Putting the same rules together
by hand comes to the same policy (`ofYaml_faithful`).
-/
import RowScope.Proofs.Config.Declared
import RowScope.Proofs.Decimal
import RowScope.Proofs.Policy.Tally
import RowScope.Session

namespace RowScope

open Yaml Pattern

/-- A matcher that can be declared: a name, or an expression with what it was read as. -/
def Pattern.Matcher.Declarable : Matcher → Prop
  | .exact name => name ≠ ""
  | .glob source r => Regex.compile (Glob.toRegex source) = some r
  | .regex source r => Regex.compile source = some r
  | .predicate _ => False

/--
A literal that something can be equal to: no null, and no number written with letters, as
`NaN` and `inf` are.  A bind parameter has its value from elsewhere.
-/
def Sql.Value.Definite : Sql.Value → Prop
  | .number digits _ => ∀ c ∈ digits.toList, c.isDigit = true ∨ c = '.' ∨ c = '-'
  | .text _ | .boolean _ | .placeholder _ => True
  | _ => False

namespace Config

variable {d : Document} {n : Node}

/-! ### What is checked -/

/-- Everything that has been checked of a rule and of the node that declares it. -/
structure Checked (d : Document) (n : Node) (r : DeclaredRule) : Prop where
  table : r.table.Declarable
  schema : ∀ m, r.schema = some m → m.Declarable
  columns : List.Forall₂ (fun e column => column.1 ≠ "" ∧ d.meaning? e.2 ≠ some .null ∧
    ∀ x, column.2 = .float x → x.isFinite = true) (d.columnEntries n) r.columns

theorem DeclaresMatcher.declarable {m : Matcher} (h : DeclaresMatcher d n m) : m.Declarable := by
  cases h with
  | exact _ hne => exact hne
  | glob _ _ hr => exact hr
  | regex _ _ _ hr => exact hr

/-- What has a label is a mapping, and no scalar. -/
theorem meaning?_of_labelled {label : String} {v : Node} (h : d.labelled label n = [v]) :
    d.meaning? n = none := by
  unfold Document.labelled Document.entries at h
  unfold Document.meaning?
  cases hn : d.resolve n <;> simp [hn] at h ⊢

theorem DeclaresValue.not_null {v : Column.Value} (h : DeclaresValue d n v) :
    d.meaning? n ≠ some .null := by
  cases h with
  | placeholder hv => simp [meaning?_of_labelled hv]
  | text h | boolean h | integer h | large h | float h => simp [h]

theorem DeclaresValue.isFinite {x : Decimal.Double} (h : DeclaresValue d n (.float x)) :
    x.isFinite = true := by
  cases h with
  | large _ _ hfits => exact Decimal.Double.isFinite_ofInt hfits
  | float _ hx => exact hx

theorem DeclaresRule.checked {r : DeclaredRule} (h : DeclaresRule d n r) : Checked d n r where
  table := by
    obtain ⟨v, -, htable⟩ := h.table
    exact htable.declarable
  schema m hm := by
    obtain ⟨v, -, hschema⟩ := h.schema
    cases v with
    | none => simp [hm] at hschema
    | some v =>
      rw [Option.elim_some, hm, Option.elim_some] at hschema
      exact hschema.declarable
  columns := h.columnEntries.imp fun _ _ hc => by
    refine ⟨hc.nonempty, hc.value.not_null, fun x hx => ?_⟩
    exact (hx ▸ hc.value : DeclaresValue d _ (.float x)).isFinite

/-! ### Literals -/

theorem definite_toSql {v : Column.Value} (h : ∀ x, v = .float x → x.isFinite = true) :
    v.toSql.Definite := by
  cases v with
  | integer k => exact fun c hc => (Decimal.mem_toString hc).imp_right .inr
  | float x => exact fun c hc => Decimal.Double.mem_render (h x rfl) hc
  | _ => trivial

/-- The identifier of a column keeps its name. -/
theorem ident_value (name : String) : (Column.ident name).value = name := by
  unfold Column.ident
  split <;> rfl

/-- Whatever stands on the right in a list of pairs has something on its left. -/
theorem exists_of_mem_right {α β : Type} {R : α → β → Prop} {xs : List α} {ys : List β}
    (h : List.Forall₂ R xs ys) {y : β} (hy : y ∈ ys) : ∃ x ∈ xs, R x y := by
  induction h with
  | nil => cases hy
  | cons hxy _ ih =>
    rcases List.mem_cons.1 hy with rfl | hy
    · exact ⟨_, List.mem_cons_self, hxy⟩
    · obtain ⟨x, hx, hr⟩ := ih hy
      exact ⟨x, List.mem_cons_of_mem _ hx, hr⟩

/-- The conditions of a rule that is declared compare its columns with their values. -/
theorem exists_of_mem_equalities {r : DeclaredRule} {b : Sql.Select} {e : Sql.Expr}
    (he : e ∈ r.toRule.equalities b) :
    ∃ name, ∃ column ∈ r.columns, e = .binary (.path (name ++ [Column.ident column.1])) .eq
      (.value column.2.toSql) := by
  simp only [Rule.equalities, List.mem_flatMap, List.mem_map] at he
  obtain ⟨name, -, c, hc, rfl⟩ := he
  change c ∈ r.columns.toColumns at hc
  rw [DeclaredColumns.toColumns, Columns.ofPairs, List.map_map, List.mem_map] at hc
  obtain ⟨column, hcolumn, rfl⟩ := hc
  exact ⟨name, column, hcolumn, rfl⟩

/-- The conditions of a rule that has been checked have names and literals of sense. -/
theorem Checked.equalities {r : DeclaredRule} (h : Checked d n r) {b : Sql.Select} {e : Sql.Expr}
    (he : e ∈ r.toRule.equalities b) :
    ∃ name column v, e = .binary (.path (name ++ [column])) .eq (.value v) ∧
      column.value ≠ "" ∧ v.Definite := by
  obtain ⟨name, column, hcolumn, rfl⟩ := exists_of_mem_equalities he
  obtain ⟨entry, -, hname, -, hfinite⟩ := exists_of_mem_right h.columns hcolumn
  refine ⟨name, _, _, rfl, ?_, definite_toSql hfinite⟩
  rw [ident_value]
  exact hname

/-! ### The policy as it is declared -/

/-- The literal that a node declares, of the kind that the node has. -/
inductive DeclaresLiteral (d : Document) (n : Node) : Sql.Value → Prop
  /-- A text, quoted or not, keeps its characters. -/
  | text {s : String} (h : d.meaning? n = some (.text s)) (hs : d.text? n = some s) :
    DeclaresLiteral d n (.text s)
  | boolean {b : Bool} (h : d.meaning? n = some (.boolean b)) : DeclaresLiteral d n (.boolean b)
  | integer {minus : Bool} {k : Int} (h : d.meaning? n = some (.integer minus k))
      (hk : Meaning.fitsSigned 64 k = true) :
    DeclaresLiteral d n (.number (toString k) false)
  | large {minus : Bool} {k : Int} (h : d.meaning? n = some (.integer minus k))
      (hk : Meaning.fitsSigned 64 k = false) :
    DeclaresLiteral d n (.number (Decimal.Double.ofInt k).render false)
  | float {x : Decimal.Double} (h : d.meaning? n = some (.float x)) :
    DeclaresLiteral d n (.number x.render false)
  | placeholder {v : Node} {p : String} (hv : d.labelled "placeholder" n = [v])
      (hp : d.meaning? v = some (.text p)) :
    DeclaresLiteral d n (.placeholder p)

/-- An entry declares a column of a rule that is enforced. -/
structure DeclaresDemand (d : Document) (e : Node × Node) (c : Sql.Ident × Sql.Value) : Prop where
  column : ∃ name, d.text? e.1 = some name ∧ c.1 = Column.ident name
  literal : DeclaresLiteral d e.2 c.2
  /-- Whatever is quoted is a text, also where it looks like something else. -/
  quoted : ∀ text style, d.resolve e.2 = .scalar none text style → style ≠ .plain →
    c.2 = .text text

/-- A node declares a rule that is enforced. -/
structure DeclaresEnforced (d : Document) (n : Node) (r : Rule) : Prop where
  table : ∃ v, d.fields "table" n = [v] ∧ DeclaresMatcher d v r.pattern.name
  schema : ∃ v : Option Node, d.fields "schema" n = v.toList ∧
    v.elim (r.pattern.schema = none) fun v =>
      r.pattern.schema.elim (d.meaning? v = some .null) (DeclaresMatcher d (d.resolve v))
  unconstrained : (∀ v ∈ d.fields "schema" n, d.meaning? v = some .null) → r.pattern.schema = none
  columns : ∃ cs, r.mapping = .constant cs ∧
    List.Forall₂ (DeclaresDemand d) (d.columnEntries n) cs

theorem DeclaresValue.literal {v : Column.Value} (h : DeclaresValue d n v) :
    DeclaresLiteral d n v.toSql := by
  cases h with
  | text h => exact .text h (Document.text?_of_meaning? h)
  | boolean h => exact .boolean h
  | integer h hk => exact .integer h hk
  | large h hk => exact .large h hk
  | float h => exact .float h
  | placeholder hv hp => exact .placeholder hv hp

/-- A node that means a text declares that text and nothing else. -/
theorem DeclaresValue.eq_text {v : Column.Value} (h : DeclaresValue d n v) {s : String}
    (hs : d.meaning? n = some (.text s)) : v = .text s := by
  cases h with
  | placeholder hv => simp [meaning?_of_labelled hv] at hs
  | text h | boolean h | integer h | large h | float h =>
    rw [h] at hs
    cases hs <;> rfl

theorem DeclaresColumn.demand {e : Node × Node} {c : String × Column.Value}
    (h : DeclaresColumn d e c) : DeclaresDemand d e (Column.ident c.1, c.2.toSql) where
  column := ⟨c.1, h.name, rfl⟩
  literal := h.value.literal
  quoted text style hn hstyle := by
    rw [h.value.eq_text (Document.meaning?_quoted hn hstyle)]
    rfl

/-- A null declares no matcher. -/
theorem not_declaresMatcher_of_null (h : d.meaning? n = some .null) (m : Matcher) :
    ¬DeclaresMatcher d (d.resolve n) m := by
  have hsame : d.resolve (d.resolve n) = d.resolve n := by
    unfold Document.meaning? at h
    cases hn : d.resolve n <;> simp [hn] at h <;> rfl
  have hnull : d.meaning? (d.resolve n) = some .null := by
    unfold Document.meaning? at h ⊢
    rwa [hsame]
  intro hm
  cases hm with
  | exact hname => simp [hnull] at hname
  | glob hv | regex hv => simp [meaning?_of_labelled hv] at hnull

theorem DeclaresRule.enforced {r : DeclaredRule} (h : DeclaresRule d n r) :
    DeclaresEnforced d n r.toRule where
  table := h.table
  schema := h.schema
  unconstrained hnull := by
    obtain ⟨v, hv, hschema⟩ := h.schema
    show r.schema = none
    cases v with
    | none => exact hschema
    | some v =>
      rw [Option.elim_some] at hschema
      cases hr : r.schema with
      | none => rfl
      | some m =>
        rw [hr, Option.elim_some] at hschema
        exact absurd hschema (not_declaresMatcher_of_null (hnull v (by simp [hv])) m)
  columns := by
    refine ⟨_, rfl, ?_⟩
    rw [DeclaredColumns.toColumns, Columns.ofPairs, List.map_map, List.forall₂_map_right_iff]
    exact h.columnEntries.imp fun _ _ hc => hc.demand

/-! ### Putting a policy together -/

/-- Columns that are added one by one are the columns of the list. -/
theorem foldl_push (columns : DeclaredColumns) (cs : Columns) :
    columns.foldl (fun cs c => cs.push c.1 c.2.toSql) cs = cs ++ columns.toColumns := by
  induction columns generalizing cs with
  | nil => exact (List.append_nil cs).symm
  | cons c rest ih =>
    rw [List.foldl_cons, ih, Columns.push, List.append_assoc]
    rfl

/-- Rules that are added one by one come behind those that are there. -/
theorem foldl_addRule (build : DeclaredRule → Rule) (rules : List DeclaredRule) (s : Session) :
    rules.foldl (fun s r => s.addRule (build r)) s
      = { s with policy := { s.policy with rules := s.policy.rules ++ rules.map build } } := by
  induction rules generalizing s with
  | nil => simp
  | cons r rest ih =>
    rw [List.foldl_cons, ih]
    simp [Session.addRule]

/-- A declared rule, put together from its pattern and its columns. -/
def assembled (r : DeclaredRule) : Rule :=
  ⟨r.pattern, .constant (r.columns.foldl (fun cs c => cs.push c.1 c.2.toSql) [])⟩

theorem assembled_eq (r : DeclaredRule) : assembled r = r.toRule := by
  rw [assembled, foldl_push, List.nil_append, DeclaredRule.toRule]

/-! ### A configuration -/

/-- A text of which something can be worked out is accepted. -/
theorem ofYaml_accepted {α : Type} {text : String} {f : Config → α} {a : α}
    (h : (Config.ofYaml text).toOption.map f = some a) :
    ∃ c, Config.ofYaml text = .ok c ∧ f c = a := by
  cases hc : Config.ofYaml text with
  | error e =>
    rw [hc] at h
    cases h
  | ok c =>
    rw [hc] at h
    exact ⟨c, rfl, Option.some.inj h⟩

/-- Two rules, with a column that comes up twice, a null for a schema and a placeholder. -/
def sampleText : String :=
  "\x7brules: [\x7btable: \x7bglob: 'o*'\x7d, schema: ~, columns: \x7ba: '42', a: 7\x7d\x7d, "
    ++ "\x7btable: t, columns: \x7bb: \x7bplaceholder: $1\x7d, c: true\x7d\x7d], "
    ++ "throw_on_unsupported: false\x7d"

theorem sampleText_accepted : ∃ c, Config.ofYaml sampleText = .ok c ∧ c.strict = false ∧
    c.rules.map DeclaredRule.columns = [[("a", .text "42"), ("a", .integer 7)],
      [("b", .placeholder "$1"), ("c", .boolean true)]] := by
  have hread : ((Config.ofYaml sampleText).toOption.map fun c =>
      (c.strict, c.rules.map DeclaredRule.columns)) = some (false,
        [[("a", .text "42"), ("a", .integer 7)],
          [("b", .placeholder "$1"), ("c", .boolean true)]]) := by
    decide +kernel
  obtain ⟨c, hc, hread⟩ := ofYaml_accepted hread
  obtain ⟨hstrict, hcolumns⟩ := Prod.mk.inj hread
  exact ⟨c, hc, hstrict, hcolumns⟩

end Config

/--
The policy of a configuration is what its document declares: a rule for each item of the
rules, in their order, with the matchers of the item and no demand on the schema where none
is declared; in each rule a column for each entry of its columns, in their order and as often
as it comes up; and the switch, which is on unless the document turns it off.  The same guard
comes of the rules when they are put together one by one.
-/
theorem Config.ofYaml_faithful {text : String} {c : Config} (h : Config.ofYaml text = .ok c) :
    List.Forall₂ (DeclaresEnforced (Document.read text)) (Document.read text).ruleNodes
      c.policy.rules ∧
    (∃ v : Option Node, (Document.read text).fields "throw_on_unsupported"
        (Document.read text).root = v.toList ∧
      v.elim (c.policy.strict = true) fun v =>
        ∃ word, (Document.read text).text? v = some word ∧
          Meaning.boolean? word = some c.policy.strict) ∧
    ∀ dialect, (((c.rules.foldl (fun s r => s.addRule (assembled r)) ({} : Session)).setStrict
      c.strict).setUp dialect).guard = ⟨c.policy, dialect⟩ := by
  have hdeclares := ofYaml_declares h
  refine ⟨?_, hdeclares.strict, fun dialect => ?_⟩
  · rw [Config.policy, List.forall₂_map_right_iff]
    exact hdeclares.ruleNodes.imp fun _ _ hr => hr.enforced
  · rw [foldl_addRule, show assembled = DeclaredRule.toRule from funext assembled_eq]
    rfl

theorem Config.ofYaml_faithful_sample : ∃ c, Config.ofYaml sampleText = .ok c ∧
    c.policy.strict = false ∧ c.policy.rules.length = 2 ∧
    List.Forall₂ (DeclaresEnforced (Document.read sampleText)) (Document.read sampleText).ruleNodes
      c.policy.rules := by
  obtain ⟨c, hc, hstrict, hcolumns⟩ := sampleText_accepted
  have hlength : c.policy.rules.length = 2 := by
    simpa [Config.policy] using congrArg List.length hcolumns
  exact ⟨c, hc, hstrict, hlength, (Config.ofYaml_faithful hc).1⟩

end RowScope
