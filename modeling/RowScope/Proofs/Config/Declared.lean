/-
What a configuration declares.

A document is described without the decoder: its rules are the items below the key `rules`,
a rule's columns are the entries below `columns`, and a scalar declares the value that it
means.  What is read from a document is exactly that (`ofYaml_declares`): a rule for each
item and a column for each entry, in the order of the document, each with what its own node
declares and with nothing that another shape would make of that node.

A field comes up once or not at all.  What has been read of a field is therefore the list of
its values so far, and the invariant of reading a mapping says so of each field at a time
(`Field`).
-/
import RowScope.Config.Reader
import RowScope.Proofs.Yaml.Gives

namespace RowScope

open Yaml Pattern

/-! ### Parts of a document -/

namespace Yaml.Document

/--
The values in a mapping that a label stands for: the key has the text of the label, or is the
number of the only field, without a minus.
-/
def labelled (d : Document) (label : String) (n : Node) : List Node :=
  (d.entries n).filterMap fun e =>
    if d.meaning? e.1 = some (.text label) ∨ d.meaning? e.1 = some (.integer false 0) then some e.2
    else none

/-- The nodes of the rules that a document declares. -/
def ruleNodes (d : Document) : List Node := (d.fields "rules" d.root).flatMap d.items

/-- The entries of the columns that a node declares for a rule. -/
def columnEntries (d : Document) (n : Node) : List (Node × Node) :=
  (d.fields "columns" n).flatMap d.entries

end Yaml.Document

namespace Config

open Yaml.Decoder

variable {d : Document}

/-! ### What nodes declare -/

/-- A node declares a matcher: a name, a wildcard pattern, or else a regular expression. -/
inductive DeclaresMatcher (d : Document) (n : Node) : Matcher → Prop
  | exact {name : String} (hname : d.meaning? n = some (.text name)) (hne : name ≠ "") :
    DeclaresMatcher d n (.exact name)
  | glob {v : Node} {source : String} {r : Regex} (hv : d.labelled "glob" n = [v])
      (hsource : d.meaning? v = some (.text source))
      (hr : Regex.compile (Glob.toRegex source) = some r) :
    DeclaresMatcher d n (.glob source r)
  | regex {v : Node} {source : String} {r : Regex} (hv : d.labelled "regex" n = [v])
      (hsource : d.meaning? v = some (.text source))
      (hglob : ∀ w pattern, d.labelled "glob" n = [w] → d.meaning? w ≠ some (.text pattern))
      (hr : Regex.compile source = some r) :
    DeclaresMatcher d n (.regex source r)

/-- A node declares a column value: a scalar what it means, a mapping a placeholder. -/
inductive DeclaresValue (d : Document) (n : Node) : Column.Value → Prop
  | text {s : String} (h : d.meaning? n = some (.text s)) : DeclaresValue d n (.text s)
  | boolean {b : Bool} (h : d.meaning? n = some (.boolean b)) : DeclaresValue d n (.boolean b)
  | integer {minus : Bool} {k : Int} (h : d.meaning? n = some (.integer minus k))
      (hk : Meaning.fitsSigned 64 k = true) :
    DeclaresValue d n (.integer k)
  /-- An integer that has 64 bits only without a sign. -/
  | large {minus : Bool} {k : Int} (h : d.meaning? n = some (.integer minus k))
      (hk : Meaning.fitsSigned 64 k = false) (hfits : Meaning.fits 64 k = true) :
    DeclaresValue d n (.float (Decimal.Double.ofInt k))
  | float {x : Decimal.Double} (h : d.meaning? n = some (.float x)) (hx : x.isFinite = true) :
    DeclaresValue d n (.float x)
  | placeholder {v : Node} {p : String} (hv : d.labelled "placeholder" n = [v])
      (hp : d.meaning? v = some (.text p)) :
    DeclaresValue d n (.placeholder p)

/-- An entry declares a column. -/
structure DeclaresColumn (d : Document) (e : Node × Node) (c : String × Column.Value) : Prop where
  name : d.text? e.1 = some c.1
  nonempty : c.1 ≠ ""
  value : DeclaresValue d e.2 c.2

/-- A node declares a rule. -/
structure DeclaresRule (d : Document) (n : Node) (r : DeclaredRule) : Prop where
  table : ∃ v, d.fields "table" n = [v] ∧ DeclaresMatcher d v r.table
  /-- A schema that is left out or null is none. -/
  schema : ∃ v : Option Node, d.fields "schema" n = v.toList ∧
    v.elim (r.schema = none) fun v =>
      r.schema.elim (d.meaning? v = some .null) (DeclaresMatcher d (d.resolve v))
  columns : ∃ v : Option Node, d.fields "columns" n = v.toList ∧
    v.elim (r.columns = []) fun v => List.Forall₂ (DeclaresColumn d) (d.entries v) r.columns

/-- A document declares a configuration. -/
structure Declares (d : Document) (c : Config) : Prop where
  /-- The switch is on unless the document says otherwise. -/
  strict : ∃ v : Option Node, d.fields "throw_on_unsupported" d.root = v.toList ∧
    v.elim (c.strict = true) fun v =>
      ∃ text, d.text? v = some text ∧ Meaning.boolean? text = some c.strict
  rules : ∃ v : Option Node, d.fields "rules" d.root = v.toList ∧
    v.elim (c.rules = []) fun v => List.Forall₂ (DeclaresRule d) (d.items v) c.rules

theorem DeclaresRule.columnEntries {n : Node} {r : DeclaredRule} (h : DeclaresRule d n r) :
    List.Forall₂ (DeclaresColumn d) (d.columnEntries n) r.columns := by
  obtain ⟨v, hv, hcolumns⟩ := h.columns
  rw [Document.columnEntries, hv]
  cases v with
  | none => rw [show r.columns = [] from hcolumns]; exact .nil
  | some v => simpa using hcolumns

theorem Declares.ruleNodes {c : Config} (h : Declares d c) :
    List.Forall₂ (DeclaresRule d) d.ruleNodes c.rules := by
  obtain ⟨v, hv, hrules⟩ := h.rules
  rw [Document.ruleNodes, hv]
  cases v with
  | none => rw [show c.rules = [] from hrules]; exact .nil
  | some v => simpa using hrules

/-! ### Shapes -/

theorem names?_isSome (a b : String) (c : Content) :
    (names? a c).isSome = (names? b c).isSome := by
  rcases c with (_ | _ | ⟨_ | _, _⟩ | _ | _) | _ | _ <;> rfl

/-- A key names a field by its text or its number. -/
theorem names?_eq_some {label : String} {c : Content} {b : Bool} (h : names? label c = some b) :
    b = true ↔ c.scalar? = some (.text label) ∨ c.scalar? = some (.integer false 0) := by
  rcases c with (_ | _ | ⟨_ | _, k⟩ | _ | t) | _ | _ <;> try cases h
  · simp [Content.scalar?]
  · simp [Content.scalar?]

theorem valuesOf_cons {label : String} {c : Content × Content} {cs : List (Content × Content)}
    {vs : List Content} (h : valuesOf label (c :: cs) = some vs) :
    ∃ b vs', names? label c.1 = some b ∧ valuesOf label cs = some vs' ∧
      vs = if b then c.2 :: vs' else vs' := by
  simp only [valuesOf, Option.bind_eq_bind, Option.bind_eq_some_iff, Option.pure_def,
    Option.some.injEq] at h
  obtain ⟨b, hb, vs', hvs', rfl⟩ := h
  exact ⟨b, vs', hb, hvs', rfl⟩

/-- Whether all keys can name fields does not depend on the field. -/
theorem valuesOf_isSome (a b : String) (cs : List (Content × Content)) :
    (valuesOf a cs).isSome = (valuesOf b cs).isSome := by
  induction cs with
  | nil => rfl
  | cons c cs ih =>
    have hc := names?_isSome a b c.1
    have hone : ∀ label, (valuesOf label (c :: cs)).isSome
        = ((names? label c.1).isSome && (valuesOf label cs).isSome) := by
      intro label
      rw [valuesOf]
      cases names? label c.1 <;> cases valuesOf label cs <;> rfl
    rw [hone, hone, hc, ih]

variable {n : Node} {c : Content}

/-- The values that a label stands for are shown by those that its field is made of. -/
theorem labelled_shown {label : String} {cs : List (Content × Content)} {vs : List Content}
    (h : (Content.mapping cs).Shows d n) (hvs : valuesOf label cs = some vs) :
    List.Forall₂ (fun v c => c.scalar? = d.meaning? v) (d.labelled label n) vs := by
  have hes := h.entries cs rfl
  clear h
  unfold Document.labelled
  generalize d.entries n = es at hes
  induction hes generalizing vs with
  | nil =>
    cases hvs
    exact .nil
  | cons he _ ih =>
    obtain ⟨b, vs', hb, hvs', rfl⟩ := valuesOf_cons hvs
    have hlabel := names?_eq_some hb
    rw [he.1] at hlabel
    rw [List.filterMap_cons]
    cases b with
    | true => simpa [hlabel.1 rfl] using ⟨he.2, ih hvs'⟩
    | false => simpa [hlabel.not.1 Bool.false_ne_true] using ih hvs'

theorem scalar?_eq_text {s : String} (h : c.scalar? = some (.text s)) : c = .meaning (.text s) := by
  cases c with
  | meaning => exact congrArg _ (Option.some.inj h)
  | _ => cases h

/-- A text field is the meaning of the one value that its label stands for. -/
theorem textField?_shown {label s : String} {cs : List (Content × Content)}
    (h : (Content.mapping cs).Shows d n) (hs : textField? label cs = some s) :
    ∃ v, d.labelled label n = [v] ∧ d.meaning? v = some (.text s) := by
  obtain ⟨vs, hvs, hmatch⟩ := Option.bind_eq_some_iff.1 hs
  have hshown := labelled_shown h hvs
  split at hmatch
  · cases hmatch
    obtain ⟨v, rest, hv, hrest, hlabelled⟩ := List.forall₂_cons_right_iff.1 hshown
    cases List.forall₂_nil_right_iff.1 hrest
    exact ⟨v, hlabelled, hv.symm⟩
  · cases hmatch

/-- Without a text field, the label stands for no single text. -/
theorem textField?_missing {label other s : String} {cs : List (Content × Content)}
    (h : (Content.mapping cs).Shows d n) (hnone : textField? label cs = none)
    (hother : textField? other cs = some s) (v : Node) (t : String)
    (hv : d.labelled label n = [v]) : d.meaning? v ≠ some (.text t) := by
  intro ht
  obtain ⟨ws, hws, -⟩ := Option.bind_eq_some_iff.1 hother
  have hsome : (valuesOf label cs).isSome := by
    rw [valuesOf_isSome label other, hws]
    rfl
  obtain ⟨vs, hvs⟩ := Option.isSome_iff_exists.1 hsome
  have hshown := labelled_shown h hvs
  rw [hv] at hshown
  obtain ⟨c, rest, hc, hrest, rfl⟩ := List.forall₂_cons_left_iff.1 hshown
  cases List.forall₂_nil_left_iff.1 hrest
  rw [ht] at hc
  simp [textField?, hvs, scalar?_eq_text hc] at hnone

theorem matcherOf_declares {m : Matcher} (h : c.Shows d n) (hm : matcherOf c = some (.ok m)) :
    DeclaresMatcher d n m := by
  unfold matcherOf at hm
  split at hm
  · rename_i name
    split at hm
    · cases hm
    · cases hm
      exact .exact h.scalar.symm (by simpa using ‹¬name.isEmpty = true›)
  · rename_i cs
    split at hm
    · rename_i source hsource
      obtain ⟨v, hv, htext⟩ := textField?_shown h hsource
      simp only [Matcher.ofGlob] at hm
      split at hm
      · cases hm
        exact .glob hv htext ‹_›
      · cases hm
    · rename_i hglob
      obtain ⟨source, hsource, hregex⟩ := Option.map_eq_some_iff.1 hm
      obtain ⟨v, hv, htext⟩ := textField?_shown h hsource
      simp only [Matcher.ofRegex] at hregex
      split at hregex
      · cases hregex
        exact .regex hv htext (textField?_missing h hglob hsource) ‹_›
      · cases hregex
  · cases hm

theorem valueOf_declares {v : Column.Value} (h : c.Shows d n) (hv : valueOf c = some (.ok v)) :
    DeclaresValue d n v := by
  unfold valueOf at hv
  split at hv
  · cases hv
    exact .boolean h.scalar.symm
  · rename_i minus k
    by_cases hk : Meaning.fitsSigned 64 k = true
    · rw [if_pos hk] at hv
      cases hv
      exact .integer h.scalar.symm hk
    · rw [if_neg hk] at hv
      cases hv
      exact .large h.scalar.symm (by simpa using hk) (h.fits minus k rfl)
  · split at hv
    · cases hv
      exact .float h.scalar.symm ‹_›
    · cases hv
  · cases hv
    exact .text h.scalar.symm
  · obtain ⟨p, hp, hvalue⟩ := Option.map_eq_some_iff.1 hv
    cases hvalue
    obtain ⟨w, hw, htext⟩ := textField?_shown h hp
    exact .placeholder hw htext
  · cases hv
  · cases hv

/-- What is tried on a content is true of the node that the content shows. -/
theorem shaped_gives {α : Type} {name : String} {shape : Content → Option (Except Rejection α)}
    {P : α → Prop} (hshape : ∀ {c a}, c.Shows d n → shape c = some (.ok a) → P a)
    (depth : Nat) (place : Place) : Gives d (shaped name shape depth place n) P := by
  refine (content_gives depth place n).bind fun c hc => ?_
  split
  · exact .fail
  · exact .pure (hshape hc ‹_›)
  · exact .fail

theorem matcher_gives (depth : Nat) (place : Place) (n : Node) :
    Gives d (matcher depth place n) (DeclaresMatcher d n) :=
  shaped_gives matcherOf_declares depth place

theorem value_gives (depth : Nat) (place : Place) (n : Node) :
    Gives d (value depth place n) (DeclaresValue d n) :=
  shaped_gives valueOf_declares depth place

/-! ### Columns -/

theorem columns_gives (depth : Nat) (place : Place) (n : Node) :
    Gives d (columns depth place n) (List.Forall₂ (DeclaresColumn d) (d.entries n)) := by
  have hstart : List.Forall₂ (DeclaresColumn d) [] [] := .nil
  refine .within <| mapping_gives ?_ hstart depth place n
  intro depth read cs k v name place hcs hname
  refine (value_gives depth place v).bind fun a ha => ?_
  refine .ite (fun _ => .fail_bind) fun hempty => .pure ?_
  exact List.rel_append hcs (.cons ⟨hname, by simpa using hempty, ha⟩ .nil)

/-! ### Fields -/

/-- What has been read of a field: its values in the entries so far, at most one. -/
def Field {α : Type} (d : Document) (name : String) (P : Node → α → Prop)
    (read : List (Node × Node)) (field : Option α) : Prop :=
  List.Forall₂ P (d.valuesAt name read) field.toList

section Field

variable {α : Type} {P : Node → α → Prop} {name : String} {read : List (Node × Node)}
  {k v : Node} {field : Option α}

theorem field_start : Field d name P [] none := .nil

theorem valuesAt_append (read : List (Node × Node)) {k v : Node} {key : String}
    (hk : d.text? k = some key) :
    d.valuesAt name (read ++ [(k, v)])
      = d.valuesAt name read ++ if key = name then [v] else [] := by
  unfold Document.valuesAt
  rw [List.filterMap_append]
  by_cases hname : key = name <;> simp [hk, hname]

/-- An entry with another key leaves a field as it is. -/
theorem Field.pass {key : String} (h : Field d name P read field) (hk : d.text? k = some key)
    (hne : key ≠ name) : Field d name P (read ++ [(k, v)]) field := by
  unfold Field
  rwa [valuesAt_append read hk, if_neg hne, List.append_nil]

/-- An entry with its key gives a field its value, if it has none. -/
theorem once_gives {x : Decoder α} (h : Field d name P read field) (hk : d.text? k = some name)
    (hx : Gives d x (P v)) :
    Gives d (once name field x) (Field d name P (read ++ [(k, v)])) := by
  cases field with
  | some a => exact .fail
  | none =>
    refine hx.map fun a ha => ?_
    unfold Field
    rw [valuesAt_append read hk, if_pos rfl, List.forall₂_nil_right_iff.1 h]
    exact .cons ha .nil

/-- A field that is there has one value. -/
theorem Field.present {entries : List (Node × Node)} {a : α} (h : Field d name P entries (some a)) :
    ∃ v, d.valuesAt name entries = [v] ∧ P v a := by
  obtain ⟨v, rest, hv, hrest, hvalues⟩ := List.forall₂_cons_right_iff.1 h
  cases List.forall₂_nil_right_iff.1 hrest
  exact ⟨v, hvalues, hv⟩

/-- A field that may be left out, with what then stands for it. -/
theorem Field.getD {entries : List (Node × Node)} (h : Field d name P entries field) (absent : α) :
    ∃ v : Option Node, d.valuesAt name entries = v.toList ∧
      v.elim (field.getD absent = absent) fun v => P v (field.getD absent) := by
  cases field with
  | none => exact ⟨none, List.forall₂_nil_right_iff.1 h, rfl⟩
  | some a =>
    obtain ⟨v, hvalues, hv⟩ := h.present
    exact ⟨some v, hvalues, hv⟩

end Field

/-! ### Rules -/

/-- What has been read of a rule. -/
structure RuleFields.Read (d : Document) (read : List (Node × Node)) (f : RuleFields) : Prop where
  table : Field d "table" (DeclaresMatcher d) read f.table
  schema : Field d "schema" (fun v s =>
    s.elim (d.meaning? v = some .null) (DeclaresMatcher d (d.resolve v))) read f.schema
  columns : Field d "columns" (fun v => List.Forall₂ (DeclaresColumn d) (d.entries v)) read
    f.columns

theorem ruleField_gives (depth : Nat) (read : List (Node × Node)) (f : RuleFields) (k v : Node)
    (name : String) (place : Place) (hf : f.Read d read) (hk : d.text? k = some name) :
    Gives d (ruleField depth f name place v) (RuleFields.Read d (read ++ [(k, v)])) := by
  unfold ruleField
  split
  · refine (once_gives hf.table hk (matcher_gives depth place v)).bind fun a ha => .pure ?_
    exact ⟨ha, hf.schema.pass hk (by decide), hf.columns.pass hk (by decide)⟩
  · have hschema := optional_gives (matcher_gives (d := d) depth place (d.resolve v))
    refine (once_gives hf.schema hk hschema).bind fun a ha => .pure ?_
    exact ⟨hf.table.pass hk (by decide), ha, hf.columns.pass hk (by decide)⟩
  · refine (once_gives hf.columns hk (columns_gives depth place v)).bind fun a ha => .pure ?_
    exact ⟨hf.table.pass hk (by decide), hf.schema.pass hk (by decide), ha⟩
  · rename_i htable hschema hcolumns
    exact .step fun _ => .pure
      ⟨hf.table.pass hk htable, hf.schema.pass hk hschema, hf.columns.pass hk hcolumns⟩

theorem rule_gives (depth : Nat) (place : Place) (n : Node) :
    Gives d (rule depth place n) (DeclaresRule d n) := by
  have hstart : RuleFields.Read d [] {} := ⟨field_start, field_start, field_start⟩
  refine .within <| (mapping_gives ruleField_gives hstart depth place n).bind fun f hf => ?_
  have htable := hf.table
  split
  · exact .fail
  · rename_i table heq
    rw [heq] at htable
    exact .pure ⟨htable.present, hf.schema.getD none, hf.columns.getD []⟩

/-! ### Configurations -/

/-- What has been read of a configuration. -/
structure ConfigFields.Read (d : Document) (read : List (Node × Node)) (f : ConfigFields) :
    Prop where
  strict : Field d "throw_on_unsupported" (fun v b => ∃ text, d.text? v = some text ∧
    Meaning.boolean? text = some b) read f.strict
  rules : Field d "rules" (fun v => List.Forall₂ (DeclaresRule d) (d.items v)) read f.rules

theorem configField_gives (depth : Nat) (read : List (Node × Node)) (f : ConfigFields) (k v : Node)
    (name : String) (place : Place) (hf : f.Read d read) (hk : d.text? k = some name) :
    Gives d (configField depth f name place v) (ConfigFields.Read d (read ++ [(k, v)])) := by
  unfold configField
  split
  · refine (once_gives hf.strict hk (boolean_gives place v)).bind fun a ha => .pure ?_
    exact ⟨ha, hf.rules.pass hk (by decide)⟩
  · refine (once_gives hf.rules hk (sequence_gives rule_gives depth place v)).bind fun a ha =>
      .pure ?_
    exact ⟨hf.strict.pass hk (by decide), ha⟩
  · rename_i hstrict hrules
    exact .step fun _ => .pure ⟨hf.strict.pass hk hstrict, hf.rules.pass hk hrules⟩

/-- What a configuration is read from declares it. -/
theorem ofYaml_declares {text : String} {c : Config} (h : Config.ofYaml text = .ok c) :
    Declares (Document.read text) c := by
  refine run_gives (P := Declares (Document.read text)) ?_ h
  have hstart : ConfigFields.Read (Document.read text) [] {} := ⟨field_start, field_start⟩
  refine .within <| (mapping_gives configField_gives hstart _ _ _).bind fun f hf => ?_
  exact .pure ⟨hf.strict.getD true, hf.rules.getD []⟩

end Config

end RowScope
