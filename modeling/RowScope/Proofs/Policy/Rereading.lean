/-
What the text of a filter is read as.

The tree of a filter does not reach the database, its text does.  There AND joins from the
left, whatever the tree looks like: the conditions of a later rule stand in front of those of
an earlier one as a left operand of their own, and no parentheses are written between them.
That is harmless as long as the text is read with the same operands of AND, in the same order.

It is not read so for every filter that is read back alone.  Behind AND an expression stands
one level further down, ANY, ALL and SOME are no names, and in parentheses `select = 1 OR b`
is the beginning of a query; and the text of a bind parameter is whatever it was declared to
be, so it may be an operator that takes the AND behind it as well.
`Leads` and `Trails` say what it takes to stand in front of AND and behind it.
-/
import RowScope.Proofs.Policy.Grouping
import RowScope.Proofs.Sql.Equality
import RowScope.Proofs.Sql.Grammar.Conjunction

namespace RowScope.Sql

open Grammar

/-! ### Reading back -/

/-- The filter of a SELECT, if it has one. -/
def Grammar.filterClause : Grammar (Option Expr) := do
  if ← keyword "WHERE" then some <$> expr else pure none

/-- What the text of a filter is read as, with nothing left over. -/
def Expr.reread (depth : Nat) (e : Expr) : Option Expr := do
  let tokens ← Token.read .postgres (renderFilter (some e))
  match filterClause (Level.ofDepth .postgres depth) tokens with
  | .ok (filter, []) => filter
  | _ => none

/-- The tokens of the text of a filter, behind its keyword. -/
def Expr.Spells (e : Expr) (ts : List Lexeme) : Prop :=
  Token.read .postgres (renderFilter (some e)) = some (Token.whereLexeme :: ts)

instance (e : Expr) (ts : List Lexeme) : Decidable (e.Spells ts) :=
  inferInstanceAs (Decidable (_ = _))

theorem toList_renderFilter (e : Expr) :
    (renderFilter (some e)).toList = " WHERE".toList ++ ' ' :: e.render.toList := by
  rw [renderFilter, String.toList_append]
  rfl

theorem spells_iff {e : Expr} {ts : List Lexeme} :
    e.Spells ts ↔ Token.Cuts false true e.render.toList ts := by
  rw [Expr.Spells, Token.read_eq_some, toList_renderFilter, Token.cuts_where]
  constructor
  · rintro ⟨us, heq, hcuts⟩
    cases heq
    exact hcuts
  · exact fun hcuts => ⟨ts, rfl, hcuts⟩

theorem reread_eq_some {depth : Nat} {e f : Expr} :
    e.reread depth = some f ↔
      ∃ ts, e.Spells ts ∧ exprAbove 0 (Level.ofDepth .postgres depth) ts = .ok (f, []) := by
  have hclause : ∀ ts, filterClause (Level.ofDepth .postgres depth) (Token.whereLexeme :: ts)
      = (exprAbove 0 >>= fun e => pure (some e) : Grammar (Option Expr))
        (Level.ofDepth .postgres depth) ts := fun _ => rfl
  constructor
  · intro h
    obtain ⟨tokens, htokens, h⟩ := Option.bind_eq_some_iff.mp h
    have hcuts := Token.read_eq_some.mp htokens
    rw [toList_renderFilter, Token.cuts_where] at hcuts
    obtain ⟨ts, rfl, -⟩ := hcuts
    refine ⟨ts, htokens, ?_⟩
    rw [hclause] at h
    split at h
    · rename_i filter hrun
      obtain ⟨e', rest, he', heq⟩ := of_bind hrun
      cases heq
      cases h
      exact he'
    · cases h
  · rintro ⟨ts, hts, hrun⟩
    refine Option.bind_eq_some_iff.mpr ⟨_, hts, ?_⟩
    rw [hclause, bind_of_ok hrun]
    rfl

/-! ### The text of a conjunction -/

/-- Texts with AND between them, as characters. -/
def conjoined (ps : List Expr) (last : List Char) : List Char :=
  ps.foldr (fun p rest => p.render.toList ++ ' ' :: ("AND".toList ++ ' ' :: rest)) last

theorem conjoined_append (ps qs : List Expr) (last : List Char) :
    conjoined (ps ++ qs) last = conjoined ps (conjoined qs last) :=
  List.foldr_append

theorem conjoined_lead (ps : List Expr) (front rest : List Char) :
    conjoined ps (front ++ rest) = conjoined ps front ++ rest := by
  induction ps with
  | nil => rfl
  | cons p ps ih =>
    simp only [conjoined, List.foldr_cons] at ih ⊢
    rw [ih, List.append_assoc, List.cons_append, List.append_assoc, List.cons_append]

/-- However AND joins its operands, the text is theirs with AND between them. -/
theorem toList_render_joins {f : Expr} {zs : List Expr} (h : f.Joins zs) :
    ∃ ps w, zs = ps ++ [w] ∧ f.render.toList = conjoined ps w.render.toList := by
  induction h with
  | operand e => exact ⟨[], e, rfl, rfl⟩
  | and _ _ ihl ihr =>
    rename_i left right ls rs _ _
    obtain ⟨ps, l, rfl, hl⟩ := ihl
    obtain ⟨qs, r, rfl, hr⟩ := ihr
    refine ⟨ps ++ [l] ++ qs, r, (List.append_assoc _ _ _).symm, ?_⟩
    have hrender : (Expr.binary left .and right).render.toList
        = left.render.toList ++ ' ' :: ("AND".toList ++ ' ' :: right.render.toList) := by
      rw [Expr.render]
      simp only [String.toList_append, BinaryOp.render]
      simp
    rw [hrender, hl, hr, conjoined_append, conjoined_append, ← conjoined_lead]
    rfl

/-- The tokens of texts with AND between them. -/
theorem cuts_conjoined {ps : List Expr} {tss : List (List Lexeme)}
    (h : List.Forall₂ (fun p ts => Token.Cuts false true p.render.toList ts ∧
      Token.Cuts false true (p.render.toList ++ ' ' :: "AND".toList) (ts ++ [Token.andLexeme]))
      ps tss) {last : List Char} {us : List Lexeme} (hlast : Token.Cuts false true last us) :
    Token.Cuts false true (conjoined ps last) (joined tss us) := by
  induction h with
  | nil => exact hlast
  | cons hfirst _ ih => exact hfirst.1.and hfirst.2 ih

/-! ### Conditions in front of a filter -/

/--
A condition that can stand in front of AND: a name, an equals sign and a closed operand, which
do not end within a comment.  It is read back with the same text, on the next level down as well.
-/
structure Expr.Leads (depth : Nat) (p : Expr) : Prop where
  equation : ∃ ts, Equation ts ∧ p.Spells ts ∧
    Token.read .postgres (renderFilter (some p) ++ " AND")
      = some (Token.whereLexeme :: (ts ++ [Token.andLexeme]))
  same : (p.reread (depth + 1)).map Expr.render = some p.render
  deeper : (p.reread depth).map Expr.render = some p.render

/--
A filter that can stand behind AND: it is read back, and its first operand of AND is not
nested too deep for one level less.
-/
structure Expr.Trails (depth : Nat) (w : Expr) : Prop where
  same : w.reread (depth + 1) = some w
  deeper : ∃ ts, w.Spells ts ∧ exprAbove 20 (Level.ofDepth .postgres depth) ts
    = exprAbove 20 (Level.ofDepth .postgres (depth + 1)) ts

/-- The text begins with a keyword that stands for a set of operands behind an operator. -/
def Expr.OpensSet (e : Expr) : Prop := ∃ ts, e.Spells ts ∧ quantified ts = true

/-- Conditions and a filter whose texts can be joined by AND. -/
structure Joinable (depth : Nat) (ps : List Expr) (w : Expr) : Prop where
  leads : ∀ p ∈ ps, p.Leads depth
  trails : w.Trails depth
  plain : ∀ e ∈ (ps ++ [w]).tail, ¬e.OpensSet

theorem Expr.Spells.unique {e : Expr} {ts us : List Lexeme} (hts : e.Spells ts)
    (hus : e.Spells us) : ts = us := by
  rw [Expr.Spells, hts] at hus
  cases hus
  rfl

theorem Expr.Spells.not_opensSet_iff {e : Expr} {ts : List Lexeme} (hts : e.Spells ts) :
    ¬e.OpensSet ↔ quantified ts = false := by
  rw [← Bool.not_eq_true, not_iff_not]
  constructor
  · rintro ⟨us, hus, h⟩
    rwa [hts.unique hus]
  · exact fun h => ⟨ts, hts, h⟩

/-- The tokens of a condition, alone and in front of AND. -/
theorem Expr.Leads.cuts {depth : Nat} {p : Expr} (h : p.Leads depth) :
    ∃ ts, p.Spells ts ∧ Equation ts ∧ Token.Cuts false true p.render.toList ts ∧
      Token.Cuts false true (p.render.toList ++ ' ' :: "AND".toList)
        (ts ++ [Token.andLexeme]) := by
  obtain ⟨ts, hequation, hts, hclosed⟩ := h.equation
  refine ⟨ts, hts, hequation, spells_iff.mp hts, ?_⟩
  have htext : (renderFilter (some p) ++ " AND").toList
      = " WHERE".toList ++ ' ' :: (p.render.toList ++ ' ' :: "AND".toList) := by
    rw [String.toList_append, toList_renderFilter, List.append_assoc, List.cons_append]
    rfl
  rw [Token.read_eq_some, htext, Token.cuts_where] at hclosed
  obtain ⟨us, heq, hcuts⟩ := hclosed
  cases heq
  exact hcuts

/-- What conditions behind AND are read as. -/
theorem exists_readings {depth : Nat} {ps : List Expr} (hleads : ∀ p ∈ ps, p.Leads depth)
    (hplain : ∀ p ∈ ps, ¬p.OpensSet) :
    ∃ tss es,
      List.Forall₂ (fun p ts => Token.Cuts false true p.render.toList ts ∧
        Token.Cuts false true (p.render.toList ++ ' ' :: "AND".toList) (ts ++ [Token.andLexeme]))
        ps tss ∧
      List.Forall₂ (fun ts e => Equation ts ∧ quantified ts = false ∧
        exprAbove 0 (Level.ofDepth .postgres depth) ts = .ok (e, [])) tss es ∧
      es.map Expr.render = ps.map Expr.render := by
  induction ps with
  | nil => exact ⟨[], [], .nil, .nil, rfl⟩
  | cons p ps ih =>
    obtain ⟨tss, es, hcuts, hreadings, hrender⟩ :=
      ih (fun q hq => hleads q (List.mem_cons_of_mem p hq))
        (fun q hq => hplain q (List.mem_cons_of_mem p hq))
    have hlead := hleads p List.mem_cons_self
    obtain ⟨ts, hts, hequation, hcut⟩ := hlead.cuts
    obtain ⟨q, hq, hsame⟩ := Option.map_eq_some_iff.mp hlead.deeper
    obtain ⟨us, hus, hrun⟩ := reread_eq_some.mp hq
    obtain rfl := hts.unique hus
    have hplain' := hts.not_opensSet_iff.mp (hplain p List.mem_cons_self)
    refine ⟨ts :: tss, q :: es, .cons hcut hcuts, .cons ⟨hequation, hplain', hrun⟩ hreadings, ?_⟩
    rw [List.map_cons, List.map_cons, hsame, hrender]

/--
The text of conditions in front of a filter is read as AND over the conditions and the
operands of the filter, however the tree is nested.
-/
theorem reread_joins {depth : Nat} {p w f : Expr} {ps : List Expr} (hf : f.Joins (p :: ps ++ [w]))
    (hw : ¬w.Loose) (h : Joinable depth (p :: ps) w) :
    ∃ e, f.reread (depth + 1) = some e ∧
      e.conjuncts.map Expr.render = (p :: ps).map Expr.render ++ w.conjuncts.map Expr.render := by
  have hplain : ∀ e ∈ ps ++ [w], ¬e.OpensSet := h.plain
  obtain ⟨ts, hts, hequation, hcut⟩ := (h.leads p List.mem_cons_self).cuts
  obtain ⟨q, hq, hsame⟩ := Option.map_eq_some_iff.mp (h.leads p List.mem_cons_self).same
  obtain ⟨us, hus, hrun⟩ := reread_eq_some.mp hq
  obtain rfl := hts.unique hus
  obtain ⟨tss, es, hcuts, hreadings, hrender⟩ :=
    exists_readings (fun q hq => h.leads q (List.mem_cons_of_mem p hq))
      (fun q hq => hplain q (List.mem_append_left _ hq))
  obtain ⟨last, hlast, hagain⟩ := reread_eq_some.mp h.trails.same
  obtain ⟨last', hlast', hdeeper⟩ := h.trails.deeper
  obtain rfl := hlast.unique hlast'
  have hquantified :=
    hlast.not_opensSet_iff.mp (hplain w (List.mem_append_right _ List.mem_cons_self))
  obtain ⟨e, he, hconjuncts⟩ :=
    expr_joined hagain hdeeper hquantified hw hequation hrun hreadings
  have hspells : f.Spells (joined (ts :: tss) last) := by
    obtain ⟨ps', w', heq, htext⟩ := toList_render_joins hf
    obtain ⟨rfl, hlast'⟩ := List.append_inj' heq rfl
    cases hlast'
    rw [spells_iff, htext]
    exact cuts_conjoined (.cons hcut hcuts) (spells_iff.mp hlast)
  refine ⟨e, reread_eq_some.mpr ⟨_, hspells, he⟩, ?_⟩
  rw [hconjuncts, List.map_append, List.map_cons, List.map_cons, hsame, hrender]

end RowScope.Sql

namespace RowScope

open Sql Enforcement

/-! ### Filters that are narrowed -/

/-- The texts of the operands that a filter is behind conditions. -/
def Sql.Expr.operandTexts (w : Expr) : List String :=
  if w.Loose then ["(" ++ w.render ++ ")"] else w.conjuncts.map Expr.render

/-- The text of a filter is read as AND over operands with some texts. -/
def Sql.Expr.RereadsAs (depth : Nat) (f : Expr) (texts : List String) : Prop :=
  (f.reread depth).map (fun e => e.conjuncts.map Expr.render) = some texts

instance (depth : Nat) (f : Expr) (texts : List String) : Decidable (f.RereadsAs depth texts) :=
  inferInstanceAs (Decidable (_ = _))

namespace Enforcement

theorem operandTexts_eq (w : Expr) : w.operandTexts = w.grouped.conjuncts.map Expr.render := by
  unfold Expr.operandTexts Expr.grouped
  split
  · rw [conjuncts_of_topOp? (by simp [Expr.topOp?]), List.map_singleton, Expr.render]
  · rfl

theorem rereadsAs_of_joins {depth : Nat} {ps : List Expr} {w f : Expr} (hps : ps ≠ [])
    (hf : f.Joins (ps ++ [w.grouped])) (h : Joinable depth ps w.grouped) :
    f.RereadsAs (depth + 1) (ps.map Expr.render ++ w.operandTexts) := by
  cases ps with
  | nil => exact absurd rfl hps
  | cons p ps =>
    obtain ⟨e, he, hconjuncts⟩ := reread_joins hf (not_loose_grouped w) h
    rw [Expr.RereadsAs, he, operandTexts_eq]
    exact congrArg some hconjuncts

end Enforcement

/--
Conditions and a filter whose texts can be joined by AND are read back as they stand: first
the conditions, then the operands of the filter, or the filter in parentheses if its own
operator is OR or XOR.  This is so for conditions in front of any filter, and for each SELECT
of a statement that rules with fixed columns are enforced on, however many they are.
-/
theorem Policy.enforce_rereads :
    (∀ {depth : Nat} {ps : List Expr} {w : Expr}, ps ≠ [] → Joinable depth ps w.grouped →
      ∃ f, narrow ps (some w) = some f ∧
        f.RereadsAs (depth + 1) (ps.map Expr.render ++ w.operandTexts)) ∧
    ∀ {p : Policy}, ConstantRules p.rules → ∀ {s t : Statement}, (p.enforce s).result = .ok t →
      List.Forall₂ (fun before after => ∃ inner,
          p.rules.foldlM (fun b r => (b.walk (r.visitor p.strict)).result) before = .ok inner ∧
          ∀ depth w, inner.filter = some w → stacked p.rules before ≠ [] →
            Joinable depth (stacked p.rules before) w.grouped →
            ∃ f, after.filter = some f ∧ f.RereadsAs (depth + 1)
              ((stacked p.rules before).map Expr.render ++ w.operandTexts))
        s.selects t.selects := by
  constructor
  · intro depth ps w hps h
    cases ps with
    | nil => exact absurd rfl hps
    | cons p ps =>
      have hjoins := joins_foldl_snoc (.operand w.grouped) p ps
      exact ⟨_, narrow_cons p ps (some w), rereadsAs_of_joins hps hjoins h⟩
  · intro p hconstant s t ht
    refine (selects_narrowed hconstant ht).imp ?_
    rintro before after ⟨-, hinner, hnarrowed⟩
    refine ⟨_, hinner, fun depth w hw hps h => ?_⟩
    obtain ⟨f, hf, hjoins⟩ := hnarrowed.filter hps hw
    exact ⟨f, hf, rereadsAs_of_joins hps hjoins h⟩

/-- Two rules in front of an OR, one of them with a bind parameter that is cast. -/
theorem Policy.enforce_rereads_grouped :
    let teamRule : Rule :=
      ⟨⟨.exact "orders", none⟩, .constant [(.bare "team", .placeholder "$1::UUID")]⟩
    let p : Policy := ⟨[ordersRule, teamRule], true⟩
    let team : Expr :=
      .binary (.path [.bare "orders", .bare "team"]) .eq (.value (.placeholder "$1::UUID"))
    let tenant : Expr :=
      .binary (.path [.bare "orders", .bare "tenant_id"]) .eq (.value (.text "acme"))
    let filter : Expr := .binary (.ident (.bare "open")) .or
      (.binary (.ident (.bare "kind")) .eq (.value (.number "1" false)))
    let query : Statement := .query ⟨[], .select (fromOrders (some filter)), []⟩
    let texts := ["orders.team = $1::UUID", "orders.tenant_id = 'acme'", "(open OR kind = 1)"]
    ConstantRules p.rules ∧ stacked p.rules (fromOrders (some filter)) = [team, tenant] ∧
    Joinable 47 [team, tenant] filter.grouped ∧
    (∃ f, narrow [team, tenant] (some filter) = some f ∧ f.RereadsAs 48 texts) ∧
    ∃ t, (p.enforce query).result = .ok t ∧
      t.render = "SELECT * FROM orders WHERE orders.team = $1::UUID"
        ++ " AND orders.tenant_id = 'acme' AND (open OR kind = 1)" ∧
      List.Forall₂ (fun _ after => ∃ f, after.filter = some f ∧ f.RereadsAs 48 texts)
        query.selects t.selects := by
  intro teamRule p team tenant filter query texts
  have hconstant : ConstantRules p.rules :=
    constantRules_cons rfl (constantRules_cons rfl constantRules_nil)
  have hteam : team.Spells [⟨.word "orders" none "ORDERS", true⟩, ⟨.symbol ".", false⟩,
      ⟨.word "team" none "TEAM", false⟩, ⟨.symbol "=", true⟩, ⟨.literal (.placeholder "$1"), true⟩,
      ⟨.symbol "::", false⟩, ⟨.word "UUID" none "UUID", false⟩] := by decide +kernel
  have htenant : tenant.Spells [⟨.word "orders" none "ORDERS", true⟩, ⟨.symbol ".", false⟩,
      ⟨.word "tenant_id" none "TENANT_ID", false⟩, ⟨.symbol "=", true⟩,
      ⟨.literal (.text "acme"), true⟩] := by decide +kernel
  have hfilter : filter.grouped.Spells [⟨.symbol "(", true⟩, ⟨.word "open" none "OPEN", false⟩,
      ⟨.word "OR" none "OR", true⟩, ⟨.word "kind" none "KIND", true⟩, ⟨.symbol "=", true⟩,
      ⟨.literal (.number "1" false), true⟩, ⟨.symbol ")", false⟩] := by decide +kernel
  have hbound : Grammar.Constant [⟨.literal (.placeholder "$1"), true⟩, ⟨.symbol "::", false⟩,
      ⟨.word "UUID" none "UUID", false⟩] := .cast .literal (.cons .nil)
  have htext : Grammar.Constant [⟨.literal (.text "acme"), true⟩] := .cast .literal .nil
  have hjoinable : Joinable 47 [team, tenant] filter.grouped := {
    leads := by
      intro e he
      rcases List.mem_cons.mp he with rfl | he
      · exact ⟨⟨_, .mk (.cons .nil) hbound.closed, hteam, by decide +kernel⟩, by decide +kernel,
          by decide +kernel⟩
      · rw [List.mem_singleton.mp he]
        exact ⟨⟨_, .mk (.cons .nil) htext.closed, htenant, by decide +kernel⟩, by decide +kernel,
          by decide +kernel⟩
    trails := ⟨by decide +kernel, _, hfilter, by decide +kernel⟩
    plain := by
      intro e he
      rcases List.mem_cons.mp he with rfl | he
      · exact htenant.not_opensSet_iff.mpr rfl
      · rw [List.mem_singleton.mp he]
        exact hfilter.not_opensSet_iff.mpr rfl }
  have hne : [team, tenant] ≠ [] := List.cons_ne_nil team [tenant]
  obtain ⟨hnarrow, henforce⟩ := Policy.enforce_rereads
  refine ⟨hconstant, rfl, hjoinable, hnarrow hne hjoinable, _, rfl, rfl, ?_⟩
  have hselects := henforce hconstant (s := query) rfl
  change List.Forall₂ _ [fromOrders (some filter)] [_] at hselects
  obtain ⟨⟨inner, hinner, hreread⟩, -⟩ := List.forall₂_cons.mp hselects
  cases hinner
  exact .cons (hreread 47 filter rfl hne hjoinable) .nil

/--
Conditions and filters that are read back alone, but not with AND between them: a name that
is a keyword behind AND, one that begins a query in parentheses, a bind parameter whose text
is an operator, and a nesting as deep as it may be.
-/
theorem Policy.narrow_not_reread :
    let tenant : Expr := .binary (.path [.bare "o", .bare "t"]) .eq (.value (.text "a"))
    let bound : Expr := .binary (.path [.bare "o", .bare "t"]) .eq
      (.value (.placeholder "NOT x IS DISTINCT FROM y"))
    let one : Expr := .value (.number "1" false)
    let b : Expr := .ident (.bare "b")
    (∀ i ∈ [(48, tenant, .binary (.ident (.bare "any")) .eq one),
        (48, tenant, .binary (.binary (.ident (.bare "select")) .eq one) .or b),
        (48, bound, b), (4, tenant, .nested (.nested (.nested b)))],
      let (depth, p, w) := i
      w.reread depth = some w ∧ (p.reread depth).map Expr.render = some p.render ∧
        (p.reread depth).bind Expr.topOp? = some .eq ∧
        ∀ f ∈ narrow [p] (some w), ¬f.RereadsAs depth (p.render :: w.operandTexts)) ∧
    ∃ ss s t, Statement.parse .postgres "SELECT * FROM orders WHERE any = 1" = .ok ss ∧ s ∈ ss ∧
      (Policy.enforce ⟨[ordersRule], true⟩ s).result = .ok t ∧
      t.render = "SELECT * FROM orders WHERE orders.tenant_id = 'acme' AND any = 1" ∧
      Statement.parse .postgres t.render = .error .unexpected := by
  refine ⟨by decide +kernel, ?_⟩
  obtain ⟨ss, s, t, hsql, hs, ht, hcheck⟩ := exists_enforced ⟨[ordersRule], true⟩ .postgres
    "SELECT * FROM orders WHERE any = 1"
    (fun _ t => t.render == "SELECT * FROM orders WHERE orders.tenant_id = 'acme' AND any = 1")
    (by decide +kernel)
  have hrender := eq_of_beq hcheck
  refine ⟨ss, s, t, hsql, hs, ht, hrender, ?_⟩
  rw [hrender]
  decide +kernel

end RowScope
