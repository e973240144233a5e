/-
The integers of a configuration, as statements get them.

A column value may be an integer of any size in the document, in any of the notations that are
integers there.  What a statement compares the column with depends on how large it is.  An
integer of 64 bits with a sign is written out.  One of 65 to 128 bits is refused.  One that has
64 bits only without a sign, or more than 128, has become a number of double precision on the
way, and that is written as the roundest integer nearest to it.  So the literal denotes the
integer of the document exactly if that has 64 bits or happens to be the one that abbreviates
it (`ofYaml_integers`).
-/
import RowScope.Guard
import RowScope.Proofs.Config.Policy
import RowScope.Proofs.Decimal.Shortest
import RowScope.Proofs.Yaml.Integer

namespace RowScope

open Decimal (Double)
open Decimal.Double (Abbreviates)
open Yaml

/-! ### What a literal denotes -/

namespace Sql.Value

/-- The number that a row of digits denotes. -/
def natural? (ds : List Char) : Option Nat :=
  if ds.isEmpty || !ds.all Char.isDigit then none else some (Double.digitsValue ds)

/-- The integer that a literal denotes: digits, behind a minus or not. -/
def denotes? : Value → Option Int
  | .number digits _ => match digits.toList with
    | '-' :: ds => (natural? ds).map fun (n : Nat) => -(n : Int)
    | ds => (natural? ds).map Int.ofNat
  | _ => none

theorem natural?_toDigits (n : Nat) : natural? (Nat.toDigits 10 n) = some n := by
  have hne : (Nat.toDigits 10 n).isEmpty = false := by
    rw [List.isEmpty_eq_false_iff]
    exact Nat.toDigits_ne_nil
  have hdigits : (Nat.toDigits 10 n).all Char.isDigit = true := by
    rw [List.all_eq_true]
    exact fun c hc => Nat.isDigit_of_mem_toDigits (by decide) (by decide) hc
  rw [natural?, hne, hdigits]
  exact congrArg some Nat.ofDigitChars_ten_toDigits

/-- An integer that is written out denotes itself. -/
theorem denotes?_toString (k : Int) (long : Bool) :
    (number (toString k) long).denotes? = some k := by
  cases k with
  | ofNat n =>
    have htext : (toString (Int.ofNat n)).toList = Nat.toDigits 10 n := by
      rw [Int.toString_eq_repr, Int.repr, Nat.toList_repr]
    unfold denotes?
    dsimp only
    rw [htext]
    split
    · rename_i ds hminus
      have hdigit : '-'.isDigit = true :=
        Nat.isDigit_of_mem_toDigits (b := 10) (n := n) (by decide) (by decide)
          (by rw [hminus]; exact List.mem_cons_self)
      cases hdigit
    · rw [natural?_toDigits]
      rfl
  | negSucc n =>
    have htext : (toString (Int.negSucc n)).toList = '-' :: Nat.toDigits 10 (n + 1) := by
      rw [Int.toString_eq_repr, Int.repr, String.toList_append, Nat.toList_repr]
      rfl
    unfold denotes?
    dsimp only
    rw [htext]
    show (natural? (Nat.toDigits 10 (n + 1))).map (fun (n : Nat) => -(n : Int)) = _
    rw [natural?_toDigits]
    rfl

end Sql.Value

/-! ### Integers as literals -/

namespace Config

open Meaning

variable {d : Document} {n : Node} {k : Int} {s : String} {v : Sql.Value}

/-- The literal that an integer, written as some text, has become. -/
inductive Rendered (k : Int) (s : String) : Sql.Value → Prop
  | exact (hk : fitsSigned 64 k = true) : Rendered k s (.number (toString k) false)
  /-- It has 64 bits without a sign, or more than 128. -/
  | abbreviated {n : Nat} (hk : fitsSigned 64 k = false)
      (hbits : fits 64 k = true ∨ fits 128 k = false)
      (hn : Abbreviates k.natAbs n) : Rendered k s (.number (toString (k.sign * n)) false)
  | text (hk : fits 128 k = false) : Rendered k s (.text s)

/-- What an integer of a document is for the literal of a column. -/
def RendersInteger (d : Document) (n : Node) (v : Sql.Value) : Prop :=
  ∀ k, d.integer? n = some k → (∃ s, d.text? n = some s ∧ Rendered k s v) ∧
    (v.denotes? = some k ↔
      fitsSigned 64 k = true ∨ (∃ digits, v = .number digits false) ∧
        Abbreviates k.natAbs k.natAbs)

theorem fitsSigned_iff (bits : Nat) : fitsSigned bits k = true ↔
    (k < 0 ∧ k.natAbs ≤ 2 ^ (bits - 1)) ∨ (¬k < 0 ∧ k.natAbs < 2 ^ (bits - 1)) := by
  unfold fitsSigned
  by_cases hneg : k < 0
  · rw [if_pos hneg, decide_eq_true_eq, Nat.pow_eq]
    tauto
  · rw [if_neg hneg, decide_eq_true_eq, Nat.pow_eq]
    tauto

theorem fits_iff (bits : Nat) : fits bits k = true ↔
    fitsSigned bits k = true ∨ (0 ≤ k ∧ k.natAbs < 2 ^ bits) := by
  rw [fits, fitsUnsigned, Bool.or_eq_true, Bool.and_eq_true, decide_eq_true_eq,
    decide_eq_true_eq, Nat.pow_eq]

/-- An integer that 64 bits are too few for, its sign being one, is large. -/
theorem natAbs_of_fitsSigned (h : fitsSigned 64 k = false) : 2 ^ 63 ≤ k.natAbs := by
  rw [← Bool.not_eq_true, fitsSigned_iff] at h
  omega

theorem fits_of_fits (h : fits 64 k = true) : fits 128 k = true := by
  rw [fits_iff, fitsSigned_iff] at h ⊢
  omega

theorem not_fitsSigned_of_wide (h : fits 128 k = false) : fitsSigned 64 k = false := by
  rw [← Bool.not_eq_true]
  intro hsigned
  rw [fits_of_fits ((fits_iff 64).mpr (.inl hsigned))] at h
  cases h

/-- A number of double precision abbreviates the integer that it is the nearest to. -/
theorem rendered_ofInt (hk : fitsSigned 64 k = false)
    (hbits : fits 64 k = true ∨ fits 128 k = false)
    (hfinite : (Double.ofInt k).isFinite = true) :
    Rendered k s (.number (Double.ofInt k).render false) := by
  obtain ⟨n, hn, hrender⟩ := Double.render_ofInt (natAbs_of_fitsSigned hk) hfinite
  rw [hrender]
  exact .abbreviated hk hbits hn

/-- An integer is denoted if it is written out, or if it is what it is abbreviated as. -/
theorem Rendered.denotes_iff (h : Rendered k s v) :
    v.denotes? = some k ↔
      fitsSigned 64 k = true ∨ (∃ digits, v = .number digits false) ∧
        Abbreviates k.natAbs k.natAbs := by
  cases h with
  | exact hk => exact iff_of_true (Sql.Value.denotes?_toString k false) (.inl hk)
  | @abbreviated n hk hbits hn =>
    have hlarge := natAbs_of_fitsSigned hk
    rw [Sql.Value.denotes?_toString, Option.some.injEq, hk]
    have hsame : k.sign * n = k ↔ n = k.natAbs := by
      by_cases hneg : k < 0
      · rw [Int.sign_eq_neg_one_of_neg hneg, Int.neg_one_mul]
        omega
      · rw [Int.sign_eq_one_of_pos (by omega), Int.one_mul]
        omega
    rw [hsame]
    constructor
    · intro heq
      rw [heq] at hn
      exact .inr ⟨⟨_, rfl⟩, hn⟩
    · rintro (hfalse | ⟨-, hself⟩)
      · cases hfalse
      · exact hn.unique hself
  | text hk =>
    have hsigned := not_fitsSigned_of_wide hk
    refine iff_of_false nofun ?_
    rintro (hfits | ⟨⟨digits, hnumber⟩, -⟩)
    · rw [hsigned] at hfits
      cases hfits
    · cases hnumber

theorem integer?_of_labelled {label : String} {w : Node} (h : d.labelled label n = [w]) :
    d.integer? n = none := by
  unfold Document.labelled Document.entries at h
  unfold Document.integer?
  cases hn : d.resolve n <;> simp [hn] at h ⊢

theorem DeclaresValue.rendered {v : Column.Value} (h : DeclaresValue d n v)
    (hk : d.integer? n = some k) : ∃ s, d.text? n = some s ∧ Rendered k s v.toSql := by
  obtain ⟨s, hs, hmeans⟩ := Document.ofWhole_of_integer? hk
  refine ⟨s, hs, ?_⟩
  cases h with
  | text hm =>
    cases hmeans _ hm with
    | text hfits => exact .text hfits
  | boolean hm => cases hmeans _ hm
  | integer hm hsigned =>
    cases hmeans _ hm with
    | integer => exact .exact hsigned
  | large hm hsigned hfits =>
    cases hmeans _ hm with
    | integer hwide =>
      exact rendered_ofInt hsigned (.inl hfits) (Double.isFinite_ofInt hfits)
  | float hm hfinite =>
    cases hmeans _ hm with
    | float hwide =>
      exact rendered_ofInt (not_fitsSigned_of_wide hwide) (.inr hwide) hfinite
  | placeholder hv =>
    rw [integer?_of_labelled hv] at hk
    cases hk

theorem DeclaresValue.rendersInteger {v : Column.Value} (h : DeclaresValue d n v) :
    RendersInteger d n v.toSql := by
  intro k hk
  obtain ⟨s, hs, hrendered⟩ := h.rendered hk
  exact ⟨⟨s, hs, hrendered⟩, hrendered.denotes_iff⟩

/-- What the integers of a document are for the literals of a rule, whatever it is applied to. -/
def RendersIntegers (d : Document) (n : Node) (r : Rule) : Prop :=
  ∀ subject, List.Forall₂ (fun e column => RendersInteger d e.2 column.2) (d.columnEntries n)
    (r.mapping.columnsFor subject)

theorem DeclaresRule.rendersIntegers {r : DeclaredRule} (h : DeclaresRule d n r) :
    RendersIntegers d n r.toRule := by
  intro subject
  show List.Forall₂ _ _ r.columns.toColumns
  rw [DeclaredColumns.toColumns, Columns.ofPairs, List.map_map, List.forall₂_map_right_iff]
  exact h.columnEntries.imp fun _ _ hc => hc.value.rendersInteger

/-- The condition of a rule that is declared compares the column of some entry. -/
theorem DeclaresRule.equalities {r : DeclaredRule} (h : DeclaresRule d n r) {b : Sql.Select}
    {e : Sql.Expr} (he : e ∈ r.toRule.equalities b) :
    ∃ entry ∈ d.columnEntries n, ∃ name column v,
      e = .binary (.path (name ++ [column])) .eq (.value v) ∧
        d.text? entry.1 = some column.value ∧ RendersInteger d entry.2 v := by
  obtain ⟨name, column, hcolumn, rfl⟩ := exists_of_mem_equalities he
  obtain ⟨entry, hentry, hdeclares⟩ := exists_of_mem_right h.columnEntries hcolumn
  refine ⟨entry, hentry, name, _, _, rfl, ?_, hdeclares.value.rendersInteger⟩
  rw [ident_value]
  exact hdeclares.name

/-- Integers of all sizes, in several notations. -/
def integersText : String :=
  "rules:\n  - table: t\n    columns:\n      a: -0x2A\n      b: 10000000000000000000\n"
    ++ "      c: 18446744073709551615\n      d: -340282366920938463463374607431768211456\n"
    ++ "      e: 0x100000000000000000000000000000000\n"

theorem integersText_accepted : ∃ c, Config.ofYaml integersText = .ok c ∧
    c.rules.map (fun r => r.columns.toColumns.map Prod.snd)
      = [[.number "-42" false, .number "10000000000000000000" false,
        .number "18446744073709552000" false,
        .number "-340282366920938500000000000000000000000" false,
        .text "0x100000000000000000000000000000000"]] := by
  apply ofYaml_accepted
  decide +kernel

end Config

/--
The integers that a configuration gives to columns.  The literal of an integer, in a rule and
so in the conditions that statements get, is the integer itself if that has 64 bits with its
sign.  If it has more bits than that and is accepted all the same, the literal is the integer
that abbreviates it, or its text.  So the literal denotes the integer exactly if 64 bits are
enough for it, or it is written as a number and abbreviates itself.
-/
theorem Config.ofYaml_integers {text : String} {c : Config} (h : Config.ofYaml text = .ok c) :
    List.Forall₂ (RendersIntegers (Document.read text)) (Document.read text).ruleNodes
      c.policy.rules ∧
    ∀ s t, (c.policy.enforce s).result = .ok t →
      List.Forall₂ (fun before after : Sql.Select =>
          ∃ es rest, after.operands = es ++ rest ∧ rest.length = before.operands.length ∧
            ∀ e ∈ es, ∃ n ∈ (Document.read text).ruleNodes,
              ∃ entry ∈ (Document.read text).columnEntries n, ∃ name column v,
                e = .binary (.path (name ++ [column])) .eq (.value v) ∧
                  (Document.read text).text? entry.1 = some column.value ∧
                  RendersInteger (Document.read text) entry.2 v)
        s.selects t.selects := by
  have hdeclares := (ofYaml_declares h).ruleNodes
  constructor
  · rw [Config.policy, List.forall₂_map_right_iff]
    exact hdeclares.imp fun _ _ hr => hr.rendersIntegers
  · intro s t ht
    rw [Policy.enforce, Policy.enforceRules_result, Enforcement.settle_eq_ok] at ht
    obtain ⟨-, rfl⟩ := ht
    refine (Enforcement.selects_framed c.policy.rules s).imp fun before after hframed => ?_
    obtain ⟨es, rest, hoperands, hlength, hes⟩ := hframed.operands
    refine ⟨es, rest, hoperands, hlength, fun e he => ?_⟩
    obtain ⟨r, hr, b, hb⟩ := hes e he
    obtain ⟨declared, hdeclared, rfl⟩ := List.mem_map.1 hr
    obtain ⟨n, hn, hrule⟩ := exists_of_mem_right hdeclares hdeclared
    exact ⟨n, hn, hrule.equalities hb⟩

theorem Config.ofYaml_integers_sizes :
    (((Document.read integersText).ruleNodes.flatMap
        (Document.read integersText).columnEntries).map fun e =>
          (Document.read integersText).integer? e.2)
      = [some (-42), some (10 ^ 19), some (2 ^ 64 - 1), some (-2 ^ 128), some (2 ^ 128)] ∧
    ∃ c, Config.ofYaml integersText = .ok c ∧
      c.rules.map (fun r => r.columns.toColumns.map Prod.snd)
        = [[.number "-42" false, .number "10000000000000000000" false,
          .number "18446744073709552000" false,
          .number "-340282366920938500000000000000000000000" false,
          .text "0x100000000000000000000000000000000"]] ∧
      List.Forall₂ (RendersIntegers (Document.read integersText))
        (Document.read integersText).ruleNodes c.policy.rules := by
  refine ⟨by decide +kernel, ?_⟩
  obtain ⟨c, hc, hcolumns⟩ := integersText_accepted
  exact ⟨c, hc, hcolumns, (Config.ofYaml_integers hc).1⟩

/-- The largest integer of 64 bits, as a column value. -/
def largeText : String :=
  "rules:\n  - table: orders\n    columns: \x7btenant_id: 18446744073709551615\x7d"

/-- It is accepted, and statements compare the column with another integer. -/
theorem Config.ofYaml_alters_integer :
    (((Document.read largeText).ruleNodes.flatMap
        (Document.read largeText).columnEntries).map fun e =>
          (Document.read largeText).integer? e.2)
      = [some 18446744073709551615] ∧
    ∃ c, Config.ofYaml largeText = .ok c ∧
      c.rules.map (fun r => r.columns.toColumns.map fun column => column.2.denotes?)
        = [[some 18446744073709552000]] ∧
      (({ policy := c.policy } : Guard).enforce "SELECT * FROM orders").2.toOption
        = some "SELECT * FROM orders WHERE orders.tenant_id = 18446744073709552000" := by
  have hread : ((Config.ofYaml largeText).toOption.map fun c =>
      (c.rules.map (fun r => r.columns.toColumns.map fun column => column.2.denotes?),
        (({ policy := c.policy } : Guard).enforce "SELECT * FROM orders").2.toOption))
      = some ([[some 18446744073709552000]],
        some "SELECT * FROM orders WHERE orders.tenant_id = 18446744073709552000") := by
    decide +kernel
  obtain ⟨c, hc, hread⟩ := ofYaml_accepted hread
  obtain ⟨hdenotes, hout⟩ := Prod.mk.inj hread
  exact ⟨by decide +kernel, c, hc, hdenotes, hout⟩

end RowScope
