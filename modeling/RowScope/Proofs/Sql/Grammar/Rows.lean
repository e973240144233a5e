/-
Calls that yield rows, by the keyword in front of them.

LATERAL and TABLE announce a call in every dialect, UNNEST in some.  What is read behind one
of them is never a table in the tree (`source_isNamed`).  A call without such a keyword is read
as a table with arguments, and the tree is then that of a table.
-/
import RowScope.Proofs.Sql.Grammar.Settles

namespace RowScope.Sql

/-- Whether a relation is a table, or a call that is written like one. -/
def Relation.isNamed : Relation → Bool
  | .table .. => true
  | _ => false

namespace Grammar

/-- Whether tokens start with a keyword that announces a call. -/
def opensCall (d : Dialect) (tokens : List Lexeme) : Bool :=
  let next := tokens.head?.map Lexeme.token
  isKeyword "LATERAL" next || isKeyword "TABLE" next || (d.unnests && isKeyword "UNNEST" next)

variable {level : Level} {tokens rest : List Lexeme} {key : String}

/-! ### Keywords -/

theorem keyword_apply (key : String) (level : Level) (tokens : List Lexeme) :
    keyword key level tokens
      = if isKeyword key (tokens.head?.map Lexeme.token) then .ok (true, tokens.drop 1)
        else .ok (false, tokens) := by
  have hrun : keyword key level tokens
      = (if isKeyword key (tokens[0]?.map Lexeme.token) then
          (skip >>= fun _ => pure true : Grammar Bool) else pure false) level tokens := rfl
  rw [hrun, ← List.head?_eq_getElem?]
  split <;> rfl

/-- A keyword that is not taken is not next. -/
theorem keyword_eq_false {mid : List Lexeme} (h : keyword key level tokens = .ok (false, mid)) :
    isKeyword key (tokens.head?.map Lexeme.token) = false ∧ mid = tokens := by
  rw [keyword_apply] at h
  split at h
  · cases h
  · cases h
    exact ⟨(Bool.not_eq_true _).mp ‹_›, rfl⟩

theorem of_isKeyword (h : isKeyword key (tokens.head?.map Lexeme.token) = true) :
    ∃ text spaced ts, tokens = ⟨.word text none key, spaced⟩ :: ts := by
  match tokens with
  | ⟨.word text none k, spaced⟩ :: ts =>
    rw [← eq_of_beq (h : (k == key) = true)]
    exact ⟨text, spaced, ts, rfl⟩
  | ⟨.word text (some _) k, spaced⟩ :: ts => cases h
  | ⟨.literal _, _⟩ :: _ | ⟨.symbol _, _⟩ :: _ | [] => cases h

/-! ### Items -/

theorem lateralItem_isNamed {r : Relation} (h : lateralItem level tokens = .ok (r, rest)) :
    r.isNamed = false := by
  unfold lateralItem derivedTable at h
  obtain ⟨opened, mid, -, h⟩ := of_bind h
  by_cases hopened : opened = true
  · rw [if_pos hopened] at h
    obtain ⟨q, mid, -, h⟩ := of_bind h
    obtain ⟨_, mid, -, h⟩ := of_bind h
    obtain ⟨aliased, mid, -, h⟩ := of_bind h
    cases h
    rfl
  · rw [if_neg hopened] at h
    obtain ⟨name, mid, -, h⟩ := of_bind h
    obtain ⟨_, mid, -, h⟩ := of_bind h
    obtain ⟨arguments, mid, -, h⟩ := of_bind h
    obtain ⟨aliased, mid, -, h⟩ := of_bind h
    cases h
    rfl

theorem unnestItem_isNamed {r : Relation} (h : unnestItem level tokens = .ok (r, rest)) :
    r.isNamed = false := by
  unfold unnestItem at h
  obtain ⟨arrays, mid, -, h⟩ := of_bind h
  obtain ⟨ordinality, mid, -, h⟩ := of_bind h
  obtain ⟨aliased, mid, -, h⟩ := of_bind h
  cases h
  rfl

/-- What is read behind such a keyword is no table. -/
theorem relation_isNamed {r : Relation} (h : relation level tokens = .ok (r, rest))
    (hcall : opensCall level.dialect tokens = true) : r.isNamed = false := by
  have hrun : relation level tokens = relationUpTo (tokens.length + 1) level tokens := rfl
  rw [hrun, relationUpTo] at h
  obtain ⟨lateral, mid, hlateral, h⟩ := of_bind h
  by_cases hl : lateral = true
  · rw [if_pos hl] at h
    exact lateralItem_isNamed h
  rw [if_neg hl] at h
  rw [(Bool.not_eq_true _).mp hl] at hlateral
  obtain ⟨hlateral, rfl⟩ := keyword_eq_false hlateral
  obtain ⟨table, mid', htable, h⟩ := of_bind h
  by_cases ht : table = true
  · rw [if_pos ht] at h
    obtain ⟨e, mid, -, h⟩ := of_bind h
    obtain ⟨aliased, mid, -, h⟩ := of_bind h
    cases h
    rfl
  rw [if_neg ht] at h
  rw [(Bool.not_eq_true _).mp ht] at htable
  obtain ⟨htable, rfl⟩ := keyword_eq_false htable
  simp only [opensCall, hlateral, htable, Bool.false_or, Bool.and_eq_true] at hcall
  obtain ⟨hunnests, hunnest⟩ := hcall
  obtain ⟨text, spaced, ts, rfl⟩ := of_isKeyword hunnest
  -- No mark and no VALUES is next, so neither a query nor rows of values are tried.
  obtain ⟨opened, mid, hopened, h⟩ := of_bind h
  cases hopened
  rw [if_neg Bool.false_ne_true] at h
  obtain ⟨values, mid, hvalues, h⟩ := of_bind h
  cases hvalues
  obtain ⟨next, mid, hnext, h⟩ := of_bind h
  cases hnext
  obtain ⟨second, mid, hsecond, h⟩ := of_bind h
  cases hsecond
  rw [if_neg (by simp [isKeyword])] at h
  obtain ⟨unnests, mid, hread, h⟩ := of_bind h
  cases hread
  obtain ⟨taken, mid, htaken, h⟩ := of_bind h
  have hkey : keywordIf level.dialect.unnests "UNNEST" = keyword "UNNEST" := by
    rw [hunnests]
    rfl
  rw [hkey, keyword_apply, if_pos hunnest] at htaken
  cases htaken
  exact unnestItem_isNamed h

/-- The same for a whole FROM item: joins do not change what it starts with. -/
theorem source_isNamed {item : Source} (h : source level tokens = .ok (item, rest))
    (hcall : opensCall level.dialect tokens = true) : item.relation.isNamed = false := by
  obtain ⟨r, mid, hr, h⟩ := of_bind h
  obtain ⟨joins, mid', -, h⟩ := of_bind h
  cases h
  exact relation_isNamed hr hcall

end Grammar

end RowScope.Sql
