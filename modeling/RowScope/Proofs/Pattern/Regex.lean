/-
What an expression matches, and that the search finds it.

An expression matches a part of a text with regard to what stands in front of that part and
behind it, since it may ask where it is (`Matches`).  The search never looks at parts.  It moves
sets of positions, and a position is told by the text in front of it.  So each step is told by
the parts that it moves along (`Carries`), and steps are put together as their parts are:
one behind the other, either of two, a number of times over.

A repetition without bound is where the two differ.  There may be any number of parts, but the
search stops after as many steps as the text has positions.  That loses nothing, because parts
without characters can be left out, and of the others there are no more than characters.
-/
import RowScope.Pattern.Regex

namespace RowScope.Pattern.Regex

/-! ### Parts of a text -/

/-- Something said of a part of a text, with what stands in front of it and behind it. -/
abbrev Part := List Char → List Char → List Char → Prop

/-- A number of parts, one behind the other. -/
inductive Chained (part : Part) : Nat → Part
  | nil {before after : List Char} : Chained part 0 before [] after
  | cons {n : Nat} {before first rest after : List Char} :
      part before first (rest ++ after) → Chained part n (before ++ first) rest after →
      Chained part (n + 1) before (first ++ rest) after

/--
Whether an expression matches a part of a text.  The bounds of a repetition are taken to be in
order: where the upper one is too low, the lower one counts for both.
-/
def Matches : Regex → Part
  | empty, _, word, _ => word = []
  | set s, _, word, _ => ∃ c, s.contains c = true ∧ word = [c]
  | look l, before, word, after => word = [] ∧ l.holds before.getLast? after.head? = true
  | seq r s, before, word, after =>
    ∃ u v, word = u ++ v ∧ r.Matches before u (v ++ after) ∧ s.Matches (before ++ u) v after
  | alt r s, before, word, after => r.Matches before word after ∨ s.Matches before word after
  | repeated r least most, before, word, after =>
    ∃ n, least ≤ n ∧ (∀ m, most = some m → n ≤ max least m) ∧
      Chained r.Matches n before word after

variable {part : Part} {before word after text : List Char}

theorem chained_zero : Chained part 0 before word after ↔ word = [] := by
  constructor
  · rintro ⟨⟩
    rfl
  · rintro rfl
    exact .nil

theorem chained_succ {n : Nat} :
    Chained part (n + 1) before word after
      ↔ ∃ u v, word = u ++ v ∧ part before u (v ++ after) ∧
        Chained part n (before ++ u) v after := by
  constructor
  · rintro ⟨⟩
    exact ⟨_, _, rfl, ‹_›, ‹_›⟩
  · rintro ⟨u, v, rfl, hu, hv⟩
    exact .cons hu hv

theorem chained_add {m n : Nat} :
    Chained part (m + n) before word after
      ↔ ∃ u v, word = u ++ v ∧ Chained part m before u (v ++ after) ∧
        Chained part n (before ++ u) v after := by
  induction m generalizing before word with
  | zero =>
    rw [Nat.zero_add]
    constructor
    · intro h
      exact ⟨[], word, rfl, .nil, by simpa using h⟩
    · rintro ⟨u, v, rfl, hu, hv⟩
      obtain rfl := chained_zero.mp hu
      simpa using hv
  | succ m ih =>
    rw [Nat.succ_add, chained_succ]
    constructor
    · rintro ⟨u, v, rfl, hu, hv⟩
      obtain ⟨v, w, rfl, hv, hw⟩ := ih.mp hv
      refine ⟨u ++ v, w, by rw [List.append_assoc], ?_, by rwa [← List.append_assoc]⟩
      exact .cons (by rwa [← List.append_assoc]) hv
    · rintro ⟨u, w, rfl, hu, hw⟩
      obtain ⟨u, v, rfl, hu, hv⟩ := chained_succ.mp hu
      refine ⟨u, v ++ w, by rw [List.append_assoc], by rwa [List.append_assoc], ?_⟩
      exact ih.mpr ⟨v, w, rfl, hv, by rwa [List.append_assoc]⟩

/-- Parts without characters can be left out, and each of the others has one at least. -/
theorem Chained.shorten {n : Nat} (h : Chained part n before word after) :
    ∃ k, k ≤ n ∧ k ≤ word.length ∧ Chained part k before word after := by
  induction h with
  | nil => exact ⟨0, Nat.le_refl 0, Nat.le_refl 0, .nil⟩
  | @cons n before first rest after hfirst _ ih =>
    obtain ⟨k, hn, hrest, h⟩ := ih
    cases first with
    | nil => exact ⟨k, by omega, hrest, by simpa using h⟩
    | cons c first =>
      refine ⟨k + 1, by omega, ?_, .cons hfirst h⟩
      simp only [List.length_append, List.length_cons]
      omega

/-- As many parts as may be, each of which may be left out. -/
theorem chained_optional {n : Nat} :
    Chained (fun before word after => word = [] ∨ part before word after) n before word after
      ↔ ∃ k, k ≤ n ∧ Chained part k before word after := by
  constructor
  · intro h
    induction h with
    | nil => exact ⟨0, Nat.le_refl 0, .nil⟩
    | cons hfirst _ ih =>
      obtain ⟨k, hk, h⟩ := ih
      rcases hfirst with rfl | hfirst
      · exact ⟨k, by omega, by simpa using h⟩
      · exact ⟨k + 1, by omega, .cons hfirst h⟩
  · rintro ⟨k, hk, h⟩
    induction h generalizing n with
    | nil =>
      clear hk
      induction n with
      | zero => exact .nil
      | succ n ih => exact chained_succ.mpr ⟨[], [], rfl, .inl rfl, by simpa using ih⟩
    | cons hfirst _ ih =>
      obtain ⟨n, rfl⟩ : ∃ m, n = m + 1 := ⟨n - 1, by omega⟩
      exact .cons (.inr hfirst) (ih (by omega))

/-! ### Sets of positions -/

/-- Whether a set has the position behind a text. -/
def Marked (ps : Positions) (before : List Char) : Prop := ps[before.length]? = some true

/-- A step moves each position of a text to the ends of the parts that start there. -/
structure Carries (text : List Char) (step : Positions → Positions) (part : Part) : Prop where
  length : ∀ ps, ps.length = text.length + 1 → (step ps).length = text.length + 1
  marked : ∀ ps, ps.length = text.length + 1 → ∀ front after, front ++ after = text →
    (Marked (step ps) front
      ↔ ∃ before word, front = before ++ word ∧ Marked ps before ∧ part before word after)

theorem Carries.congr {step : Positions → Positions} {part' : Part} (h : Carries text step part)
    (hparts : ∀ before word after, before ++ (word ++ after) = text →
      (part before word after ↔ part' before word after)) : Carries text step part' where
  length := h.length
  marked ps hps front after htext := by
    rw [h.marked ps hps front after htext]
    refine exists_congr fun before => exists_congr fun word => and_congr_right fun hfront => ?_
    exact and_congr_right fun _ =>
      hparts before word after (by rw [← htext, hfront, List.append_assoc])

theorem carries_id : Carries text (fun ps => ps) fun _ word _ => word = [] where
  length _ hps := hps
  marked ps _ front after _ := by
    constructor
    · intro h
      exact ⟨front, [], by simp, h, rfl⟩
    · rintro ⟨before, word, rfl, h, rfl⟩
      simpa using h

theorem Carries.comp {step step' : Positions → Positions} {part part' : Part}
    (h : Carries text step part) (h' : Carries text step' part') :
    Carries text (fun ps => step' (step ps)) fun before word after =>
      ∃ u v, word = u ++ v ∧ part before u (v ++ after) ∧ part' (before ++ u) v after where
  length ps hps := h'.length _ (h.length ps hps)
  marked ps hps front after htext := by
    rw [h'.marked _ (h.length ps hps) front after htext]
    constructor
    · rintro ⟨middle, v, rfl, hmiddle, hv⟩
      rw [h.marked ps hps middle (v ++ after) (by rw [← htext, List.append_assoc])] at hmiddle
      obtain ⟨before, u, rfl, hbefore, hu⟩ := hmiddle
      exact ⟨before, u ++ v, by rw [List.append_assoc], hbefore, u, v, rfl, hu, hv⟩
    · rintro ⟨before, word, rfl, hbefore, u, v, rfl, hu, hv⟩
      refine ⟨before ++ u, v, by rw [List.append_assoc], ?_, hv⟩
      rw [h.marked ps hps (before ++ u) (v ++ after) (by simpa using htext)]
      exact ⟨before, u, rfl, hbefore, hu⟩

theorem marked_join {a b : Positions} (h : a.length = b.length) :
    Marked (join a b) before ↔ Marked a before ∨ Marked b before := by
  rw [Marked, Marked, Marked, join, List.getElem?_zipWith]
  rcases Nat.lt_or_ge before.length a.length with hlt | hge
  · rw [List.getElem?_eq_getElem hlt, List.getElem?_eq_getElem (h ▸ hlt)]
    simp
  · rw [List.getElem?_eq_none hge, List.getElem?_eq_none (h ▸ hge)]
    simp

theorem Carries.join {step step' : Positions → Positions} {part part' : Part}
    (h : Carries text step part) (h' : Carries text step' part') :
    Carries text (fun ps => join (step ps) (step' ps)) fun before word after =>
      part before word after ∨ part' before word after where
  length ps hps := by
    rw [Regex.join, List.length_zipWith, h.length ps hps, h'.length ps hps, Nat.min_self]
  marked ps hps front after htext := by
    rw [marked_join (by rw [h.length ps hps, h'.length ps hps]), h.marked ps hps front after htext,
      h'.marked ps hps front after htext]
    constructor
    · rintro (⟨before, word, rfl, hbefore, hword⟩ | ⟨before, word, rfl, hbefore, hword⟩)
      · exact ⟨before, word, rfl, hbefore, .inl hword⟩
      · exact ⟨before, word, rfl, hbefore, .inr hword⟩
    · rintro ⟨before, word, rfl, hbefore, hword | hword⟩
      · exact .inl ⟨before, word, rfl, hbefore, hword⟩
      · exact .inr ⟨before, word, rfl, hbefore, hword⟩

theorem Carries.times {step : Positions → Positions} (h : Carries text step part) (n : Nat) :
    Carries text (times step n) (Chained part n) := by
  induction n with
  | zero => exact carries_id.congr fun _ _ _ _ => chained_zero.symm
  | succ n ih => exact (h.comp ih).congr fun _ _ _ _ => chained_succ.symm

theorem spread_eq_times (step : Positions → Positions) (n : Nat) (ps : Positions) :
    spread step n ps = times (fun ps => join ps (step ps)) n ps := by
  induction n generalizing ps with
  | zero => rfl
  | succ n ih => exact ih _

theorem Carries.spread {step : Positions → Positions} (h : Carries text step part) (n : Nat) :
    Carries text (spread step n) fun before word after =>
      ∃ k, k ≤ n ∧ Chained part k before word after := by
  rw [funext (spread_eq_times step n)]
  exact ((carries_id.join h).times n).congr fun _ _ _ _ => chained_optional

/-! ### The steps of an expression -/

theorem carries_advance (s : CharSet) :
    Carries text (advance s text) fun _ word _ => ∃ c, s.contains c = true ∧ word = [c] where
  length ps hps := by simp [advance, hps]
  marked ps hps front after htext := by
    rcases List.eq_nil_or_concat front with rfl | ⟨front, c, rfl⟩
    · simp [Marked, advance]
    · have hchar : text[front.length]? = some c := by simp [← htext]
      have hlt : front.length < ps.length := by
        rw [hps, ← htext, List.length_append, List.length_concat]
        omega
      rw [Marked, List.concat_eq_append, List.length_append, List.length_singleton, advance,
        List.getElem?_cons_succ, List.getElem?_zipWith, hchar, List.getElem?_eq_getElem hlt]
      constructor
      · intro h
        simp only [Option.some.injEq, Bool.and_eq_true] at h
        exact ⟨front, [c], rfl, by rw [Marked, List.getElem?_eq_getElem hlt, h.1], c, h.2, rfl⟩
      · rintro ⟨before, word, hfront, hbefore, c', hc', rfl⟩
        obtain ⟨rfl, hc⟩ := List.append_inj' hfront rfl
        cases hc
        rw [Marked, List.getElem?_eq_getElem hlt, Option.some.injEq] at hbefore
        simp [hbefore, hc']

theorem length_looking (l : Look) (front : Option Char) {ps : Positions}
    (h : ps.length = text.length + 1) : (looking l front text ps).length = text.length + 1 := by
  induction text generalizing front ps with
  | nil =>
    obtain ⟨b, rfl⟩ := List.length_eq_one_iff.mp h
    rfl
  | cons c cs ih =>
    cases ps with
    | nil => simp at h
    | cons b bs => simp [looking, ih (some c) (Nat.succ.inj h)]

theorem marked_looking (l : Look) (front : Option Char) {ps : Positions} :
    Marked (looking l front (before ++ after) ps) before
      ↔ Marked ps before ∧ l.holds (before.getLast?.or front) after.head? = true := by
  induction before generalizing front ps with
  | nil => cases after <;> cases ps <;> simp [Marked, looking]
  | cons c before ih =>
    cases ps with
    | nil => simp [Marked, looking]
    | cons b bs =>
      have hlast : ((c :: before).getLast?).or front = before.getLast?.or (some c) := by
        rw [List.getLast?_cons]
        cases before.getLast? <;> rfl
      rw [hlast, List.cons_append, looking]
      exact ih (some c)

theorem carries_looking (l : Look) :
    Carries text (looking l none text) fun before word after =>
      word = [] ∧ l.holds before.getLast? after.head? = true where
  length ps hps := length_looking l none hps
  marked ps hps front after htext := by
    rw [← htext, marked_looking, Option.or_none]
    constructor
    · rintro ⟨hfront, hlook⟩
      exact ⟨front, [], by simp, hfront, rfl, hlook⟩
    · rintro ⟨before, word, rfl, hbefore, rfl, hlook⟩
      exact ⟨by simpa using hbefore, by simpa using hlook⟩

theorem carries_repeated {step : Positions → Positions} (h : Carries text step part)
    (least : Nat) (most : Option Nat) :
    Carries text
      (fun ps => Regex.spread step (match most with
        | some m => min (m - least) (text.length + 1)
        | none => text.length + 1) (Regex.times step least ps))
      fun before word after => ∃ n, least ≤ n ∧ (∀ m, most = some m → n ≤ max least m) ∧
        Chained part n before word after := by
  refine ((h.times least).comp (h.spread _)).congr fun before word after htext => ?_
  have hword : word.length ≤ text.length := by
    rw [← htext]
    simp only [List.length_append]
    omega
  constructor
  · rintro ⟨u, v, rfl, hu, k, hk, hv⟩
    refine ⟨least + k, by omega, ?_, chained_add.mpr ⟨u, v, rfl, hu, hv⟩⟩
    rintro m rfl
    simp only at hk
    omega
  · rintro ⟨n, hn, hmost, hchain⟩
    obtain ⟨n, rfl⟩ : ∃ k, n = least + k := ⟨n - least, by omega⟩
    obtain ⟨u, v, rfl, hu, hv⟩ := chained_add.mp hchain
    obtain ⟨k, hkn, hkv, hk⟩ := hv.shorten
    rw [List.length_append] at hword
    refine ⟨u, v, rfl, hu, k, ?_, hk⟩
    cases most with
    | none => simp only; omega
    | some m =>
      have := hmost m rfl
      simp only
      omega

/-- The positions that are reached are the ends of what an expression matches. -/
theorem reach_carries (text : List Char) (r : Regex) : Carries text (reach text r) r.Matches := by
  induction r with
  | empty => exact carries_id
  | set s => exact carries_advance s
  | look l => exact carries_looking l
  | seq r s ihr ihs => exact ihr.comp ihs
  | alt r s ihr ihs => exact ihr.join ihs
  | repeated r least most ih => exact carries_repeated ih least most

/-- Expressions one after the other match parts one behind the other. -/
theorem matches_seqs_cons {r : Regex} {rs : List Regex} :
    (seqs (r :: rs)).Matches before word after
      ↔ ∃ u v, word = u ++ v ∧ r.Matches before u (v ++ after) ∧
        (seqs rs).Matches (before ++ u) v after := by
  cases rs with
  | nil =>
    constructor
    · intro h
      exact ⟨word, [], by simp, h, rfl⟩
    · rintro ⟨u, v, rfl, hu, rfl⟩
      simpa [seqs] using hu
  | cons s rs => rfl

/-- An expression is found in a text exactly if it matches some part of it. -/
theorem isMatch_iff {r : Regex} {text : String} :
    r.isMatch text = true
      ↔ ∃ before word after, text.toList = before ++ (word ++ after) ∧
        r.Matches before word after := by
  have hall : ∀ before : List Char, before.length ≤ text.toList.length →
      Marked (List.replicate (text.toList.length + 1) true) before := by
    intro before h
    rw [Marked, List.getElem?_replicate, if_pos (by omega)]
  have hlength : (List.replicate (text.toList.length + 1) true).length
      = text.toList.length + 1 := List.length_replicate
  have hreach := reach_carries text.toList r
  rw [isMatch, List.any_eq_true]
  constructor
  · rintro ⟨b, hb, rfl⟩
    obtain ⟨i, hi, hib⟩ := List.mem_iff_getElem.mp hb
    rw [hreach.length _ hlength] at hi
    have hmarked := (hreach.marked _ hlength (text.toList.take i) (text.toList.drop i)
      (List.take_append_drop i _)).mp (by
        rw [Marked, List.length_take, Nat.min_eq_left (by omega), List.getElem?_eq_some_iff]
        exact ⟨_, hib⟩)
    obtain ⟨before, word, hfront, -, hword⟩ := hmarked
    refine ⟨before, word, text.toList.drop i, ?_, hword⟩
    rw [← List.append_assoc, ← hfront, List.take_append_drop]
  · rintro ⟨before, word, after, htext, hword⟩
    have hmarked := (hreach.marked _ hlength (before ++ word) after (by simp [htext])).mpr
      ⟨before, word, rfl, hall before (by simp [htext]), hword⟩
    exact ⟨true, List.mem_of_getElem? hmarked, rfl⟩

end RowScope.Pattern.Regex
