/-
Which names a wildcard pattern accepts.

It accepts a name that can be cut into pieces, one for each character of the pattern, so that
each character stands for its piece (`Fits`).  The pattern is never held against a name, though.
It is written as a regular expression, that is read again, and what was read is searched for.

So there are three things to see.  Escaping run by run comes to the same as escaping character
by character (`translate_eq`).  Of what is written for a character the reader makes one part, and
nothing of it is taken for something else (`readFrom_translated`).  And a part matches exactly
what its character stands for (`matches_part`), with the anchors around to keep the match from
ending early.
-/
import Mathlib.Data.List.Forall2
import RowScope.Pattern.Matcher
import RowScope.Proofs.Pattern.Regex

namespace RowScope.Pattern.Glob

open Regex

/-- Whether a character of a pattern stands for a piece of a name. -/
def Stands (c : Char) (piece : List Char) : Prop :=
  if c = '*' then '\n' ∉ piece
  else if c = '?' then ∃ d, d ≠ '\n' ∧ piece = [d]
  else piece = [c]

/-- A name can be cut into pieces that the characters of a pattern stand for, one by one. -/
def Fits (source name : String) : Prop :=
  ∃ pieces, List.Forall₂ Stands source.toList pieces ∧ name.toList = pieces.flatten

/-! ### What is written -/

/-- The regular expression for one character of a pattern. -/
def charRegex (c : Char) : List Char :=
  if c = '*' then ['.', '*'] else if c = '?' then ['.'] else escape [c]

theorem charRegex_cases (c : Char) :
    (c = '*' ∧ charRegex c = ['.', '*']) ∨ (c = '?' ∧ charRegex c = ['.']) ∨
    (c ≠ '*' ∧ c ≠ '?' ∧ (isMeta c = true ∧ charRegex c = ['\\', c] ∨
      isMeta c = false ∧ charRegex c = [c])) := by
  by_cases hstar : c = '*'
  · exact .inl ⟨hstar, by rw [charRegex, if_pos hstar]⟩
  · by_cases hmark : c = '?'
    · exact .inr (.inl ⟨hmark, by rw [charRegex, if_neg hstar, if_pos hmark]⟩)
    · refine .inr (.inr ⟨hstar, hmark, ?_⟩)
      rw [charRegex, if_neg hstar, if_neg hmark, escape, List.flatMap_singleton]
      cases hmeta : isMeta c with
      | true => exact .inl ⟨rfl, rfl⟩
      | false => exact .inr ⟨rfl, rfl⟩

theorem escape_append (s t : List Char) : escape (s ++ t) = escape s ++ escape t :=
  List.flatMap_append

/-- Where the runs between the wildcards begin and end makes no difference. -/
theorem translate_eq (run cs : List Char) :
    translate run cs = escape run.reverse ++ cs.flatMap charRegex := by
  induction cs generalizing run with
  | nil => simp [translate]
  | cons c cs ih =>
    rw [translate, List.flatMap_cons, charRegex]
    by_cases hstar : c = '*'
    · rw [if_pos hstar, if_pos hstar, ih]
      rfl
    · rw [if_neg hstar, if_neg hstar]
      by_cases hmark : c = '?'
      · rw [if_pos hmark, if_pos hmark, ih]
        rfl
      · rw [if_neg hmark, if_neg hmark, ih, List.reverse_cons, escape_append,
          List.append_assoc]

theorem toList_toRegex (source : String) :
    (toRegex source).toList = '^' :: (source.toList.flatMap charRegex ++ ['$']) := by
  rw [toRegex, String.toList_ofList, translate_eq]
  rfl

/-! ### What is read -/

/-- Any character but a line feed. -/
def inLine : Regex := .set (.complement (.singleton '\n'))

/-- What a character of a pattern is read as. -/
def part (c : Char) : Regex :=
  if c = '*' then .repeated inLine 0 none
  else if c = '?' then inLine
  else .set (.singleton c)

/-- The item of a sequence that a character of a pattern becomes. -/
def item (c : Char) : Item := ⟨part c, if c = '*' then 1 else 0, true⟩

/--
The reader takes a text for one item, in no more steps than the text has characters, unless the
mark of a short repetition follows.
-/
def Reads (written : List Char) (i : Item) : Prop :=
  ∃ steps, steps ≤ written.length ∧ ∀ fuel names outer branches items rest,
    dropLazy rest = rest →
    readFrom (fuel + steps) names outer ⟨branches, items, {}⟩ (written ++ rest)
      = readFrom fuel names outer ⟨branches, i :: items, {}⟩ rest

theorem reads_dot : Reads ['.'] (.leaf inLine) :=
  ⟨1, Nat.le_refl 1, fun _ _ _ _ _ _ _ => rfl⟩

theorem reads_star : Reads ['.', '*'] ⟨.repeated inLine 0 none, 1, true⟩ := by
  refine ⟨2, Nat.le_refl 2, fun fuel names outer branches items rest hrest => ?_⟩
  have hread : readFrom (fuel + 2) names outer ⟨branches, items, {}⟩ ('.' :: '*' :: rest)
      = readFrom fuel names outer ⟨branches, ⟨.repeated inLine 0 none, 1, true⟩ :: items, {}⟩
        (dropLazy rest) := rfl
  rw [hrest] at hread
  exact hread

/-- A character without a meaning of its own is read as itself. -/
theorem reads_literal {c : Char} (hc : isMeta c = false) :
    Reads [c] (.leaf (.set (.singleton c))) := by
  refine ⟨1, Nat.le_refl 1, fun fuel names outer branches items rest _ => ?_⟩
  rw [List.singleton_append, readFrom]
  simp only [Flags.skip, Bool.false_eq_true, if_false]
  split <;> simp_all [isMeta, Scope.push, Flags.single, Flags.fold]

/-- A character that has one is read as itself behind a backslash. -/
theorem reads_escaped {c : Char} (hc : isMeta c = true) :
    Reads ['\\', c] (.leaf (.set (.singleton c))) := by
  refine ⟨1, Nat.le_succ 1, fun fuel names outer branches items rest _ => ?_⟩
  have hescape : Regex.escape {} (c :: rest) = some (.char c, rest) := by
    unfold Regex.escape
    exact if_pos (by rw [isEscapable, hc, Bool.true_or])
  rw [List.cons_append, List.singleton_append, readFrom]
  simp only [Flags.skip, Bool.false_eq_true, if_false, hescape]
  rfl

/-- What is written for a character is read as its item. -/
theorem reads_charRegex (c : Char) : Reads (charRegex c) (item c) := by
  obtain ⟨rfl, hc⟩ | ⟨rfl, hc⟩ | ⟨hstar, hmark, hc⟩ := charRegex_cases c
  · rw [hc]
    exact reads_star
  · rw [hc]
    exact reads_dot
  · rw [item, part, if_neg hstar, if_neg hmark, if_neg hstar]
    obtain ⟨hmeta, hc⟩ | ⟨hmeta, hc⟩ := hc
    · rw [hc]
      exact reads_escaped hmeta
    · rw [hc]
      exact reads_literal hmeta

/-- What is written for a pattern does not begin with the mark of a short repetition. -/
theorem dropLazy_translated (cs : List Char) :
    dropLazy (cs.flatMap charRegex ++ ['$']) = cs.flatMap charRegex ++ ['$'] := by
  cases cs with
  | nil => rfl
  | cons c cs =>
    rw [List.flatMap_cons]
    obtain ⟨rfl, hc⟩ | ⟨rfl, hc⟩ | ⟨-, hmark, ⟨-, hc⟩ | ⟨-, hc⟩⟩ := charRegex_cases c
    · rw [hc]
      rfl
    · rw [hc]
      rfl
    · rw [hc]
      rfl
    · simp [hc, dropLazy, hmark]

/-- The items of a pattern are those of its characters, up to the anchor behind them. -/
theorem readFrom_translated {branches : List (Nested Regex)} {items : List Item} (cs : List Char)
    {fuel : Nat} (hfuel : (cs.flatMap charRegex).length + 2 ≤ fuel) :
    readFrom fuel [] [] ⟨branches, items, {}⟩ (cs.flatMap charRegex ++ ['$'])
      = some (Scope.close
          ⟨branches, .leaf (.look .stop) :: ((cs.map item).reverse ++ items), {}⟩) := by
  induction cs generalizing fuel items with
  | nil =>
    obtain ⟨fuel, rfl⟩ := Nat.exists_eq_add_of_le' hfuel
    rfl
  | cons c cs ih =>
    obtain ⟨steps, hsteps, hread⟩ := reads_charRegex c
    rw [List.flatMap_cons, List.length_append] at hfuel
    have hspent : steps ≤ fuel := by omega
    obtain ⟨fuel, rfl⟩ := Nat.exists_eq_add_of_le' hspent
    rw [List.flatMap_cons, List.append_assoc, hread _ _ _ _ _ _ (dropLazy_translated cs),
      ih (by omega), List.map_cons, List.reverse_cons, List.append_assoc]
    rfl

/-- The items of a whole pattern with its anchors, last first. -/
def items (source : String) : List Item :=
  .leaf (.look .stop) :: ((source.toList.map item).reverse ++ [.leaf (.look .start)])

/-- The expression that a pattern is read as. -/
def expression (source : String) : Regex :=
  seqs (.look .start :: (source.toList.map part ++ [.look .stop]))

theorem value_items (source : String) :
    (Scope.close ⟨[], items source, {}⟩).value = expression source := by
  have hparts : (items source).reverse.map Item.regex
      = .look .start :: (source.toList.map part ++ [.look .stop]) := by
    simp [items, item, Item.leaf, Function.comp_def]
  rw [expression, ← hparts]
  rfl

theorem depthOf_le {depths : List Nat} (h : ∀ d ∈ depths, d ≤ 1) : depthOf depths ≤ 2 := by
  have hdeepest : ∀ (depths : List Nat) (start : Nat), start ≤ 1 → (∀ d ∈ depths, d ≤ 1) →
      depths.foldl max start ≤ 1 := by
    intro depths
    induction depths with
    | nil => exact fun start hstart _ => hstart
    | cons d depths ih =>
      intro start hstart hall
      refine ih (max start d) (Nat.max_le.mpr ⟨hstart, hall d List.mem_cons_self⟩) fun e he => ?_
      exact hall e (List.mem_cons_of_mem d he)
  have := hdeepest depths 0 (Nat.zero_le 1) h
  rw [depthOf]
  split <;> omega

/-- A star is a repetition in a sequence, and nothing is nested more deeply. -/
theorem depth_items (source : String) : (Scope.close ⟨[], items source, {}⟩).depth ≤ 2 := by
  have hbranch : (Scope.close ⟨[], items source, {}⟩).depth
      = depthOf ((items source).map Item.depth) := by
    simp [Scope.close, Scope.branch, depthOf]
  rw [hbranch]
  refine depthOf_le fun d hd => ?_
  obtain ⟨i, hi, rfl⟩ := List.mem_map.mp hd
  simp only [items, List.mem_cons, List.mem_append, List.mem_reverse, List.mem_map] at hi
  obtain rfl | ⟨c, -, rfl⟩ | rfl | hi := hi
  · exact Nat.zero_le 1
  · simp only [item]
    split <;> omega
  · exact Nat.zero_le 1
  · cases hi

/-- Whatever the pattern, what is written for it can be read. -/
theorem read_toRegex (source : String) :
    Regex.read (toRegex source) = some (expression source) := by
  have hread : readFrom ((toRegex source).toList.length + 1) [] [] (.fresh {})
      (toRegex source).toList = some (Scope.close ⟨[], items source, {}⟩) := by
    rw [toList_toRegex]
    exact readFrom_translated source.toList (by simp)
  have hdepth : (Scope.close ⟨[], items source, {}⟩).depth ≤ maxDepth :=
    Nat.le_trans (depth_items source) (by decide)
  simp only [Regex.read, hread, Option.bind_eq_bind, Option.bind_some, hdepth, if_true,
    value_items]

/-! ### What is found -/

variable {before word after : List Char}

theorem contains_singleton {c d : Char} : (CharSet.singleton c).contains d = true ↔ d = c := by
  simp only [CharSet.singleton, CharSet.contains, Bool.and_eq_true, decide_eq_true_eq]
  constructor
  · rintro ⟨hle, hge⟩
    exact Char.le_antisymm hge hle
  · rintro rfl
    exact ⟨Char.le_refl d, Char.le_refl d⟩

theorem matches_inLine :
    inLine.Matches before word after ↔ ∃ d, d ≠ '\n' ∧ word = [d] := by
  rw [inLine, Regex.Matches]
  refine exists_congr fun d => and_congr_left fun _ => ?_
  rw [CharSet.contains, Bool.not_eq_true', ← Bool.not_eq_true, contains_singleton]

theorem chained_inLine {n : Nat} :
    Chained inLine.Matches n before word after ↔ word.length = n ∧ '\n' ∉ word := by
  induction n generalizing before word with
  | zero =>
    rw [chained_zero, List.length_eq_zero_iff]
    constructor
    · rintro rfl
      exact ⟨rfl, List.not_mem_nil⟩
    · exact fun h => h.1
  | succ n ih =>
    rw [chained_succ]
    constructor
    · rintro ⟨u, v, rfl, hu, hv⟩
      obtain ⟨d, hd, rfl⟩ := matches_inLine.mp hu
      obtain ⟨hlength, hv⟩ := ih.mp hv
      exact ⟨by simp [hlength], List.not_mem_cons_of_ne_of_not_mem hd.symm hv⟩
    · rintro ⟨hlength, hword⟩
      obtain ⟨d, v, rfl⟩ := List.exists_cons_of_length_eq_add_one hlength
      obtain ⟨hd, hv⟩ := List.ne_and_not_mem_of_not_mem_cons hword
      exact ⟨[d], v, rfl, matches_inLine.mpr ⟨d, Ne.symm hd, rfl⟩,
        ih.mpr ⟨Nat.succ.inj hlength, hv⟩⟩

/-- A part matches what its character stands for, wherever that is. -/
theorem matches_part (c : Char) : (part c).Matches before word after ↔ Stands c word := by
  rw [part, Stands]
  by_cases hstar : c = '*'
  · rw [if_pos hstar, if_pos hstar, Regex.Matches]
    constructor
    · rintro ⟨n, -, -, hn⟩
      exact (chained_inLine.mp hn).2
    · intro h
      exact ⟨word.length, Nat.zero_le _, fun m hm => (nomatch hm), chained_inLine.mpr ⟨rfl, h⟩⟩
  · rw [if_neg hstar, if_neg hstar]
    by_cases hmark : c = '?'
    · rw [if_pos hmark, if_pos hmark]
      exact matches_inLine
    · rw [if_neg hmark, if_neg hmark, Regex.Matches]
      simp only [contains_singleton, exists_eq_left]

/-- The parts of a pattern match a text cut into pieces, and nothing may be left behind it. -/
theorem matches_parts (cs : List Char) :
    (seqs (cs.map part ++ [.look .stop])).Matches before word after
      ↔ after = [] ∧ ∃ pieces, List.Forall₂ Stands cs pieces ∧ word = pieces.flatten := by
  induction cs generalizing before word with
  | nil =>
    simp [seqs, Regex.Matches, Look.holds, and_comm]
  | cons c cs ih =>
    rw [List.map_cons, List.cons_append, matches_seqs_cons]
    constructor
    · rintro ⟨u, v, rfl, hu, hv⟩
      obtain ⟨hafter, pieces, hpieces, rfl⟩ := ih.mp hv
      exact ⟨hafter, u :: pieces, .cons ((matches_part c).mp hu) hpieces, rfl⟩
    · rintro ⟨hafter, pieces, hpieces, rfl⟩
      obtain ⟨u, rest, hu, hrest, rfl⟩ := List.forall₂_cons_left_iff.mp hpieces
      exact ⟨u, rest.flatten, rfl, (matches_part c).mpr hu, ih.mpr ⟨hafter, rest, hrest, rfl⟩⟩

/-- The expression of a pattern is found in the names that fit, which it matches as a whole. -/
theorem isMatch_expression (source name : String) :
    (expression source).isMatch name = true ↔ Fits source name := by
  rw [isMatch_iff, Fits]
  constructor
  · rintro ⟨before, word, after, hname, hword⟩
    obtain ⟨u, v, rfl, ⟨rfl, hstart⟩, hv⟩ := matches_seqs_cons.mp hword
    obtain ⟨rfl, pieces, hpieces, rfl⟩ := (matches_parts _).mp hv
    obtain rfl : before = [] := by simpa [Look.holds] using hstart
    exact ⟨pieces, hpieces, by simpa using hname⟩
  · rintro ⟨pieces, hpieces, hname⟩
    refine ⟨[], pieces.flatten, [], by simpa using hname, matches_seqs_cons.mpr ?_⟩
    exact ⟨[], pieces.flatten, rfl, ⟨rfl, rfl⟩, (matches_parts _).mpr ⟨rfl, pieces, hpieces, rfl⟩⟩

end RowScope.Pattern.Glob

namespace RowScope.Pattern

open Glob

/--
A wildcard pattern accepts exactly the names that fit it as a whole.  Whatever the pattern, the
expression written for it can be read, so no pattern is refused unless it is too large to search
with.
-/
theorem Matcher.ofGlob_fits (source : String) :
    (∃ r, Regex.read (toRegex source) = some r ∧ ofGlob source =
      if r.size ≤ Regex.maxSize then .ok (.glob source r) else .error ⟨source⟩) ∧
    ∀ m, ofGlob source = .ok m → ∀ name, m.accepts name = true ↔ Fits source name := by
  have hmade : ofGlob source = if (expression source).size ≤ Regex.maxSize
      then .ok (.glob source (expression source)) else .error ⟨source⟩ := by
    rw [ofGlob, Regex.compile, read_toRegex, Option.filter_some]
    by_cases hsize : (expression source).size ≤ Regex.maxSize
    · rw [if_pos (decide_eq_true hsize), if_pos hsize]
    · rw [if_neg fun h => hsize (of_decide_eq_true h), if_neg hsize]
  refine ⟨⟨_, read_toRegex source, hmade⟩, fun m hm name => ?_⟩
  rw [hmade] at hm
  split at hm
  · cases hm
    exact isMatch_expression source name
  · cases hm

/--
A pattern of characters that have a meaning in expressions: a name that fits it, and names that
do not, for want of the dot, for a line feed that nothing stands for, and for what is left behind
or in front.
-/
theorem Matcher.ofGlob_fits_dotted :
    ∃ m, ofGlob "a.(*\n?" = .ok m ∧
      (m.accepts "a.(+*\nb" = true ∧ Fits "a.(*\n?" "a.(+*\nb") ∧
      ∀ name ∈ ["ab(\nb", "a.(\n\nb", "a.(\n\n", "a.(\nbc", " a.(\nb"],
        m.accepts name = false ∧ ¬Fits "a.(*\n?" name := by
  let m := Matcher.glob "a.(*\n?" (expression "a.(*\n?")
  have hcompile : Regex.compile (toRegex "a.(*\n?") = some (expression "a.(*\n?") := by
    decide +kernel
  have hmade : ofGlob "a.(*\n?" = .ok m := by rw [ofGlob, hcompile]
  have hfits := (Matcher.ofGlob_fits "a.(*\n?").2 m hmade
  have haccepted : m.accepts "a.(+*\nb" = true := by decide +kernel
  have hrefused : ∀ name ∈ ["ab(\nb", "a.(\n\nb", "a.(\n\n", "a.(\nbc", " a.(\nb"],
      m.accepts name = false := by decide +kernel
  refine ⟨m, hmade, ⟨haccepted, (hfits _).mp haccepted⟩, fun name hname => ?_⟩
  refine ⟨hrefused name hname, fun h => ?_⟩
  exact Bool.false_ne_true ((hrefused name hname).symm.trans ((hfits name).mpr h))

end RowScope.Pattern
