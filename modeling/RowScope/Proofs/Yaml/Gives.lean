/-
What a decoder gives.

A decoder follows aliases, counts them, keeps track of how deep it is and of the place it
has come to.  None of that shows in what it gives.  A document is therefore described without
it: a node is the one that its alias stands for, a scalar has a text and a meaning, a mapping
has entries and a sequence has items.  A decoder that gives something gives what these say
(`Gives`), whatever the depth, the place and the number of aliases followed so far.

A collection is read entry by entry, and what has been made of the entries so far is the
invariant of that reading (`entries_gives`).
-/
import Mathlib.Data.List.Forall2
import RowScope.Yaml.Decode

namespace RowScope.Yaml

/-! ### Documents -/

namespace Document

/-- The node itself, or the one that its alias stands for. -/
def resolve (d : Document) : Node → Node
  | .reference anchor => d.target anchor
  | n => n

/-- The text that a scalar is written with. -/
def text? (d : Document) (n : Node) : Option String :=
  match d.resolve n with
  | .scalar _ text _ => some text
  | _ => none

/-- What a scalar means. -/
def meaning? (d : Document) (n : Node) : Option Meaning :=
  match d.resolve n with
  | .void => some .null
  | .scalar tag text style => (Meaning.ofScalar tag text style).toOption
  | _ => none

/-- The entries of a mapping; what is no mapping has none. -/
def entries (d : Document) (n : Node) : List (Node × Node) :=
  match d.resolve n with
  | .mapping _ es => es
  | _ => []

/-- The items of a sequence; what is no sequence has none. -/
def items (d : Document) (n : Node) : List Node :=
  match d.resolve n with
  | .sequence _ ns => ns
  | _ => []

/-- The values of the entries whose keys have a given text. -/
def valuesAt (d : Document) (name : String) (es : List (Node × Node)) : List Node :=
  es.filterMap fun e => if d.text? e.1 = some name then some e.2 else none

/-- The values of a field of a mapping, by the text of its keys. -/
def fields (d : Document) (name : String) (n : Node) : List Node := d.valuesAt name (d.entries n)

end Document

/-! ### Texts -/

theorem Meaning.ofPlain_eq_text {text s : String} (h : Meaning.ofPlain text = .text s) :
    text = s := by
  unfold Meaning.ofPlain at h
  split at h
  · cases h
  split at h
  · cases h
  split at h
  · cases h
  split at h
  · exact Meaning.text.inj h
  split at h
  · cases h
  · exact Meaning.text.inj h

/-- A scalar that means a text means its own. -/
theorem Meaning.ofScalar_eq_text {tag : Option String} {text s : String} {style : Style}
    (h : Meaning.ofScalar tag text style = .ok (.text s)) : text = s := by
  have hstyle : ∀ c : Bool, (if c then Meaning.ofPlain text else .text text) = .text s →
      text = s := by
    rintro (_ | _) h
    · exact Meaning.text.inj h
    · exact ofPlain_eq_text h
  unfold Meaning.ofScalar at h
  split at h
  · exact hstyle _ (Except.ok.inj h)
  · split at h
    · rename_i kind _
      split at h
      · rename_i m hkind
        rw [Except.ok.inj h] at hkind
        unfold Meaning.ofKind? at hkind
        cases kind <;> simp at hkind
      · cases h
    · exact hstyle _ (Except.ok.inj h)

namespace Document

variable {d : Document} {n : Node}

theorem text?_of_meaning? {s : String} (h : d.meaning? n = some (.text s)) :
    d.text? n = some s := by
  unfold meaning? at h
  unfold text?
  cases hn : d.resolve n with
  | scalar tag text style =>
    simp only [hn] at h
    cases hm : Meaning.ofScalar tag text style with
    | error k => simp [hm, Except.toOption] at h
    | ok m =>
      have hs : m = .text s := by simpa [hm, Except.toOption] using h
      rw [hs] at hm
      rw [Meaning.ofScalar_eq_text hm]
  | _ => simp [hn] at h

/-- What is quoted and has no tag means its text. -/
theorem meaning?_quoted {text : String} {style : Style}
    (hn : d.resolve n = .scalar none text style) (hstyle : style ≠ .plain) :
    d.meaning? n = some (.text text) := by
  unfold meaning?
  simp [hn, Meaning.ofScalar, hstyle, Except.toOption]

end Document

namespace Decoder

/-- Whatever a decoder gives on a document has a property. -/
def Gives {α : Type} (d : Document) (x : Decoder α) (P : α → Prop) : Prop :=
  ∀ ⦃source k a k'⦄, source.document = d → x source k = .ok (a, k') → P a

variable {d : Document}

/-! ### Rules -/

namespace Gives

variable {α β : Type} {x : Decoder α} {P Q : α → Prop} {R : β → Prop}

protected theorem pure {a : α} (h : P a) : Gives d (pure a) P := by
  intro source k b k' _ hrun
  cases hrun
  exact h

protected theorem fail {p : Problem} : Gives d (fail p : Decoder α) P := by
  intro source k b k' _ hrun
  cases hrun

protected theorem malformed : Gives d (malformed : Decoder α) P := by
  intro source k b k' _ hrun
  cases hrun

protected theorem bind {f : α → Decoder β} (hx : Gives d x Q) (hf : ∀ a, Q a → Gives d (f a) R) :
    Gives d (x >>= f) R := by
  intro source k b k' hsource hrun
  have happly : (x >>= f) source k = x source k >>= fun p => f p.1 source p.2 := rfl
  rw [happly] at hrun
  cases hx' : x source k with
  | error e =>
    rw [hx'] at hrun
    cases hrun
  | ok p =>
    rw [hx'] at hrun
    exact hf p.1 (hx hsource hx') hsource hrun

/-- Nothing comes of what stands behind a failure. -/
theorem fail_bind {p : Problem} {f : α → Decoder β} : Gives d ((fail p : Decoder α) >>= f) R :=
  Gives.bind (Q := fun _ => False) .fail fun _ h => h.elim

/-- A step of which nothing has to be known. -/
theorem step {f : α → Decoder β} (hf : ∀ a, Gives d (f a) R) : Gives d (x >>= f) R :=
  Gives.bind (Q := fun _ => True) (fun _ _ _ _ _ _ => trivial) fun a _ => hf a

protected theorem map {f : α → β} (hx : Gives d x Q) (hf : ∀ a, Q a → R (f a)) :
    Gives d (f <$> x) R := by
  rw [← bind_pure_comp]
  exact hx.bind fun a ha => .pure (hf a ha)

protected theorem ite {c : Prop} {_ : Decidable c} {y : Decoder α} (hx : c → Gives d x P)
    (hy : ¬c → Gives d y P) : Gives d (if c then x else y) P := by
  split
  · exact hx ‹_›
  · exact hy ‹_›

protected theorem within {place : Place} (hx : Gives d x P) : Gives d (within place x) P := by
  intro source k a k' hsource hrun
  unfold Decoder.within at hrun
  split at hrun
  · cases hrun
  · exact hx hsource hrun

end Gives

/-! ### Nodes -/

theorem read_gives : Gives d (read : Decoder Source) fun source => source.document = d := by
  intro source k a k' hsource hrun
  cases hrun
  exact hsource

/-- What is followed is resolved; how many aliases were followed before does not matter. -/
theorem follow_gives (n : Node) : Gives d (follow n) fun m => m = d.resolve n := by
  cases n with
  | reference anchor =>
    unfold follow
    refine read_gives.bind fun source hsource => .step fun followed => .ite (fun _ => .fail_bind) ?_
    exact fun _ => .step fun _ => .pure (by rw [hsource]; rfl)
  | _ => exact .pure rfl

theorem meaning_gives (tag : Option String) (text : String) (style : Style) :
    Gives d (meaning tag text style) fun m => Meaning.ofScalar tag text style = .ok m := by
  unfold meaning
  split
  · exact .pure ‹_›
  · exact .fail

theorem unexpected_gives {α : Type} {P : α → Prop} (n : Node) (expected : String) :
    Gives d (unexpected n expected : Decoder α) P := by
  cases n with
  | scalar => exact .step fun _ => .fail
  | reference => exact .malformed
  | cut => exact .malformed
  | _ => exact .fail

/-! ### Collections -/

theorem items_gives {α : Type} {item : Nat → Node → Decoder α} {P : Node → α → Prop}
    (h : ∀ i n, Gives d (item i n) (P n)) (ns : List Node) (i : Nat) :
    Gives d (items item i ns) (List.Forall₂ P ns) := by
  induction ns generalizing i with
  | nil => exact .pure .nil
  | cons n ns ih =>
    exact (h i n).bind fun a ha => (ih (i + 1)).bind fun as has => .pure (.cons ha has)

theorem sequence_gives {α : Type} {item : Nat → Place → Node → Decoder α} {P : Node → α → Prop}
    (h : ∀ depth place n, Gives d (item depth place n) (P n)) (depth : Nat) (place : Place)
    (n : Node) : Gives d (sequence item depth place n) (List.Forall₂ P (d.items n)) := by
  refine .within <| (follow_gives n).bind fun m hm => ?_
  unfold Document.items
  rw [← hm]
  cases m with
  | sequence tag ns => exact .step fun depth => items_gives (fun i => h depth _) ns 0
  | cut => exact .malformed
  | _ => exact .ite (fun _ => .pure .nil) fun _ => unexpected_gives _ _

theorem key_gives (expected : String) (place : Place) (n : Node) :
    Gives d (key expected place n) fun s => d.text? n = some s := by
  refine .within <| (follow_gives n).bind fun m hm => ?_
  unfold Document.text?
  rw [← hm]
  cases m with
  | scalar tag text style => exact .pure rfl
  | cut => exact .malformed
  | _ => exact unexpected_gives _ _

section Mapping

variable {σ : Type} {entry : Nat → σ → String → Place → Node → Decoder σ}
  {Inv : List (Node × Node) → σ → Prop}

/-- An invariant of the entries that have been read, which every further entry keeps. -/
theorem entries_gives {expectedKey : String}
    (h : ∀ depth read s k v name place, Inv read s → d.text? k = some name →
      Gives d (entry depth s name place v) (Inv (read ++ [(k, v)])))
    (depth : Nat) (place : Place) {read : List (Node × Node)} {s : σ} (hs : Inv read s)
    (es : List (Node × Node)) :
    Gives d (entries expectedKey entry depth place s es) (Inv (read ++ es)) := by
  induction es generalizing read s with
  | nil => exact .pure (by rwa [List.append_nil])
  | cons e es ih =>
    refine (key_gives expectedKey place e.1).bind fun name hname => ?_
    refine (h depth read s e.1 e.2 name _ hs hname).bind fun s' hs' => ?_
    rw [List.append_cons]
    exact ih hs'

theorem mapping_gives {expected expectedKey : String} {start : σ}
    (h : ∀ depth read s k v name place, Inv read s → d.text? k = some name →
      Gives d (entry depth s name place v) (Inv (read ++ [(k, v)])))
    (hstart : Inv [] start) (depth : Nat) (place : Place) (n : Node) :
    Gives d (mapping expected expectedKey entry start depth place n) (Inv (d.entries n)) := by
  refine (follow_gives n).bind fun m hm => ?_
  unfold Document.entries
  rw [← hm]
  cases m with
  | mapping tag es => exact .step fun depth => entries_gives h depth place hstart es
  | cut => exact .malformed
  | _ => exact .ite (fun _ => .pure hstart) fun _ => unexpected_gives _ _

end Mapping

/-! ### Scalars -/

theorem boolean_gives (place : Place) (n : Node) :
    Gives d (boolean place n) fun b => ∃ text, d.text? n = some text ∧
      Meaning.boolean? text = some b := by
  refine .within <| (follow_gives n).bind fun m hm => ?_
  unfold Document.text?
  rw [← hm]
  cases m with
  | scalar tag text style =>
    dsimp only
    split
    · exact .ite (fun _ => .pure ⟨text, rfl, ‹_›⟩) fun _ => unexpected_gives _ _
    · exact unexpected_gives _ _
  | cut => exact .malformed
  | _ => exact unexpected_gives _ _

/-- What is left out is a null; anything else is read from the node itself. -/
theorem optional_gives {α : Type} {some_ : Node → Decoder α} {P : α → Prop} {n : Node}
    (h : Gives d (some_ (d.resolve n)) P) :
    Gives d (optional some_ n) fun o => o.elim (d.meaning? n = some .null) P := by
  refine (follow_gives n).bind fun m hm => ?_
  unfold Document.meaning?
  rw [← hm] at h ⊢
  cases m with
  | void => exact .pure rfl
  | cut => exact .malformed
  | scalar tag text style =>
    refine .ite (fun _ => h.bind fun a ha => .pure ha) fun hstyle => ?_
    have hplain : style = .plain := by simpa using hstyle
    subst hplain
    cases tag with
    | none =>
      refine .ite (fun hnull => .pure ?_) fun _ => h.bind fun a ha => .pure ha
      simp [Meaning.ofScalar, Meaning.ofPlain, hnull, Except.toOption]
    | some t =>
      refine .ite (fun hkind => .ite (fun hnull => .pure ?_) fun _ => .fail) fun _ =>
        h.bind fun a ha => .pure ha
      have hlookup : Meaning.kinds.lookup t = some .null := by simpa using hkind
      simp [Meaning.ofScalar, hlookup, Meaning.ofKind?, hnull, Except.toOption]
  | _ => exact h.bind fun a ha => .pure ha

/-! ### Contents -/

theorem Gives.mapM {α β : Type} {f : α → Decoder β} {R : α → β → Prop}
    (h : ∀ a, Gives d (f a) (R a)) (as : List α) : Gives d (as.mapM f) (List.Forall₂ R as) := by
  induction as with
  | nil => exact .pure .nil
  | cons a as ih =>
    rw [List.mapM_cons]
    exact (h a).bind fun b hb => ih.bind fun bs hbs => .pure (.cons hb hbs)

namespace Content

/-- The meaning of a content that is a scalar. -/
def scalar? : Content → Option Meaning
  | .meaning m => some m
  | _ => none

/-- What a content keeps of a node and of the scalars in its entries; an integer has 64 bits. -/
structure Shows (d : Document) (n : Node) (c : Content) : Prop where
  scalar : c.scalar? = d.meaning? n
  fits : ∀ minus k, c.scalar? = some (.integer minus k) → Meaning.fits 64 k = true
  entries : ∀ es, c = .mapping es → List.Forall₂ (fun e c =>
    c.1.scalar? = d.meaning? e.1 ∧ c.2.scalar? = d.meaning? e.2) (d.entries n) es

theorem shows_meaning {n : Node} {m : Meaning} (hm : d.meaning? n = some m)
    (hfits : ∀ minus k, m = .integer minus k → Meaning.fits 64 k = true) :
    Shows d n (.meaning m) :=
  ⟨hm.symm, fun minus k hk => hfits minus k (Option.some.inj hk), nofun⟩

theorem shows_sequence {n : Node} {cs : List Content} (hm : d.meaning? n = none) :
    Shows d n (.sequence cs) :=
  ⟨hm.symm, nofun, nofun⟩

theorem shows_mapping {n : Node} {cs : List (Content × Content)} (hm : d.meaning? n = none)
    (h : List.Forall₂ (fun e c => Shows d e.1 c.1 ∧ Shows d e.2 c.2) (d.entries n) cs) :
    Shows d n (.mapping cs) := by
  refine ⟨hm.symm, nofun, ?_⟩
  rintro _ ⟨⟩
  exact h.imp fun _ _ h => ⟨h.1.scalar, h.2.scalar⟩

end Content

theorem content_gives (depth : Nat) (place : Place) (n : Node) :
    Gives d (content depth place n) (Content.Shows d n) := by
  induction depth using Nat.strongRecOn generalizing place n with
  | ind depth ih =>
    unfold content
    refine .within <| (follow_gives n).bind fun m hm => ?_
    cases m with
    | void => exact .pure (Content.shows_meaning (by simp [Document.meaning?, ← hm]) nofun)
    | cut => exact .malformed
    | reference => exact .malformed
    | scalar tag text style =>
      refine .ite (fun _ => .fail_bind) fun _ => ?_
      refine (meaning_gives tag text style).bind fun m hmeaning => ?_
      have hmeans : d.meaning? n = some m := by
        simp [Document.meaning?, ← hm, hmeaning, Except.toOption]
      cases m with
      | integer minus k =>
        refine .ite (fun hfits => .pure (Content.shows_meaning hmeans ?_)) fun _ => .fail
        rintro _ _ ⟨⟩
        exact hfits
      | _ => exact .pure (Content.shows_meaning hmeans nofun)
    | sequence tag ns =>
      refine .ite (fun _ => .fail_bind) fun _ => ?_
      cases depth with
      | zero => exact .fail
      | succ depth =>
        exact .step fun _ => .pure (Content.shows_sequence (by simp [Document.meaning?, ← hm]))
    | mapping tag es =>
      refine .ite (fun _ => .fail_bind) fun _ => ?_
      cases depth with
      | zero => exact .fail
      | succ depth =>
        have hentries : d.entries n = es := by simp [Document.entries, ← hm]
        refine (Gives.mapM (fun e => ?_) es).bind fun cs hcs =>
          .pure (Content.shows_mapping (by simp [Document.meaning?, ← hm]) (by rwa [hentries]))
        refine (ih depth (Nat.lt_succ_self _) place e.1).bind fun key hkey => ?_
        exact (ih depth (Nat.lt_succ_self _) _ e.2).bind fun value hvalue => .pure ⟨hkey, hvalue⟩

/-! ### Whole texts -/

/-- What is decoded from a text is what its root gives. -/
theorem run_gives {α : Type} {root : Nat → Place → Node → Decoder α} {text : String} {a : α}
    {P : α → Prop} (hroot : Gives (Document.read text)
      (root maxDepth [] (Document.read text).root) P)
    (hrun : run root text = .ok a) : P a := by
  unfold run at hrun
  cases hread : root maxDepth [] (Document.read text).root
      ⟨Document.read text, 100 * (Document.read text).root.weight⟩ 0 with
  | error e => simp [hread, bind, Except.bind] at hrun
  | ok r =>
    simp only [hread, bind, Except.bind] at hrun
    split at hrun
    · cases hrun
      exact hroot rfl hread
    · cases hrun

end Decoder

end RowScope.Yaml
