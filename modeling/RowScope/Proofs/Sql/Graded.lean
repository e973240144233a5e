/-
Filters in which OR stands on top.

An expression is graded if no OR stands outside of parentheses below another operator,
unless it does so behind an operator that takes any expression.  A part of a statement is
clean if the filter of every SELECT in it is graded.  This module says how cleanness goes
through the constructors of the tree; that whatever the grammar reads is clean is what
the modules of `Proofs.Sql.Grammar` are for.

`HasNodes` lets one notion serve for single nodes, for phrases and for lists of either.
-/
import RowScope.Proofs.Sql.Bare

namespace RowScope.Sql

/-- No OR stands outside of parentheses, but perhaps behind an operator that is open. -/
def Expr.OrFree (e : Expr) : Prop := ⟨.or, false⟩ ∉ e.bare false

/-- OR stands nowhere outside of parentheses but on top, or behind an operator that is open. -/
def Expr.Graded (e : Expr) : Prop := e.OrFree ∨ e.topOp? = some .or

/-- The filter of a SELECT is graded. -/
def Node.Graded : Node → Prop
  | .select s => ∀ w, s.filter = some w → w.Graded
  | .insert _ => True

/-! ### Where no OR stands -/

section OrFree

variable {e left right : Expr}

@[simp] theorem orFree_ident {i : Ident} : (Expr.ident i).OrFree := by
  simp [Expr.OrFree, Expr.bare]

@[simp] theorem orFree_path {is : List Ident} : (Expr.path is).OrFree := by
  simp [Expr.OrFree, Expr.bare]

@[simp] theorem orFree_value {v : Value} : (Expr.value v).OrFree := by
  simp [Expr.OrFree, Expr.bare]

@[simp] theorem orFree_nested : (Expr.nested e).OrFree := by
  simp [Expr.OrFree, Expr.bare]

@[simp] theorem orFree_subquery {q : Query} : (Expr.subquery q).OrFree := by
  simp [Expr.OrFree, Expr.bare]

@[simp] theorem orFree_call {name : String} {arguments withinGroup filter window : Phrase} :
    (Expr.call name arguments withinGroup filter window).OrFree := by
  simp [Expr.OrFree, Expr.bare]

@[simp] theorem orFree_trim {side : String} : (Expr.trim side left right).OrFree := by
  simp [Expr.OrFree, Expr.bare]

@[simp] theorem orFree_unary {op : String} : (Expr.unary op e).OrFree ↔ e.OrFree := by
  simp only [Expr.OrFree, Expr.bare]

@[simp] theorem orFree_access {chain : Phrase} : (Expr.access e chain).OrFree ↔ e.OrFree := by
  simp only [Expr.OrFree, Expr.bare]

/-- A phrase that starts with a text of its own encloses what it holds. -/
@[simp] theorem orFree_text {s : String} {rest : Phrase} :
    (Expr.phrase (.text s :: rest)).OrFree := by
  simp [Expr.OrFree, Expr.bare, Piece.followsOperand]

theorem orFree_of_behind {ops : List Bare} (h : ∀ b ∈ ops, b.behind = true) :
    ⟨.or, false⟩ ∉ ops :=
  fun hmem => Bool.noConfusion (h _ hmem)

theorem orFree_binary {op : BinaryOp} (hop : op ≠ .or) (hl : left.OrFree)
    (hr : op.isOpen = true ∨ right.OrFree) : (Expr.binary left op right).OrFree := by
  intro hmem
  simp only [Expr.bare, Bool.false_or, List.mem_append, List.mem_cons, Bare.mk.injEq] at hmem
  rcases hmem with hmem | ⟨heq, -⟩ | hmem
  · exact hl hmem
  · exact hop heq.symm
  · cases hopen : op.isOpen with
    | true =>
      rw [hopen] at hmem
      exact orFree_of_behind (fun b hb => right.behind_of_mem_bare hb) hmem
    | false =>
      rw [hopen] at hmem hr
      exact hr.resolve_left Bool.false_ne_true hmem

/-- An operator that is a phrase: no OR in its first operand, and none behind it. -/
theorem orFree_phrase {rest : Phrase} (hl : left.OrFree)
    (hrest : ⟨.or, false⟩ ∉ bareOfPieces false 0 rest) :
    (Expr.phrase (.expr left :: rest)).OrFree := by
  intro hmem
  simp only [Expr.bare, Piece.followsOperand, if_true, bareOfPieces, Piece.bare, Piece.isOpen,
    Piece.depthBehind, Bool.or_false, List.mem_append] at hmem
  rcases hmem with hmem | hmem
  · exact hl hmem
  · exact hrest hmem

/-- Operands without an OR, with whatever texts between them. -/
theorem orFree_pieces {ps : Phrase} (h : ∀ e, .expr e ∈ ps → e.OrFree) (behind : Bool)
    (depth : Nat) : ⟨.or, false⟩ ∉ bareOfPieces behind depth ps := by
  cases behind with
  | true => exact orFree_of_behind fun b hb => pieces_behind_of_mem_bare depth ps hb
  | false =>
    induction ps generalizing depth with
    | nil => simp [bareOfPieces]
    | cons p rest ih =>
      intro hmem
      rw [bareOfPieces, Bool.false_or, List.mem_append] at hmem
      rcases hmem with hmem | hmem
      · split at hmem
        · cases p with
          | expr e => exact h e List.mem_cons_self (by simpa only [Piece.bare] using hmem)
          | _ => simp [Piece.bare] at hmem
        · exact absurd hmem List.not_mem_nil
      · cases hopen : p.isOpen with
        | true =>
          rw [hopen] at hmem
          exact orFree_of_behind (fun b hb => pieces_behind_of_mem_bare _ rest hb) hmem
        | false =>
          rw [hopen] at hmem
          exact ih (fun e he => h e (List.mem_cons_of_mem p he)) (p.depthBehind depth) hmem

theorem bareOfPieces_text (behind : Bool) (depth : Nat) (s : String) (rest : Phrase) :
    bareOfPieces behind depth (.text s :: rest)
      = bareOfPieces (behind || s == "DISTINCT FROM ") (depthBehind depth s) rest := by
  simp [bareOfPieces, Piece.bare, Piece.isOpen, Piece.depthBehind]

theorem depthBehind_append (depth : Nat) (s t : String) :
    depthBehind depth (s ++ t) = depthBehind (depthBehind depth s) t := by
  simp [depthBehind]

theorem depthBehind_open (depth : Nat) : depthBehind depth "(" = depth + 1 := rfl

/-- Expressions between parentheses are enclosed. -/
theorem bareOfPieces_exprs (behind : Bool) (depth : Nat) (es : List Expr) :
    bareOfPieces behind (depth + 1) (Phrase.exprs es ++ [.text ")"]) = [] := by
  induction es generalizing behind with
  | nil => simp [Phrase.exprs, Phrase.list, Phrase.separated, bareOfPieces]
  | cons e rest ih =>
    cases rest with
    | nil =>
      simp [Phrase.exprs, Phrase.list, Phrase.separated, bareOfPieces, Piece.depthBehind]
    | cons e' rest =>
      have hcomma : Phrase.exprs (e :: e' :: rest)
          = .expr e :: .text ", " :: Phrase.exprs (e' :: rest) := rfl
      rw [hcomma, List.cons_append, List.cons_append, bareOfPieces,
        if_neg (Nat.succ_ne_zero depth), List.nil_append, bareOfPieces_text]
      exact ih _

end OrFree

/-- What has nodes inside it. -/
class HasNodes (α : Type) where
  nodes : α → List Node

instance : HasNodes Expr := ⟨Expr.nodes⟩
instance : HasNodes Piece := ⟨Piece.nodes⟩
instance : HasNodes Query := ⟨Query.nodes⟩
instance : HasNodes Body := ⟨Body.nodes⟩
instance : HasNodes Select := ⟨fun s => s.inner ++ [.select s]⟩
instance : HasNodes Source := ⟨Source.nodes⟩
instance : HasNodes Relation := ⟨Relation.nodes⟩
instance : HasNodes Insert := ⟨fun i => i.inner ++ [.insert i]⟩
instance : HasNodes Target := ⟨Target.nodes⟩
instance : HasNodes OnClause := ⟨OnClause.nodes⟩
instance : HasNodes Statement := ⟨Statement.nodes⟩
instance : HasNodes Bool := ⟨fun _ => []⟩
instance {α β : Type} [HasNodes α] [HasNodes β] : HasNodes (α × β) :=
  ⟨fun p => HasNodes.nodes p.1 ++ HasNodes.nodes p.2⟩
instance {α : Type} [HasNodes α] : HasNodes (List α) := ⟨List.flatMap HasNodes.nodes⟩
instance {α : Type} [HasNodes α] : HasNodes (Option α) := ⟨fun o => o.elim [] HasNodes.nodes⟩

/-- Every SELECT inside has a graded filter. -/
def Clean {α : Type} [HasNodes α] (a : α) : Prop := ∀ n ∈ HasNodes.nodes a, n.Graded

/-! ### Lists -/

section Lists

variable {α : Type} [HasNodes α]

@[simp] theorem clean_nil : Clean ([] : List α) := by
  intro n hn
  exact absurd hn List.not_mem_nil

@[simp] theorem clean_cons {a : α} {as : List α} : Clean (a :: as) ↔ Clean a ∧ Clean as := by
  simp only [Clean, HasNodes.nodes, List.flatMap_cons, List.forall_mem_append]

@[simp] theorem clean_append {as bs : List α} : Clean (as ++ bs) ↔ Clean as ∧ Clean bs := by
  simp only [Clean, HasNodes.nodes, List.flatMap_append, List.forall_mem_append]

@[simp] theorem clean_none : Clean (none : Option α) := by
  intro n hn
  exact absurd hn List.not_mem_nil

@[simp] theorem clean_some {a : α} : Clean (some a) ↔ Clean a := Iff.rfl

theorem clean_iff {as : List α} : Clean as ↔ ∀ a ∈ as, Clean a := by
  induction as with
  | nil => simp
  | cons a as ih => simp [ih]

@[simp] theorem clean_flatten {ass : List (List α)} : Clean ass.flatten ↔ Clean ass := by
  induction ass with
  | nil => simp
  | cons as ass ih => simp [ih]

@[simp] theorem clean_flag {b : Bool} : Clean b := by
  intro n hn
  exact absurd hn List.not_mem_nil

@[simp] theorem clean_pair {β : Type} [HasNodes β] {a : α} {b : β} :
    Clean (a, b) ↔ Clean a ∧ Clean b := by
  simp only [Clean, HasNodes.nodes, List.forall_mem_append]

theorem Clean.getD {o : Option α} {a : α} (ho : Clean o) (ha : Clean a) : Clean (o.getD a) := by
  cases o with
  | none => exact ha
  | some b => exact ho

end Lists

/-! ### Pieces -/

theorem nodesOfPieces_eq (ps : List Piece) : nodesOfPieces ps = ps.flatMap Piece.nodes := by
  induction ps with
  | nil => simp only [nodesOfPieces, List.flatMap_nil]
  | cons p rest ih => simp only [nodesOfPieces, List.flatMap_cons, ih]

theorem nodesOfItems_eq (items : List (List Piece)) :
    nodesOfItems items = items.flatMap (List.flatMap Piece.nodes) := by
  induction items with
  | nil => simp only [nodesOfItems, List.flatMap_nil]
  | cons item rest ih => simp only [nodesOfItems, List.flatMap_cons, ih, nodesOfPieces_eq]

theorem nodesOfSources_eq (ss : List Source) : nodesOfSources ss = ss.flatMap Source.nodes := by
  induction ss with
  | nil => simp only [nodesOfSources, List.flatMap_nil]
  | cons s rest ih => simp only [nodesOfSources, List.flatMap_cons, ih]

theorem nodesOfRows_eq (o : Option Query) : nodesOfRows o = o.elim [] Query.nodes := by
  cases o <;> simp only [nodesOfRows, Option.elim_none, Option.elim_some]

theorem nodesOfFilter_eq (f : Option Expr) : nodesOfFilter f = f.elim [] Expr.nodes := by
  cases f <;> simp only [nodesOfFilter, Option.elim_none, Option.elim_some]

@[simp] theorem clean_text {s : String} : Clean (.text s : Piece) := by
  simp [Clean, HasNodes.nodes, Piece.nodes]

@[simp] theorem clean_piece_expr {e : Expr} : Clean (.expr e : Piece) ↔ Clean e := by
  simp only [Clean, HasNodes.nodes, Piece.nodes]

@[simp] theorem clean_piece_query {q : Query} : Clean (.query q : Piece) ↔ Clean q := by
  simp only [Clean, HasNodes.nodes, Piece.nodes]

@[simp] theorem clean_piece_statement {s : Statement} :
    Clean (.statement s : Piece) ↔ Clean s := by
  simp only [Clean, HasNodes.nodes, Piece.nodes]

@[simp] theorem clean_crossed {front back : Phrase} :
    Clean (.crossed front back : Piece) ↔ Clean back ∧ Clean front := by
  simp only [Clean, HasNodes.nodes, Piece.nodes, nodesOfPieces_eq, List.forall_mem_append]

@[simp] theorem clean_piece_relation {r : Relation} : Clean (.relation r : Piece) ↔ Clean r := by
  simp only [Clean, HasNodes.nodes, Piece.nodes]

@[simp] theorem clean_separated {separator : String} {ps : List Phrase} :
    Clean (Phrase.separated separator ps) ↔ Clean ps := by
  induction ps with
  | nil => simp [Phrase.separated]
  | cons p rest ih =>
    cases rest with
    | nil => simp [Phrase.separated]
    | cons q rest =>
      simp only [Phrase.separated, clean_append, clean_cons, clean_text, true_and, ih]

@[simp] theorem clean_list {ps : List Phrase} : Clean (Phrase.list ps) ↔ Clean ps :=
  clean_separated

@[simp] theorem clean_exprs {es : List Expr} : Clean (Phrase.exprs es) ↔ Clean es := by
  unfold Phrase.exprs
  rw [clean_list]
  induction es with
  | nil => simp
  | cons e rest ih => simp [ih]

@[simp] theorem clean_parens {p : Phrase} : Clean p.parens ↔ Clean p := by
  simp [Phrase.parens]

/-! ### Expressions -/

section Exprs

variable {e left right : Expr}

@[simp] theorem clean_ident {i : Ident} : Clean (.ident i : Expr) := by
  simp [Clean, HasNodes.nodes, Expr.nodes]

@[simp] theorem clean_path {is : List Ident} : Clean (.path is : Expr) := by
  simp [Clean, HasNodes.nodes, Expr.nodes]

@[simp] theorem clean_value {v : Value} : Clean (.value v : Expr) := by
  simp [Clean, HasNodes.nodes, Expr.nodes]

@[simp] theorem clean_nested : Clean (.nested e : Expr) ↔ Clean e := by
  simp only [Clean, HasNodes.nodes, Expr.nodes]

@[simp] theorem clean_subquery {q : Query} : Clean (.subquery q : Expr) ↔ Clean q := by
  simp only [Clean, HasNodes.nodes, Expr.nodes]

@[simp] theorem clean_unary {op : String} : Clean (.unary op e : Expr) ↔ Clean e := by
  simp only [Clean, HasNodes.nodes, Expr.nodes]

@[simp] theorem clean_binary {op : BinaryOp} :
    Clean (.binary left op right : Expr) ↔ Clean left ∧ Clean right := by
  simp only [Clean, HasNodes.nodes, Expr.nodes, List.forall_mem_append]

@[simp] theorem clean_call {name : String} {arguments withinGroup filter window : Phrase} :
    Clean (.call name arguments withinGroup filter window : Expr) ↔
      Clean arguments ∧ Clean filter ∧ Clean window ∧ Clean withinGroup := by
  simp only [Clean, HasNodes.nodes, Expr.nodes, nodesOfPieces_eq, List.forall_mem_append,
    and_assoc]

@[simp] theorem clean_access {chain : Phrase} :
    Clean (.access e chain : Expr) ↔ Clean e ∧ Clean chain := by
  simp only [Clean, HasNodes.nodes, Expr.nodes, nodesOfPieces_eq, List.forall_mem_append]

@[simp] theorem clean_trim {side : String} :
    Clean (.trim side left right : Expr) ↔ Clean right ∧ Clean left := by
  simp only [Clean, HasNodes.nodes, Expr.nodes, List.forall_mem_append]

@[simp] theorem clean_phrase {p : Phrase} : Clean (.phrase p : Expr) ↔ Clean p := by
  simp only [Clean, HasNodes.nodes, Expr.nodes, nodesOfPieces_eq]

end Exprs

/-! ### Queries and what they are made of -/

@[simp] theorem clean_query {preamble tail : Phrase} {body : Body} :
    Clean (⟨preamble, body, tail⟩ : Query) ↔ Clean preamble ∧ Clean body ∧ Clean tail := by
  simp only [Clean, HasNodes.nodes, Query.nodes, nodesOfPieces_eq, List.forall_mem_append,
    and_assoc]

@[simp] theorem clean_body_select {s : Select} : Clean (.select s : Body) ↔ Clean s := by
  simp only [Clean, HasNodes.nodes, Body.nodes]

@[simp] theorem clean_setOperation {op : String} {left right : Body} :
    Clean (.setOperation op left right : Body) ↔ Clean left ∧ Clean right := by
  simp only [Clean, HasNodes.nodes, Body.nodes, List.forall_mem_append]

@[simp] theorem clean_body_query {q : Query} : Clean (.query q : Body) ↔ Clean q := by
  simp only [Clean, HasNodes.nodes, Body.nodes]

@[simp] theorem clean_values {rows : Phrase} : Clean (.values rows : Body) ↔ Clean rows := by
  simp only [Clean, HasNodes.nodes, Body.nodes, nodesOfPieces_eq]

@[simp] theorem clean_body_statement {s : Statement} : Clean (.statement s : Body) ↔ Clean s := by
  simp only [Clean, HasNodes.nodes, Body.nodes]

@[simp] theorem clean_body_table {text : String} : Clean (.table text : Body) := by
  simp [Clean, HasNodes.nodes, Body.nodes]

@[simp] theorem clean_select {flavor : Flavor} {quantifier prefilter tail : Phrase}
    {projection : List Phrase} {into : String} {sources : List Source} {filter : Option Expr} :
    Clean (⟨flavor, quantifier, projection, into, sources, prefilter, filter, tail⟩ : Select) ↔
      Clean quantifier ∧ Clean projection ∧ Clean sources ∧ Clean prefilter ∧ Clean filter ∧
        Clean tail ∧ ∀ w, filter = some w → w.Graded := by
  simp only [Clean, HasNodes.nodes, Select.inner, nodesOfPieces_eq, nodesOfItems_eq,
    nodesOfSources_eq, nodesOfFilter_eq, List.forall_mem_append, List.forall_mem_singleton,
    Node.Graded, and_assoc]

@[simp] theorem clean_source {relation : Relation} {joins : Phrase} :
    Clean (⟨relation, joins⟩ : Source) ↔ Clean relation ∧ Clean joins := by
  simp only [Clean, HasNodes.nodes, Source.nodes, nodesOfPieces_eq, List.forall_mem_append]

@[simp] theorem clean_relation_table {name : List NamePart} {arguments suffix hints : Phrase}
    {aliased : Option Alias} :
    Clean (.table name arguments suffix aliased hints : Relation) ↔
      Clean arguments ∧ Clean suffix ∧ Clean hints := by
  simp only [Clean, HasNodes.nodes, Relation.nodes, nodesOfPieces_eq, List.forall_mem_append,
    and_assoc]

@[simp] theorem clean_derived {lateral : Bool} {q : Query} {aliased : Option Alias} :
    Clean (.derived lateral q aliased : Relation) ↔ Clean q := by
  simp only [Clean, HasNodes.nodes, Relation.nodes]

@[simp] theorem clean_rows {call : Phrase} {aliased : Option Alias} :
    Clean (.rows call aliased : Relation) ↔ Clean call := by
  simp only [Clean, HasNodes.nodes, Relation.nodes, nodesOfPieces_eq]

@[simp] theorem clean_joined {source : Source} {aliased : Option Alias} :
    Clean (.joined source aliased : Relation) ↔ Clean source := by
  simp only [Clean, HasNodes.nodes, Relation.nodes]

/-! ### Statements -/

@[simp] theorem clean_target_table {name : List NamePart} : Clean (.table name : Target) := by
  simp [Clean, HasNodes.nodes, Target.nodes]

@[simp] theorem clean_target_function {call : Phrase} :
    Clean (.function call : Target) ↔ Clean call := by
  simp only [Clean, HasNodes.nodes, Target.nodes, nodesOfPieces_eq]

@[simp] theorem clean_absent : Clean (.absent : OnClause) := by
  simp [Clean, HasNodes.nodes, OnClause.nodes]

@[simp] theorem clean_conflict {target : Option ConflictTarget} {action : Phrase} :
    Clean (.conflict target action : OnClause) ↔ Clean action := by
  simp only [Clean, HasNodes.nodes, OnClause.nodes, nodesOfPieces_eq]

@[simp] theorem clean_duplicateKey {assignments : Phrase} :
    Clean (.duplicateKey assignments : OnClause) ↔ Clean assignments := by
  simp only [Clean, HasNodes.nodes, OnClause.nodes, nodesOfPieces_eq]

@[simp] theorem clean_insert {verb : String} {target : Target} {aliased : Option Ident}
    {columns : List Ident} {source : Option Query} {stead partitions returning : Phrase}
    {conflict : OnClause} :
    Clean (⟨verb, target, aliased, columns, source, stead, partitions, conflict, returning⟩ :
        Insert) ↔
      Clean target ∧ Clean source ∧ Clean stead ∧ Clean partitions ∧ Clean conflict ∧
        Clean returning := by
  simp only [Clean, HasNodes.nodes, Insert.inner, nodesOfPieces_eq, nodesOfRows_eq,
    List.forall_mem_append, List.forall_mem_singleton, Node.Graded, and_true, and_assoc]

@[simp] theorem clean_statement_query {q : Query} : Clean (.query q : Statement) ↔ Clean q := by
  simp only [Clean, HasNodes.nodes, Statement.nodes]

@[simp] theorem clean_statement_insert {i : Insert} :
    Clean (.insert i : Statement) ↔ Clean i := by
  simp only [Clean, HasNodes.nodes, Statement.nodes]

@[simp] theorem clean_other {p : Phrase} : Clean (.other p : Statement) ↔ Clean p := by
  simp only [Clean, HasNodes.nodes, Statement.nodes, nodesOfPieces_eq]

end RowScope.Sql
