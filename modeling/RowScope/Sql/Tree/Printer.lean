/-
The text of a tree.

Keywords are printed in upper case with one blank between tokens, and no parentheses
are added: grouping is shown by the parentheses that are nodes of the tree.
-/
import RowScope.Sql.Tree

namespace RowScope.Sql

/-- The text of an operator. -/
def BinaryOp.render : BinaryOp → String
  | .and => "AND"
  | .or => "OR"
  | .xor => "XOR"
  | .eq => "="
  | .other symbol => symbol

/-- The text of one part of a name. -/
def NamePart.render : NamePart → String
  | .ident i => i.render
  | .computed text => text

/-- The text of a dotted name. -/
def NamePart.renderName (name : List NamePart) : String :=
  ".".intercalate (name.map NamePart.render)

/-- The text of an alias, with the blank in front of it. -/
def Alias.render : Option Alias → String
  | none => ""
  | some a => (if a.explicit then " AS " else " ") ++ a.name.render ++ a.columns

/-- The text of what a conflict clause names. -/
def ConflictTarget.render : Option ConflictTarget → String
  | none => ""
  | some (.columns names) => "(" ++ ", ".intercalate (names.map Ident.render) ++ ")"
  | some (.constraint name) => " ON CONSTRAINT " ++ name

mutual

/-- The text of an expression. -/
def Expr.render : Expr → String
  | .ident name => name.render
  | .path names => Ident.renderPath names
  | .value v => v.render
  | .nested e => "(" ++ e.render ++ ")"
  | .subquery q => "(" ++ q.render ++ ")"
  | .unary op e => op ++ e.render
  | .binary left op right => left.render ++ " " ++ op.render ++ " " ++ right.render
  | .call name arguments withinGroup filter window =>
    name ++ renderPieces arguments ++ renderPieces withinGroup ++ renderPieces filter
      ++ renderPieces window
  | .access root chain => root.render ++ renderPieces chain
  | .trim side what e => "TRIM(" ++ side ++ what.render ++ " FROM " ++ e.render ++ ")"
  | .phrase pieces => renderPieces pieces
termination_by structural e => e

/-- The text of one piece. -/
def Piece.render : Piece → String
  | .text s => s
  | .expr e => e.render
  | .query q => q.render
  | .statement s => s.render
  | .relation r => r.render
  | .crossed front back => renderPieces front ++ renderPieces back
termination_by structural p => p

/-- The text of a phrase. -/
def renderPieces : List Piece → String
  | [] => ""
  | p :: rest => p.render ++ renderPieces rest
termination_by structural ps => ps

/-- The text of a list of phrases, with a comma between any two. -/
def renderItems : List (List Piece) → String
  | [] => ""
  | item :: rest => renderPieces item ++ (if rest.isEmpty then "" else ", ") ++ renderItems rest
termination_by structural items => items

/-- The text of a query. -/
def Query.render : Query → String
  | ⟨preamble, body, tail⟩ => renderPieces preamble ++ body.render ++ renderPieces tail
termination_by structural q => q

/-- The text of a query's body. -/
def Body.render : Body → String
  | .select s => s.render
  | .setOperation op left right => left.render ++ " " ++ op ++ " " ++ right.render
  | .query q => "(" ++ q.render ++ ")"
  | .values rows => renderPieces rows
  | .statement s => s.render
  | .table text => text
termination_by structural b => b

/-- The text of a SELECT. -/
def Select.render : Select → String
  | ⟨flavor, quantifier, projection, into, sources, prefilter, filter, tail⟩ =>
    (match flavor with
      | .standard => "SELECT"
      | .fromFirst => "FROM " ++ renderSources sources ++ " SELECT"
      | .fromOnly => "FROM " ++ renderSources sources)
    ++ renderPieces quantifier
    ++ (if projection.isEmpty then "" else " " ++ renderItems projection)
    ++ into
    ++ (if flavor = .standard ∧ ¬ sources.isEmpty then " FROM " ++ renderSources sources else "")
    ++ renderPieces prefilter
    ++ renderFilter filter
    ++ renderPieces tail
termination_by structural s => s

/-- The text of a filter, with its keyword. -/
def renderFilter : Option Expr → String
  | none => ""
  | some e => " WHERE " ++ e.render
termination_by structural o => o

/-- The text of one FROM item. -/
def Source.render : Source → String
  | ⟨relation, joins⟩ => relation.render ++ renderPieces joins
termination_by structural s => s

/-- The text of a FROM list. -/
def renderSources : List Source → String
  | [] => ""
  | s :: rest => s.render ++ (if rest.isEmpty then "" else ", ") ++ renderSources rest
termination_by structural ss => ss

/-- The text of a relation. -/
def Relation.render : Relation → String
  | .table name arguments suffix aliased hints =>
    NamePart.renderName name ++ renderPieces arguments ++ renderPieces suffix
      ++ Alias.render aliased ++ renderPieces hints
  | .derived lateral q aliased =>
    (if lateral then "LATERAL (" else "(") ++ q.render ++ ")" ++ Alias.render aliased
  | .rows call aliased => renderPieces call ++ Alias.render aliased
  | .joined source aliased => "(" ++ source.render ++ ")" ++ Alias.render aliased
termination_by structural r => r

/-- The text of an INSERT. -/
def Insert.render : Insert → String
  | ⟨verb, target, aliased, columns, source, stead, partitions, conflict, returning⟩ =>
    verb ++ target.render
      ++ (match aliased with | none => "" | some a => " AS " ++ a.render)
      ++ (if columns.isEmpty then ""
        else " (" ++ ", ".intercalate (columns.map Ident.render) ++ ")")
      ++ renderPieces partitions
      ++ renderRows source
      ++ renderPieces stead
      ++ conflict.render
      ++ renderPieces returning
termination_by structural i => i

/-- The text of the rows of an INSERT, with the blank in front of it. -/
def renderRows : Option Query → String
  | none => ""
  | some q => " " ++ q.render
termination_by structural o => o

/-- The text of an INSERT's target. -/
def Target.render : Target → String
  | .table name => NamePart.renderName name
  | .function call => renderPieces call
termination_by structural t => t

/-- The text of an ON clause, with the blank in front of it. -/
def OnClause.render : OnClause → String
  | .absent => ""
  | .conflict target action => " ON CONFLICT" ++ ConflictTarget.render target ++ " "
      ++ renderPieces action
  | .duplicateKey assignments => " ON DUPLICATE KEY UPDATE " ++ renderPieces assignments
termination_by structural c => c

/-- The text of a statement. -/
def Statement.render : Statement → String
  | .query q => q.render
  | .insert i => i.render
  | .other pieces => renderPieces pieces
termination_by structural s => s

end

end RowScope.Sql
