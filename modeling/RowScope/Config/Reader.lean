/-
Configurations as they are written in YAML.

A configuration is a mapping with the rules and the switch for what cannot be
discriminated.  A rule names its table, perhaps its schema, and the columns with their
values.  Fields are read in the order of the document, so the first thing that is wrong
is the one reported; fields that mean nothing are passed over.
-/
import RowScope.Rule.Declared
import RowScope.Yaml.Decode

namespace RowScope.Config

open Yaml Yaml.Decoder

/-! ### Shapes -/

/--
Whether a key names a field: by its text, or by the number of the field, of which there
is only one; `none` is a key that can name no field, as is a number with a minus.
-/
def names? (name : String) : Content → Option Bool
  | .meaning (.text s) => some (s == name)
  | .meaning (.integer minus n) => if minus then none else some (n == 0)
  | _ => none

/-- The values of a field in a mapping, if all its keys can name fields. -/
def valuesOf (name : String) : List (Content × Content) → Option (List Content)
  | [] => some []
  | (k, v) :: rest => do
    let here ← names? name k
    let others ← valuesOf name rest
    return if here then v :: others else others

/-- The text of a field that comes up once in a mapping. -/
def textField? (name : String) (entries : List (Content × Content)) : Option String := do
  match ← valuesOf name entries with
  | [.meaning (.text s)] => some s
  | _ => none

/-- What is wrong with a name or a value that has one of the allowed shapes. -/
inductive Rejection where
  | emptyName
  | nullValue
  | notFinite (x : Decimal.Double)
  | invalidPattern (p : Pattern.Invalid)
  | emptyColumn
deriving Repr, Inhabited

/-- The text of a rejection. -/
def Rejection.describe : Rejection → String
  | emptyName => "Configuration error: table and schema names must not be empty"
  | nullValue =>
    "Configuration error: column value must not be null, \x60= NULL\x60 matches no rows"
  | notFinite x => "Configuration error: column value " ++ x.render ++ " is not a finite number"
  | invalidPattern p => "invalid table pattern '" ++ p.pattern ++ "'"
  | emptyColumn => "column names must not be empty"

/-- A matcher: a name, a wildcard pattern or a regular expression; `none` is another shape. -/
def matcherOf : Content → Option (Except Rejection Pattern.Matcher)
  | .meaning (.text name) =>
    some (if name.isEmpty then .error .emptyName else .ok (.exact name))
  | .mapping entries =>
    match textField? "glob" entries with
    | some source => some ((Pattern.Matcher.ofGlob source).mapError .invalidPattern)
    | none =>
      (textField? "regex" entries).map fun source =>
        (Pattern.Matcher.ofRegex source).mapError .invalidPattern
  | _ => none

/--
A column value; `none` is another shape.  Integers of at most 64 bits with their sign are
kept as they are, larger ones become numbers.
-/
def valueOf : Content → Option (Except Rejection Column.Value)
  | .meaning (.boolean b) => some (.ok (.boolean b))
  | .meaning (.integer _ n) =>
    some (.ok (if Meaning.fitsSigned 64 n then .integer n else .float (Decimal.Double.ofInt n)))
  | .meaning (.float x) => some (if x.isFinite then .ok (.float x) else .error (.notFinite x))
  | .meaning (.text s) => some (.ok (.text s))
  | .mapping entries => (textField? "placeholder" entries).map fun p => .ok (.placeholder p)
  | .meaning .null => some (.error .nullValue)
  | .sequence _ => none

/-- Decodes something that may have several shapes. -/
def shaped {α : Type} (name : String) (shape : Content → Option (Except Rejection α)) (depth : Nat)
    (place : Place) (n : Node) : Decoder α := do
  match shape (← content depth place n) with
  | none => fail (.noShape name)
  | some (.ok a) => return a
  | some (.error r) => fail (.rejected r.describe)

/-- A matcher. -/
def matcher : Nat → Place → Node → Decoder Pattern.Matcher :=
  shaped "NameMatcherDefinition" matcherOf

/-- A column value. -/
def value : Nat → Place → Node → Decoder Column.Value :=
  shaped "ColumnValueDefinition" valueOf

/-! ### Columns -/

/-- Declared columns; a name may come up more than once. -/
def columns (depth : Nat) (place : Place) (n : Node) : Decoder DeclaredColumns :=
  within place <| mapping "a mapping of column names to values" "a string"
    (fun depth cs name place n => do
      let v ← value depth place n
      if name.isEmpty then fail (.rejected Rejection.emptyColumn.describe)
      return cs ++ [(name, v)])
    [] depth place n

/-! ### Rules -/

/-- Takes a field that may come up once. -/
def once {α : Type} (name : String) (field : Option α) (read : Decoder α) : Decoder (Option α) :=
  if field.isSome then fail (.duplicateField name) else some <$> read

/-- The fields of a rule as far as they have been read. -/
structure RuleFields where
  table : Option Pattern.Matcher := none
  schema : Option (Option Pattern.Matcher) := none
  columns : Option DeclaredColumns := none

/-- One field of a rule. -/
def ruleField (depth : Nat) (f : RuleFields) (name : String) (place : Place) (n : Node) :
    Decoder RuleFields := do
  match name with
  | "table" => return { f with table := ← once name f.table (matcher depth place n) }
  | "schema" => return { f with schema := ← once name f.schema (optional (matcher depth place) n) }
  | "columns" => return { f with columns := ← once name f.columns (columns depth place n) }
  | _ => ignore n; return f

/-- A declared rule. -/
def rule (depth : Nat) (place : Place) (n : Node) : Decoder DeclaredRule := within place do
  let f ← mapping "struct RuleDefinition" "field identifier" ruleField {} depth place n
  match f.table with
  | none => fail (.missingField "table")
  | some table => return ⟨table, f.schema.getD none, f.columns.getD []⟩

/-! ### Configurations -/

/-- The fields of a configuration as far as they have been read. -/
structure ConfigFields where
  strict : Option Bool := none
  rules : Option (List DeclaredRule) := none

/-- One field of a configuration. -/
def configField (depth : Nat) (f : ConfigFields) (name : String) (place : Place) (n : Node) :
    Decoder ConfigFields := do
  match name with
  | "throw_on_unsupported" => return { f with strict := ← once name f.strict (boolean place n) }
  | "rules" => return { f with rules := ← once name f.rules (sequence rule depth place n) }
  | _ => ignore n; return f

/-- A configuration. -/
def config (depth : Nat) (place : Place) (n : Node) : Decoder Config := within place do
  let f ← mapping "struct DiscriminatorConfig" "field identifier" configField {} depth place n
  return ⟨f.strict.getD true, f.rules.getD []⟩

/-- Reads a configuration. -/
def ofYaml (text : String) : Except DecodeError Config := Decoder.run config text

end RowScope.Config
