import RowScope.Rule.Derivation
import RowScope.Session
import RowScope.Proofs.Sql.Equality
import RowScope.Proofs.Sql.Nodes
import RowScope.Proofs.Sql.Revision
import RowScope.Proofs.Sql.Bare
import RowScope.Proofs.Sql.Token.Cuts
import RowScope.Proofs.Sql.Graded
import RowScope.Proofs.Sql.Grammar.Gives
import RowScope.Proofs.Sql.Grammar.Statement
import RowScope.Proofs.Enforcement.Walk
import RowScope.Proofs.Enforcement.Insert
import RowScope.Proofs.Enforcement.Select
import RowScope.Proofs.Enforcement.Rule
import RowScope.Proofs.Policy.Accumulation
import RowScope.Proofs.Policy.Grouping
import RowScope.Proofs.Policy.Conflict
import RowScope.Proofs.Policy.Frame
import RowScope.Proofs.Policy.Leniency
import RowScope.Proofs.Policy.Rereading
import RowScope.Proofs.Policy.Tally
import RowScope.Proofs.Policy.Passing
import RowScope.Proofs.Policy.Silence
import RowScope.Proofs.Policy.Source
import RowScope.Proofs.Column.Name
import RowScope.Proofs.Pattern.Glob
import RowScope.Proofs.Config.Policy
import RowScope.Proofs.Config.Integer
