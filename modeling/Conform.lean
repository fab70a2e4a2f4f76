import Conform.Main
import Conform.Backend.Scripted
import Conform.Sqlite.Declaration
import Conform.Proofs.CommandLine
import Conform.Proofs.Definition.Sources
import Conform.Proofs.Live.IndexRows
import Conform.Proofs.Live.Literals
import Conform.Proofs.Live.Numbers
import Conform.Proofs.Plan.Accounts
import Conform.Proofs.Plan.Comments
import Conform.Proofs.Plan.Execution
import Conform.Proofs.Plan.Independence
import Conform.Proofs.Plan.Nullability
import Conform.Proofs.Plan.Quoting
import Conform.Proofs.Plan.Shapes
import Conform.Proofs.Plan.Spellings
import Conform.Proofs.Plan.Tallies
import Conform.Proofs.Plan.TextDefaults
import Conform.Proofs.Rule.Grammar
import Conform.Proofs.Rule.Lengths
import Conform.Proofs.Sqlite.ColumnNames
import Conform.Proofs.Sqlite.History
import Conform.Proofs.Sqlite.IndexClashes
import Conform.Proofs.Sqlite.PlanRuns
import Conform.Proofs.Sqlite.Resumption
import Conform.Proofs.Sync.Course
import Conform.Proofs.Sync.Refusals
import Conform.Proofs.Sync.Validation
