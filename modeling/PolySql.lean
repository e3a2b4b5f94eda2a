import PolySql.Config.Reader
import PolySql.Postgres.Param
import PolySql.Postgres.PoolSettings
import PolySql.Proofs.Alignment
import PolySql.Proofs.Execution.Sequence
import PolySql.Proofs.Pool.Accounting
import PolySql.Proofs.Reading.WhereClause
import PolySql.Proofs.Reading.Window
import PolySql.Proofs.Returning
import PolySql.Proofs.Transaction.Outcome
import PolySql.Scenario
import PolySql.Sqlite.Pool
import PolySql.Transform
import PolySql.Proofs.Client.Request
import PolySql.Proofs.Client.Change
import PolySql.Proofs.Pluck
import PolySql.Proofs.Client.Script
import PolySql.Proofs.Client.Ways
import PolySql.Proofs.Values
import PolySql.Proofs.Refusal
import PolySql.Proofs.Schema.Names
import PolySql.Proofs.Schema.Repetition
import PolySql.Proofs.Schema.Catalogue
import PolySql.Proofs.Subquery.Checks
import PolySql.Proofs.Subquery.Quoting
import PolySql.Proofs.Marks
import PolySql.Proofs.Sqlite.Isolation
import PolySql.Proofs.Returning.Items
import PolySql.Proofs.Returning.Output
import PolySql.Proofs.Reading.Level
import PolySql.Proofs.Reading.Literal
import PolySql.Proofs.Reading.Regrouping
import PolySql.Proofs.Reading.Name
import PolySql.Proofs.Insert
import PolySql.Proofs.Reading.Columns
import PolySql.Proofs.Quoting
import PolySql.Proofs.Counter
import PolySql.Proofs.Positioning
import PolySql.Proofs.Fragment.Alias
import PolySql.Proofs.Sqlite.Storage
import PolySql.Proofs.Encoding
import PolySql.Proofs.ResultSet.Shapes
import PolySql.Proofs.Execution.Codes
import PolySql.Proofs.ResultSet.History
