import AthenaModels.Main
import AthenaModels.Partition.Path
import AthenaModels.Source.Json
import AthenaModels.Proofs.Client.Attempt
import AthenaModels.Proofs.Client.Overwriting
import AthenaModels.Proofs.Lakehouse.Repair
import AthenaModels.Proofs.Client.Repetition
import AthenaModels.Proofs.Client.Abandonment
import AthenaModels.Proofs.Materialization.Statements
import AthenaModels.Proofs.Materialization.Remainder
import AthenaModels.Proofs.Client.Catalog
import AthenaModels.Proofs.Program.Errors
import AthenaModels.Proofs.Client.Errors
import AthenaModels.Proofs.Materialization.Configuration
import AthenaModels.Proofs.Client.Configuration
import AthenaModels.Proofs.Client.Rounds
import AthenaModels.Proofs.Client.Loops
import AthenaModels.Proofs.Client.Ledger
import AthenaModels.Proofs.Client.Accounting
import AthenaModels.Proofs.Program.Position
import AthenaModels.Proofs.Sql.Verb
import AthenaModels.Proofs.Materialization.Requests
import AthenaModels.Proofs.Client.Origin
import AthenaModels.Proofs.Client.Creation
import AthenaModels.Proofs.Materialization.Staging
import AthenaModels.Proofs.Client.Cleanup
import AthenaModels.Proofs.Client.Removal
import AthenaModels.Proofs.Client.Remainder
import AthenaModels.Proofs.Client.Polling
import AthenaModels.Proofs.Client.Overrun
import AthenaModels.Proofs.Query.Merging
import AthenaModels.Proofs.Client.Fetching
import AthenaModels.Proofs.Sql.Name
import AthenaModels.Proofs.Client.Naming
import AthenaModels.Proofs.Sql.Token
import AthenaModels.Proofs.Sql.Condition
import AthenaModels.Proofs.Sql.Partitions
import AthenaModels.Proofs.Program.Prolongation
import AthenaModels.Proofs.Client.Retries
import AthenaModels.Proofs.Client.Pacing
import AthenaModels.Proofs.Client.Labels
import AthenaModels.Proofs.Partition.Plan
import AthenaModels.Proofs.Sql.Creation
import AthenaModels.Proofs.Store.Emptying
import AthenaModels.Proofs.Partition.Path
import AthenaModels.Proofs.Profile.Places
import AthenaModels.Proofs.Number.Reading
import AthenaModels.Proofs.Environment.Precedence
import AthenaModels.Proofs.Profile.Environment
import AthenaModels.Proofs.Yaml.Nodes
import AthenaModels.Proofs.Yaml.Trees
import AthenaModels.Proofs.Yaml.Scalars
import AthenaModels.Proofs.Source.Members
import AthenaModels.Proofs.Profile.Document
import AthenaModels.Proofs.Profile.Forms
import AthenaModels.Proofs.Query.Lookups
import AthenaModels.Proofs.Query.Alignment
import AthenaModels.Proofs.Table.Terminators
import AthenaModels.Proofs.Relation.Reading
