import SqlConnector.Catalog.Table
import SqlConnector.Proofs.Statement.Paging
import SqlConnector.Rehearsal
import SqlConnector.Sql.Draft
import SqlConnector.Statement.Client
import SqlConnector.Proofs.Statement.Waiting
import SqlConnector.Proofs.Rehearsal
import SqlConnector.Proofs.Sql.Meant
import SqlConnector.Proofs.Statement.Retrying
import SqlConnector.Proofs.Time.Notation
import SqlConnector.Proofs.Time.Canonical
import SqlConnector.Proofs.Catalog.MaxTime
import SqlConnector.Proofs.Catalog.Listing
import SqlConnector.Proofs.Catalog.Sending
import SqlConnector.Proofs.Sql.Distinct
import SqlConnector.Proofs.Stream.Backpressure
import SqlConnector.Proofs.Catalog.Attributes
import SqlConnector.Proofs.Sql.Elapsed
import SqlConnector.Proofs.Sql.Truncation
import SqlConnector.Proofs.Sql.Interval
import SqlConnector.Proofs.Statement.Addressing
import SqlConnector.Proofs.Stream.Phases
import SqlConnector.Proofs.Time.OneForm
import SqlConnector.Proofs.Catalog.Tables
import SqlConnector.Proofs.Stream.Opening
import SqlConnector.Proofs.Stream.Polling
