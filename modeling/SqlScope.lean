import SqlScope.Client.Run
import SqlScope.Logging.Loggers
import SqlScope.Savepoint.Numbering
import SqlScope.Proofs.StatementWork
import SqlScope.Proofs.Holding
import SqlScope.Proofs.ClosedOnce
import SqlScope.Proofs.Durability
import SqlScope.Proofs.Lending
import SqlScope.Proofs.Accounts
import SqlScope.Proofs.PoolConservation
import SqlScope.Proofs.Marks
import SqlScope.Proofs.RollBack
import SqlScope.Proofs.AbortedScope
import SqlScope.Proofs.FailedWrite
import SqlScope.Proofs.DriverFaults
import SqlScope.Proofs.StatementFaults
import SqlScope.Proofs.WrappedErrors
import SqlScope.Proofs.Calm
import SqlScope.Proofs.Pages
import SqlScope.Proofs.CallLists
import SqlScope.Proofs.TransactionProtocol
import SqlScope.Proofs.Elementary
import SqlScope.Proofs.Plan
import SqlScope.Proofs.Cleanup
import SqlScope.Proofs.Stretches
import SqlScope.Proofs.Custody
import SqlScope.Proofs.CursorsClosed
import SqlScope.Proofs.CursorSteps
import SqlScope.Proofs.RandomAccess
import SqlScope.Proofs.RepeatedPaging
import SqlScope.Proofs.AfterFailure
import SqlScope.Proofs.Delivery
import SqlScope.Proofs.Queueing
import SqlScope.Proofs.Batch
import SqlScope.Proofs.ReadingsAgree
import SqlScope.Proofs.Transparency
import SqlScope.Proofs.Binding
import SqlScope.Proofs.BatchQueue
import SqlScope.Proofs.SavepointNames
import SqlScope.Proofs.Redaction
import SqlScope.Proofs.Description
import SqlScope.Proofs.MissingUrl
import SqlScope.Proofs.RowMap
import SqlScope.Proofs.NestedRelease
import SqlScope.Proofs.HandedBack
import SqlScope.Proofs.LogSetup
