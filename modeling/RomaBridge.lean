import RomaBridge.Properties.AppliedMigrations
import RomaBridge.Properties.AtomicAppends
import RomaBridge.Properties.AuditRecords
import RomaBridge.Properties.BackendAffinity
import RomaBridge.Properties.CancelledJob
import RomaBridge.Properties.CompiledDags
import RomaBridge.Properties.CryptoBooking
import RomaBridge.Properties.DeadWorker
import RomaBridge.Properties.DebitAnswers
import RomaBridge.Properties.DecisionIdempotency
import RomaBridge.Properties.DurableJobs
import RomaBridge.Properties.ExactBench
import RomaBridge.Properties.ExecutorResults
import RomaBridge.Properties.FailClosedVerdicts
import RomaBridge.Properties.ImportedState
import RomaBridge.Properties.InviteBounds
import RomaBridge.Properties.IssuedKeys
import RomaBridge.Properties.JobConservation
import RomaBridge.Properties.JobFolds
import RomaBridge.Properties.JobQuota
import RomaBridge.Properties.JobStoreStates
import RomaBridge.Properties.LeaseFencing
import RomaBridge.Properties.LinkHandover
import RomaBridge.Properties.OneJobPerNode
import RomaBridge.Properties.OwnKeys
import RomaBridge.Properties.PaymentWebhook
import RomaBridge.Properties.PluginDependencies
import RomaBridge.Properties.PoolAccounting
import RomaBridge.Properties.ProcessedEvents
import RomaBridge.Properties.QueuePartition
import RomaBridge.Properties.RegistryFaults
import RomaBridge.Properties.RentedGpus
import RomaBridge.Properties.ReplicatedLog
import RomaBridge.Properties.RequestSignatures
import RomaBridge.Properties.RestartBudget
import RomaBridge.Properties.RotatedLog
import RomaBridge.Properties.RowPrice
import RomaBridge.Properties.SpendCaps
import RomaBridge.Properties.StarvingSweeps
import RomaBridge.Properties.StickySuspension
import RomaBridge.Properties.SubmitIdempotency
import RomaBridge.Properties.SupportSessions
import RomaBridge.Properties.TenantIsolation
import RomaBridge.Properties.TerminalStatus
import RomaBridge.Properties.TicketSpellings
import RomaBridge.Properties.TicketStatusGraph
import RomaBridge.Properties.UsageTotals
import RomaBridge.Properties.VerifiedMigrations
import RomaBridge.Properties.VramAdmission
import RomaBridge.Properties.WalletBooks
import RomaBridge.Properties.WorkerExclusion
import RomaBridge.Properties.WorkerTenants
