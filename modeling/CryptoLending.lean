import CryptoLending.Lib.JsReading
import CryptoLending.Lib.HashChain
import CryptoLending.Lib.IsoReading
import CryptoLending.Lib.JsonText
import CryptoLending.Lib.JsHeap
import CryptoLending.Outbox.MessageClone
import CryptoLending.Outbox.MessageRoundTrip
import CryptoLending.Ledger.Idempotency
import CryptoLending.Ledger.LedgerTimestamps
import CryptoLending.MainnetActions.LifecycleHeights
import CryptoLending.MainnetActions.LifecycleReplay
import CryptoLending.MainnetActions.SchedulerSingleUse
import CryptoLending.MainnetActions.SignedVerificationDigest
import CryptoLending.MainnetActions.SolanaKeyAgreement
import CryptoLending.MainnetActions.SolanaWireFormat
import CryptoLending.Outbox.JobQueueRecovery
import CryptoLending.SmartLending.AllocationOrder
import CryptoLending.SmartLending.AllocationPolicy
import CryptoLending.Valuation.ConservativeValuation
import CryptoLending.Valuation.RecoveryClearance
import CryptoLending.Valuation.ValuationDepeg
import CryptoLending.Outbox.OutboxGuarantee
import CryptoLending.Wallets.ChallengeBinding
import CryptoLending.MainnetActions.WriteManifestCompleteness
import CryptoLending.Portfolio.PortfolioFreshness
import CryptoLending.Portfolio.ProviderConservation
import CryptoLending.SmartLending.MorphoSolvency
import CryptoLending.SmartLending.GearboxCompleteness
import CryptoLending.MainnetPlatforms.DeadlineRunnerGuarantee
import CryptoLending.MainnetActions.ReorgAgreement
import CryptoLending.MainnetPlatforms.ReconciliationGuarantee
import CryptoLending.MainnetPlatforms.FinalityVerdicts
import CryptoLending.SmartLending.ReturnLaws
import CryptoLending.SmartLending.AllocationExhaustion
import CryptoLending.Valuation.NumericLimit
import CryptoLending.RoutingFees.RoutingFeeExactness
import CryptoLending.Authentication.AdmissionGuarantee
import CryptoLending.Database.MigrationGuarantee
import CryptoLending.RoutingFees.SnapshotFingerprint
import CryptoLending.Valuation.EvidenceReadModel
import CryptoLending.Valuation.DepegLatchBinding
import CryptoLending.Ledger.LedgerCommand
import CryptoLending.BuyingPower.BuyingPowerConservation
import CryptoLending.Blockchain.ChainObservation
import CryptoLending.BlockchainSync.ObservationIdentity
import CryptoLending.Lib.SharePool
import CryptoLending.SmartLending.EulerSolvency
import CryptoLending.Blockchain.SolanaDepositConservation
import CryptoLending.SmartLending.SaveLendBounds
import CryptoLending.LocalDemo.CapitalDistribution
import CryptoLending.SmartLending.UpstreamReadBreaker
