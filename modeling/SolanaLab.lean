import SolanaLab.Exchange.Backing
import SolanaLab.Exchange.BalanceOperations
import SolanaLab.Exchange.BookRefinement
import SolanaLab.Exchange.OrderIds
import SolanaLab.Exchange.Restart
import SolanaLab.Persistence.EnqueueBatch
import SolanaLab.Relayer.Overfills
import SolanaLab.Relayer.Pipeline
import SolanaLab.Relayer.Queueing
import SolanaLab.Relayer.RetryBudget
import SolanaLab.Relayer.SigningPreimages
import SolanaLab.Relayer.Submission
import SolanaLab.Settlement.Client
import SolanaLab.Settlement.Solvency
import SolanaLab.Stablecoin.Issuance
import SolanaLab.Stablecoin.RecordedSupply
import SolanaLab.Stablecoin.Attribution
import SolanaLab.Stablecoin.AdminModel
import SolanaLab.Stablecoin.Bystanders
import SolanaLab.Stablecoin.BridgeReceivers
import SolanaLab.Stablecoin.Retirement
import SolanaLab.Library.Mailbox
import SolanaLab.Exchange.ActorMetrics
import SolanaLab.Exchange.Lots
import SolanaLab.Service.Alignment
import SolanaLab.Service.Counters
import SolanaLab.Service.Responses
import SolanaLab.Service.Settlements
import SolanaLab.Vault.Solvency
import SolanaLab.Cpi.Counting
import SolanaLab.Settlement.Consent
import SolanaLab.Stablecoin.RedemptionModel
import SolanaLab.Relayer.Batches
