import Hyperbridge.Ismp.Interleaving
import Hyperbridge.Beefy.SP1Beefy
import Hyperbridge.Evm.Reentrancy
import Hyperbridge.Evm.Records
import Hyperbridge.Ismp.ResponseReceipts
import Hyperbridge.Ismp.Parachain
import Hyperbridge.Bsc.Fraud
import Hyperbridge.Nexus.Deposit
import Hyperbridge.Nexus.Routing
import Hyperbridge.Ismp.CoprocessorRun
import Hyperbridge.Ismp.GetOnce
import Hyperbridge.Relayer.Deliverer
import Hyperbridge.TokenGovernor.Listing
import Hyperbridge.TokenGovernor.Instances
import Hyperbridge.Evm.Escrow
import Hyperbridge.Ismp.Validation
import Hyperbridge.TokenGateway.Conservation
import Hyperbridge.Grandpa.Finality
import Hyperbridge.Ismp.Identifiers
import Hyperbridge.HostExecutive.Sync
import Hyperbridge.PalletHyperbridge.Payments
import Hyperbridge.Ismp.TimeoutBatches
import Hyperbridge.Evm.Batches
import Hyperbridge.SyncCommitteeVerifier.Rotation
import Hyperbridge.Grandpa.Ancestries
import Hyperbridge.Bsc.Client
import Hyperbridge.Beefy.Commitments
import Hyperbridge.Beefy.Headers
import Hyperbridge.Arbitrum.Payload
import Hyperbridge.EthereumTrie.NodeCodec
import Hyperbridge.TokenGateway.Decimals
import Hyperbridge.TokenGateway.Aborts
import Hyperbridge.TokenGateway.Deregistration
import Hyperbridge.CallDecompressor.Pallet
import Hyperbridge.PalletMmr.KIndex
import Hyperbridge.PalletMmr.Pallet
