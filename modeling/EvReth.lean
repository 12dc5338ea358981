import EvReth.Foundations.MachineInt
import EvReth.Foundations.StateExcept
import EvReth.Foundations.Run
import EvReth.Foundations.SkipLoop
import EvReth.Foundations.LongestPrefix
import EvReth.Foundations.BinarySearch
import EvReth.Foundations.OrderedMap
import EvReth.Foundations.Interference
import EvReth.Foundations.BigEndian
import EvReth.Foundations.Hex
import EvReth.Foundations.Rlp
import EvReth.Foundations.RlpCanonical
import EvReth.Foundations.RlpItem
import EvReth.Primitives.Basic
import EvReth.Primitives.Transaction
import EvReth.Primitives.Encoding
import EvReth.Primitives.Compact
import EvReth.Primitives.Signing
import EvReth.Primitives.Wire
import EvReth.Primitives.Recovery
import EvReth.Primitives.Block
import EvReth.Revm.Journal
import EvReth.Revm.WorldState
import EvReth.Revm.TxEnv
import EvReth.Revm.Recovered
import EvReth.Revm.Deploy
import EvReth.Revm.Handler.Context
import EvReth.Revm.Handler.Defs
import EvReth.Revm.Handler.Transfers
import EvReth.Revm.Handler.Validation
import EvReth.Revm.Handler.Affordability
import EvReth.Revm.Handler.Frame
import EvReth.Revm.Handler.Batch
import EvReth.Revm.Handler.Phases
import EvReth.Revm.Handler.Fees
import EvReth.Revm.Handler.Inspect
import EvReth.Revm.Handler.Nonce
import EvReth.Revm.Handler.Accounting
import EvReth.Revm.Handler.BatchGas
import EvReth.Revm.SingleCall
import EvReth.Revm.Evm
import EvReth.Revm.Replay
import EvReth.Revm.SponsorCharge
import EvReth.Precompiles.Mint.Defs
import EvReth.Precompiles.Mint.Spec
import EvReth.Precompiles.Mint.Ledger
import EvReth.Precompiles.Mint.DirectCalls
import EvReth.Precompiles.Mint.Static
import EvReth.Precompiles.Mint.CallSchemes
import EvReth.Precompiles.Mint.Persistence
import EvReth.Node.TxPool
import EvReth.Node.Admission
import EvReth.Node.Promotion
import EvReth.Node.EvmEnv
import EvReth.Node.BlockExecutor
import EvReth.Node.Builder
import EvReth.Node.DeployGate
import EvReth.Node.BlockGas
import EvReth.Node.BlockRuns
import EvReth.Node.BuildRuns
import EvReth.Node.PayloadService
import EvReth.Node.PayloadJobs
import EvReth.Node.EnginePayload
import EvReth.Node.Validator
import EvReth.Node.PayloadTypes
import EvReth.Node.Import
import EvReth.Evolve.Consensus
import EvReth.Evolve.Selection
import EvReth.Evolve.PublishedCap
import EvReth.Evolve.Beacon
import EvReth.Clients.Encoding
import EvReth.Clients.Representation
import EvReth.Clients.Agreement
import EvReth.Clients.Estimate
import EvReth.Node.ChainSpecParser
import EvReth.Contracts.FeeVault
import EvReth.Deployer.Config
import EvReth.Deployer.Contracts
import EvReth.Deployer.Genesis
import EvReth.Deployer.State
import EvReth.Deployer.Pipeline
import EvReth.Deployer.Progress
import EvReth.Deployer.Resume
import EvReth.Deployer.Intent
import EvReth.Clients.Signing
import EvReth.Clients.SignedFields
import EvReth.Foundations.Parallel
import EvReth.Sponsor.PolicyEngine
import EvReth.Sponsor.Service
import EvReth.Sponsor.Requests
import EvReth.Sponsor.Delivery
import EvReth.Sponsor.Exposure
import EvReth.Foundations.Graded
import EvReth.Revm.Handler.AccountCost
import EvReth.Revm.Handler.PhaseCosts
import EvReth.Node.Chain
import EvReth.Node.ReplayProtection
import EvReth.Node.SponsorFunds
import EvReth.Foundations.CallStack
import EvReth.Contracts.AdminProxy
import EvReth.Contracts.Governance
