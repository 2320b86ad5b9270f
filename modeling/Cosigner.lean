import Cosigner.Hash.Ripemd160
import Cosigner.Random.Generator
import Cosigner.Key.Derivation
import Cosigner.Script.Multisig
import Cosigner.Transaction.Parse
import Cosigner.Transaction.View
import Cosigner.Signing.Apply
import Cosigner.Signing.Inspect
import Cosigner.Coin.Selection
import Cosigner.Exchange
import Cosigner.Node.Memory
import Cosigner.Wallet.Addresses
import Cosigner.Wallet.Spend
import Cosigner.Wallet.Discovery
import Cosigner.Command.Run
import Cosigner.Main
import Cosigner.Proofs.Bytes
import Cosigner.Proofs.CompactSize
import Cosigner.Proofs.CompactSize.Offset
import Cosigner.Proofs.Result
import Cosigner.Proofs.Transaction.Cursor
import Cosigner.Proofs.Hex
import Cosigner.Proofs.Text.Blank
import Cosigner.Proofs.Transaction.WireFormat
import Cosigner.Proofs.Script.Multisig
import Cosigner.Proofs.Signing.Write
import Cosigner.Proofs.Signing.Gather
import Cosigner.Proofs.Wallet.Runs
import Cosigner.Proofs.Coin.Amount
import Cosigner.Proofs.Coin.Decimal
import Cosigner.Proofs.Coin.Selection
import Cosigner.Proofs.Wallet.Config
import Cosigner.Proofs.Wallet.Payments
import Cosigner.Proofs.Key.Derivation
import Cosigner.Proofs.Wallet.KeySearch
import Cosigner.Proofs.Wallet.Reachable
import Cosigner.Proofs.Wallet.Sound
import Cosigner.Proofs.Signing.Requests
import Cosigner.Proofs.Signature.Strict
import Cosigner.Proofs.Signature.LowS
import Cosigner.Proofs.Wallet.Signing
import Cosigner.Proofs.Base58
import Cosigner.Proofs.Address
import Cosigner.Proofs.Signing.Commitment
import Cosigner.Proofs.Wallet.Sessions
import Cosigner.Proofs.Wallet.Cache
import Cosigner.Proofs.Wallet.Issuing
import Cosigner.Proofs.Wallet.Cosigning
import Cosigner.Proofs.Script.Quorum
import Cosigner.Proofs.Wallet.Registration
import Cosigner.Proofs.Key.Secret
import Cosigner.Proofs.Key.Seed
import Cosigner.Proofs.Key.Spelling
import Cosigner.Proofs.Signing.Arrival
import Cosigner.Proofs.Wallet.Spendable
import Cosigner.Proofs.Script.Template
import Cosigner.Proofs.Transaction.View
import Cosigner.Proofs.Transaction.Corruption
import Cosigner.Proofs.Wallet.Situation
import Cosigner.Proofs.Wallet.Transparency
import Cosigner.Proofs.Bytes.Order
import Cosigner.Proofs.Key.PrivateKey
import Cosigner.Proofs.Coin.Transaction
import Cosigner.Proofs.Coin.Sufficiency
import Cosigner.Proofs.Transaction.Length
import Cosigner.Proofs.Coin.Size
import Cosigner.Proofs.Signing.Readding
import Cosigner.Proofs.Script.Reveal
import Cosigner.Proofs.Script.Scan
import Cosigner.Proofs.Signing.LastWrite
import Cosigner.Proofs.Wallet.FirstFree
import Cosigner.Proofs.Wallet.FailedCalls
import Cosigner.Proofs.Wallet.RecordedRound
import Cosigner.Proofs.Key.Enumeration
import Cosigner.Proofs.Wallet.DiscoveryPass
