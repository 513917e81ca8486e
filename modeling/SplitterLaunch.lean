import SplitterLaunch.Abi
import SplitterLaunch.Account
import SplitterLaunch.Artifact
import SplitterLaunch.Binary64
import SplitterLaunch.Binary64.Text
import SplitterLaunch.Bounds
import SplitterLaunch.Chain
import SplitterLaunch.CodeCheck
import SplitterLaunch.Command.Balance
import SplitterLaunch.Command.Deploy
import SplitterLaunch.Command.Estimate
import SplitterLaunch.Command.Networks
import SplitterLaunch.CommandLine
import SplitterLaunch.CommandLine.Help
import SplitterLaunch.Contract
import SplitterLaunch.Cost
import SplitterLaunch.Cost.Report
import SplitterLaunch.Cost.Summary
import SplitterLaunch.Crypto.Curve
import SplitterLaunch.Crypto.Keccak
import SplitterLaunch.Deployment
import SplitterLaunch.Environment
import SplitterLaunch.Environment.File
import SplitterLaunch.Estimation
import SplitterLaunch.Failure
import SplitterLaunch.Fee
import SplitterLaunch.Fee.Market
import SplitterLaunch.Fiat
import SplitterLaunch.Files
import SplitterLaunch.Files.Fault
import SplitterLaunch.Files.Path
import SplitterLaunch.FixedBytes
import SplitterLaunch.Json
import SplitterLaunch.Json.Decode
import SplitterLaunch.Json.Number
import SplitterLaunch.Json.Ordered
import SplitterLaunch.Json.Parts
import SplitterLaunch.Json.Source
import SplitterLaunch.Json.Text
import SplitterLaunch.Json.Token
import SplitterLaunch.Ledger
import SplitterLaunch.Ledger.Record
import SplitterLaunch.Ledger.Store
import SplitterLaunch.Main
import SplitterLaunch.Network
import SplitterLaunch.Network.Registry
import SplitterLaunch.Node
import SplitterLaunch.Outcome
import SplitterLaunch.Program
import SplitterLaunch.Proofs.Amount
import SplitterLaunch.Proofs.Artifact
import SplitterLaunch.Proofs.CodeCheck
import SplitterLaunch.Proofs.Codec.FixedBytes
import SplitterLaunch.Proofs.Codec.Record
import SplitterLaunch.Proofs.Codec.Timestamp
import SplitterLaunch.Proofs.CommandLine.Arguments
import SplitterLaunch.Proofs.CommandLine.Placement
import SplitterLaunch.Proofs.CommandLine.Rows
import SplitterLaunch.Proofs.CostBounds
import SplitterLaunch.Proofs.Crashes
import SplitterLaunch.Proofs.DecimalText
import SplitterLaunch.Proofs.Deploy.Broadcast
import SplitterLaunch.Proofs.Deploy.ChainId
import SplitterLaunch.Proofs.Deploy.Command
import SplitterLaunch.Proofs.Deploy.Landing
import SplitterLaunch.Proofs.Deploy.Recorded
import SplitterLaunch.Proofs.Deploy.Success
import SplitterLaunch.Proofs.Estimation
import SplitterLaunch.Proofs.FiatIsolation
import SplitterLaunch.Proofs.Files.Follow
import SplitterLaunch.Proofs.Files.Names
import SplitterLaunch.Proofs.Files.Paving
import SplitterLaunch.Proofs.Files.Tree
import SplitterLaunch.Proofs.Gwei
import SplitterLaunch.Proofs.Grouping
import SplitterLaunch.Proofs.Hex
import SplitterLaunch.Proofs.Inspection
import SplitterLaunch.Proofs.Json.Decimals
import SplitterLaunch.Proofs.Json.Gaps
import SplitterLaunch.Proofs.Json.Grammar
import SplitterLaunch.Proofs.Json.Members
import SplitterLaunch.Proofs.Json.Numerals
import SplitterLaunch.Proofs.Json.Places
import SplitterLaunch.Proofs.Json.Rereading
import SplitterLaunch.Proofs.Json.RoundTrip
import SplitterLaunch.Proofs.Json.Shortest
import SplitterLaunch.Proofs.Json.Strings
import SplitterLaunch.Proofs.Json.Written
import SplitterLaunch.Proofs.Key
import SplitterLaunch.Proofs.Ledger.Atomicity
import SplitterLaunch.Proofs.Ledger.Deposits
import SplitterLaunch.Proofs.Ledger.FileText
import SplitterLaunch.Proofs.Ledger.Foreign
import SplitterLaunch.Proofs.Ledger.History
import SplitterLaunch.Proofs.Ledger.Recording
import SplitterLaunch.Proofs.Ledger.Resaving
import SplitterLaunch.Proofs.Ledger.Saving
import SplitterLaunch.Proofs.Ledger.Upserting
import SplitterLaunch.Proofs.Letters
import SplitterLaunch.Proofs.NodeQuote
import SplitterLaunch.Proofs.Numeral
import SplitterLaunch.Proofs.Overriding
import SplitterLaunch.Proofs.Quoting
import SplitterLaunch.Proofs.Registry.Naming
import SplitterLaunch.Proofs.Registry.Overrides
import SplitterLaunch.Proofs.Rounding
import SplitterLaunch.Proofs.Run
import SplitterLaunch.Proofs.Session.Awaiting
import SplitterLaunch.Proofs.Session.Hearing
import SplitterLaunch.Proofs.Session.Requests
import SplitterLaunch.Proofs.Session.Sending
import SplitterLaunch.Proofs.Settings
import SplitterLaunch.Proofs.Settings.Blanks
import SplitterLaunch.Proofs.Settings.Reading
import SplitterLaunch.Proofs.Settings.Secrecy
import SplitterLaunch.Proofs.Settings.Signer
import SplitterLaunch.Proofs.Summary
import SplitterLaunch.Proofs.Units
import SplitterLaunch.Proofs.Worth
import SplitterLaunch.Quantity
import SplitterLaunch.Quantity.Gwei
import SplitterLaunch.Quantity.Units
import SplitterLaunch.Rpc
import SplitterLaunch.Rpc.Parameters
import SplitterLaunch.Rpc.Values
import SplitterLaunch.Sending
import SplitterLaunch.Settings
import SplitterLaunch.Text.Alphanumeric
import SplitterLaunch.Text.Blank
import SplitterLaunch.Text.Bytes
import SplitterLaunch.Text.CodePoints
import SplitterLaunch.Text.Hex
import SplitterLaunch.Text.NormalForm
import SplitterLaunch.Text.NormalForm.Table
import SplitterLaunch.Text.Numeral
import SplitterLaunch.Text.Order
import SplitterLaunch.Text.Printable
import SplitterLaunch.Text.Quoted
import SplitterLaunch.Text.Terminal
import SplitterLaunch.Time
import SplitterLaunch.Time.Text
import SplitterLaunch.Transaction
import SplitterLaunch.Url
import SplitterLaunch.Url.Address
import SplitterLaunch.Url.Domain
import SplitterLaunch.Url.Domain.Direction
import SplitterLaunch.Url.Domain.Joiner
import SplitterLaunch.Url.Domain.Punycode
import SplitterLaunch.Url.Domain.Table
import SplitterLaunch.Url.Host
import SplitterLaunch.Url.Path
import SplitterLaunch.Url.Percent
import SplitterLaunch.Usage
import SplitterLaunch.World
