import ContractWatch.Monitor.Run
import ContractWatch.Node.Client
import ContractWatch.Proofs.Base64
import ContractWatch.Proofs.Chain.Address
import ContractWatch.Proofs.Code.Candidates
import ContractWatch.Proofs.Code.Opcode
import ContractWatch.Proofs.Code.Record
import ContractWatch.Proofs.Code.Sweep
import ContractWatch.Proofs.Deflate.Bits
import ContractWatch.Proofs.Deflate.Blocks
import ContractWatch.Proofs.Deflate.Lengths
import ContractWatch.Proofs.Deflate.Matcher
import ContractWatch.Proofs.Deflate.PrefixCode
import ContractWatch.Proofs.Deflate.Tokens
import ContractWatch.Proofs.Deflate.Weights
import ContractWatch.Proofs.Gzip.Member
import ContractWatch.Proofs.Json.Shape
import ContractWatch.Proofs.Json.Tokens
import ContractWatch.Proofs.Json.Values
import ContractWatch.Proofs.Monitor.Accounting
import ContractWatch.Proofs.Monitor.Carried
import ContractWatch.Proofs.Monitor.Stages
import ContractWatch.Proofs.Payload
import ContractWatch.Proofs.Signature.Resolution
import ContractWatch.Proofs.Signature.Table
import ContractWatch.Proofs.Text.Blank
import ContractWatch.Proofs.Text.Decimal
import ContractWatch.Proofs.Text.Hex
import ContractWatch.Proofs.Text.Split
import ContractWatch.Proofs.Text.Utf8
import ContractWatch.Proofs.Code.WellFormed
import ContractWatch.Proofs.Monitor.Delivery
import ContractWatch.Proofs.Monitor.Once
import ContractWatch.Proofs.Monitor.Independence
import ContractWatch.Proofs.Monitor.Options
import ContractWatch.Proofs.Monitor.Numbering
import ContractWatch.Proofs.Json.Everywhere
import ContractWatch.Proofs.Json.Free
import ContractWatch.Proofs.Time.Rfc3339
import ContractWatch.Proofs.Json.Format
import ContractWatch.Proofs.Octets
import ContractWatch.Proofs.Records
import ContractWatch.Proofs.Alert
import ContractWatch.Proofs.Monitor.Messages
import ContractWatch.Proofs.Environment
import ContractWatch.Proofs.Exchange
import ContractWatch.Proofs.Json.Embedding
import ContractWatch.Proofs.Code.Strict
import ContractWatch.Proofs.Monitor.Questions
import ContractWatch.Proofs.Monitor.Journal
import ContractWatch.Proofs.Monitor.Notification
import ContractWatch.Proofs.Code.Append
import ContractWatch.Proofs.Deflate.Steady
import ContractWatch.Proofs.Deflate.Extent
import ContractWatch.Proofs.Gzip.Extent
import ContractWatch.Proofs.Base64.Canonical
import ContractWatch.Proofs.Payload.Acceptance
import ContractWatch.Proofs.Monitor.Calls
import ContractWatch.Proofs.Text.Normal
import ContractWatch.Proofs.Signature.Keys
import ContractWatch.Proofs.Text.Pairs
import ContractWatch.Proofs.Chain.Spelling
import ContractWatch.Proofs.Node.Client
import ContractWatch.Proofs.Monitor.Remote
import ContractWatch.Proofs.Code.Metrics
import ContractWatch.Proofs.Monitor.AlertLog
import ContractWatch.Proofs.Monitor.Measures
