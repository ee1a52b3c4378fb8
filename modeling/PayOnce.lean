import PayOnce.Cache.Redis
import PayOnce.Json.Extract
import PayOnce.Json.Parser
import PayOnce.Lab.Samples
import PayOnce.Lab.World
import PayOnce.Metrics
import PayOnce.Payment.Payload
import PayOnce.Telemetry
import PayOnce.Text.Alphanumeric
import PayOnce.Text.Pattern
import PayOnce.Text.PatternReader
import PayOnce.Proofs.Text.Digits
import PayOnce.Proofs.Text.Hex
import PayOnce.Proofs.Text.Decimal
import PayOnce.Proofs.Text.Numerals
import PayOnce.Proofs.Uuid
import PayOnce.Proofs.Json.Strings
import PayOnce.Proofs.Json.Number
import PayOnce.Proofs.Json.Record
import PayOnce.Proofs.Json.Parser
import PayOnce.Proofs.Json.Extract
import PayOnce.Proofs.Json.Spelling
import PayOnce.Proofs.Json.Grammar
import PayOnce.Proofs.Json.Members
import PayOnce.Proofs.Json.Tokens
import PayOnce.Proofs.Json.Integers
import PayOnce.Proofs.Json.Soundness
import PayOnce.Proofs.Time.Calendar
import PayOnce.Proofs.Time.Reader
import PayOnce.Proofs.Time.Order
import PayOnce.Proofs.Payment.Receipt
import PayOnce.Proofs.Payment.Spelling
import PayOnce.Proofs.Payment.Event
import PayOnce.Proofs.Payment.Money
import PayOnce.Proofs.Payment.Move
import PayOnce.Proofs.Store.Memory
import PayOnce.Proofs.Store.Consistency
import PayOnce.Proofs.Store.Desk
import PayOnce.Proofs.Store.Versions
import PayOnce.Proofs.Store.Session
import PayOnce.Proofs.Store.Transaction
import PayOnce.Proofs.Store.Database
import PayOnce.Proofs.Store.Refinement
import PayOnce.Proofs.Store.LostCommits
import PayOnce.Proofs.Service.Initiation
import PayOnce.Proofs.Cache.Memory
import PayOnce.Proofs.Cache.Expiry
import PayOnce.Proofs.Service.Traffic
import PayOnce.Proofs.Service.Order
import PayOnce.Proofs.Service.Convergence
import PayOnce.Proofs.Service.Alone
import PayOnce.Proofs.Service.CacheBlind
import PayOnce.Proofs.Service.Outline
import PayOnce.Proofs.Service.Rules
import PayOnce.Proofs.Service.Signals
import PayOnce.Proofs.Service.Ledger
import PayOnce.Proofs.Service.NoTrace
import PayOnce.Proofs.Service.Deadlines
import PayOnce.Proofs.Service.Words
import PayOnce.Proofs.Http.Discretion
import PayOnce.Proofs.Service.Parts
import PayOnce.Proofs.Service.Floor
import PayOnce.Proofs.Store.Ages
import PayOnce.Proofs.Service.Origins
import PayOnce.Proofs.Service.Turns
import PayOnce.Proofs.Service.Founding
import PayOnce.Proofs.Service.Replay
import PayOnce.Proofs.Payment.Life
import PayOnce.Proofs.Store.Retry
import PayOnce.Proofs.Http.Layers
import PayOnce.Proofs.Http.Measured
import PayOnce.Proofs.Service.Warmth
import PayOnce.Proofs.Service.Blame
import PayOnce.Proofs.Service.Gate
import PayOnce.Proofs.Text.Utf8
import PayOnce.Proofs.Service.Healing
import PayOnce.Proofs.Service.Entries
import PayOnce.Proofs.Store.Rows
import PayOnce.Proofs.Http.Body
import PayOnce.Proofs.Service.Keyed
import PayOnce.Proofs.Http.HeaderKey
import PayOnce.Proofs.Http.Asked
import PayOnce.Proofs.Http.Bodies
import PayOnce.Proofs.Payment.Amounts
import PayOnce.Proofs.Http.Named
import PayOnce.Proofs.Cache.Spaces
import PayOnce.Proofs.Net.Numbers
import PayOnce.Proofs.Net.Groups
import PayOnce.Proofs.Net.Addresses
import PayOnce.Proofs.Config
import PayOnce.Proofs.Net.Listening
