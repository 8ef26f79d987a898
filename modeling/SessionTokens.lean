import SessionTokens.Cache.Configured
import SessionTokens.Cache.Lru
import SessionTokens.Config.AppConfig
import SessionTokens.Config.Environment
import SessionTokens.Config.Layered
import SessionTokens.Config.Logging
import SessionTokens.Config.Plain
import SessionTokens.Config.Schema
import SessionTokens.Config.Sections
import SessionTokens.Config.Setting
import SessionTokens.Config.SettingName
import SessionTokens.Config.SettingsFile
import SessionTokens.Config.VariablesFile
import SessionTokens.Crypto.Hmac
import SessionTokens.Crypto.Sha2
import SessionTokens.Database.Charset
import SessionTokens.Database.Connect
import SessionTokens.Database.Error
import SessionTokens.Database.Pool
import SessionTokens.Database.Remote
import SessionTokens.Database.Socket
import SessionTokens.Identity
import SessionTokens.Json.Basic
import SessionTokens.Json.Fields
import SessionTokens.Json.Parser
import SessionTokens.Json.Printer
import SessionTokens.Json.Real
import SessionTokens.Json.Strict
import SessionTokens.Jwt.Base64Url
import SessionTokens.Jwt.Header
import SessionTokens.Jwt.Signer
import SessionTokens.Logging.Directive
import SessionTokens.Logging.FieldPattern
import SessionTokens.Logging.Filter
import SessionTokens.Logging.Level
import SessionTokens.Main
import SessionTokens.Number.Binary64
import SessionTokens.Number.Shortest
import SessionTokens.Number.Spelling
import SessionTokens.Pattern.CharSet
import SessionTokens.Pattern.Leaf
import SessionTokens.Pattern.Node
import SessionTokens.Pattern.Support
import SessionTokens.Service.Background
import SessionTokens.Service.Deployment
import SessionTokens.Service.Reaper
import SessionTokens.Service.Script
import SessionTokens.Service.Startup
import SessionTokens.Service.TokenService
import SessionTokens.Service.Transcript
import SessionTokens.Store
import SessionTokens.Text.Alphabetic
import SessionTokens.Text.Alphanumeric
import SessionTokens.Text.Blank
import SessionTokens.Text.CharRange
import SessionTokens.Text.Composed
import SessionTokens.Text.Fold
import SessionTokens.Text.Hexadecimal
import SessionTokens.Text.Integer
import SessionTokens.Text.Mark
import SessionTokens.Text.Printable
import SessionTokens.Text.Quoted
import SessionTokens.Text.Split
import SessionTokens.Text.Utf8
import SessionTokens.Time.Calendar
import SessionTokens.Time.Instant
import SessionTokens.Time.ManualClock
import SessionTokens.Time.Timestamp
import SessionTokens.Token.Claims
import SessionTokens.Token.Error
import SessionTokens.Token.Record
import SessionTokens.Token.Validated
import SessionTokens.Token.Validation
import SessionTokens.Token.Wire
import SessionTokens.Toml.Document
import SessionTokens.Toml.Moment
import SessionTokens.Toml.Number
import SessionTokens.Toml.Token
import SessionTokens.Toml.Value
import SessionTokens.Url.Domain
import SessionTokens.Url.Domain.Direction
import SessionTokens.Url.Domain.Joining
import SessionTokens.Url.Domain.Mapping
import SessionTokens.Url.Host
import SessionTokens.Url.Punycode
import SessionTokens.Url.Reader
import SessionTokens.Proofs.Jwt.StrictBase64
import SessionTokens.Proofs.Text.Utf8Decoding
import SessionTokens.Proofs.Json.Grammar
import SessionTokens.Proofs.Json.Scanning
import SessionTokens.Proofs.Json.Parsing
import SessionTokens.Proofs.Json.Writing
import SessionTokens.Proofs.Json.Records
import SessionTokens.Proofs.Jwt.Format
import SessionTokens.Proofs.Jwt.RoundTrip
import SessionTokens.Proofs.Cache.Entries
import SessionTokens.Proofs.Identity
import SessionTokens.Proofs.Token.Validity
import SessionTokens.Proofs.Service.CacheTransparency
import SessionTokens.Proofs.Service.Evolution
import SessionTokens.Proofs.Service.Issuing
import SessionTokens.Proofs.Service.SingleUse
import SessionTokens.Proofs.Jwt.Tampering
import SessionTokens.Store.Operation
import SessionTokens.Proofs.Store.Permanence
import SessionTokens.Proofs.Service.Conduct
import SessionTokens.Proofs.Service.Expiry
import SessionTokens.Proofs.Service.Lineage
import SessionTokens.Proofs.Service.Lines
import SessionTokens.Proofs.Service.Replies
import SessionTokens.Proofs.Service.Rotation
import SessionTokens.Proofs.Service.Stages
import SessionTokens.Proofs.Service.Overlap
import SessionTokens.Proofs.Service.Reaping
import SessionTokens.Proofs.Store.Timestamps
import SessionTokens.Proofs.Service.Containment
import SessionTokens.Proofs.Time.Calendar
import SessionTokens.Proofs.Time.Timestamps
import SessionTokens.Proofs.Token.Wire
import SessionTokens.Proofs.Config.Runnable
import SessionTokens.Proofs.Config.Respelling
import SessionTokens.Proofs.Config.TextSettings
import SessionTokens.Proofs.Config.SettingNames
import SessionTokens.Proofs.Config.Merging
import SessionTokens.Proofs.Config.Layers
import SessionTokens.Proofs.Config.Precedence
import SessionTokens.Proofs.Config.Completion
import SessionTokens.Proofs.Service.Generation
import SessionTokens.Proofs.Service.Redemption
import SessionTokens.Proofs.Service.Prolongation
import SessionTokens.Cache.History
import SessionTokens.Proofs.Cache.History
import SessionTokens.Proofs.Service.Counting
import SessionTokens.Proofs.Service.Verification
import SessionTokens.Proofs.Token.Accumulation
import SessionTokens.Proofs.Crypto.Keys
import SessionTokens.Proofs.Jwt.WrongSecrets
import SessionTokens.Proofs.Config.PlainVariables
import SessionTokens.Proofs.Config.Presets
import SessionTokens.Proofs.Config.MalformedVariables
import SessionTokens.Proofs.Cache.Deadlines
import SessionTokens.Proofs.Time.ManualClock
import SessionTokens.Store.Clocked
import SessionTokens.Proofs.Store.WholeSeconds
import SessionTokens.Proofs.Service.Steps
import SessionTokens.Proofs.Service.WholeSeconds
