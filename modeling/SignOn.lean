import SignOn.Codec.Base64
import SignOn.CommandLine.Arguments
import SignOn.CommandLine.Help
import SignOn.CommandLine.Startup
import SignOn.Config.Address
import SignOn.Config.Basic
import SignOn.Config.Check
import SignOn.Config.Error
import SignOn.Config.Layers
import SignOn.Config.Reader
import SignOn.Config.Redacted
import SignOn.Config.Writer
import SignOn.Crypto.Bcrypt
import SignOn.Crypto.Blowfish
import SignOn.Crypto.Hmac
import SignOn.Crypto.Sha2
import SignOn.Deadline
import SignOn.Document
import SignOn.Event.Basic
import SignOn.Event.Error
import SignOn.Event.Outbox
import SignOn.Event.Publisher
import SignOn.Json.Fields
import SignOn.Json.Reader
import SignOn.Json.Value
import SignOn.Json.Writer
import SignOn.Log.Filter
import SignOn.Main
import SignOn.Number
import SignOn.Password
import SignOn.Pattern.Basic
import SignOn.Pattern.Bracket
import SignOn.Pattern.Escape
import SignOn.Pattern.Match
import SignOn.Pattern.Reader
import SignOn.Proofs.Account.Conduct
import SignOn.Proofs.Account.Confirmation
import SignOn.Proofs.Account.EventTokens
import SignOn.Proofs.Account.Fields
import SignOn.Proofs.Account.LastPassword
import SignOn.Proofs.Account.LongPassword
import SignOn.Proofs.Account.PasswordChange
import SignOn.Proofs.Account.PasswordReset
import SignOn.Proofs.Account.PasswordReuse
import SignOn.Proofs.Account.Profile
import SignOn.Proofs.Account.Registration
import SignOn.Proofs.Account.RegistrationOutcome
import SignOn.Proofs.Codec.Base64
import SignOn.Proofs.Codec.Bits
import SignOn.Proofs.Config.Address
import SignOn.Proofs.Config.Checked
import SignOn.Proofs.Config.Host
import SignOn.Proofs.Config.Layers
import SignOn.Proofs.Config.Leaves
import SignOn.Proofs.Crypto.Bcrypt
import SignOn.Proofs.Crypto.HashText
import SignOn.Proofs.Crypto.KeyBytes
import SignOn.Proofs.Event.Outbox
import SignOn.Proofs.Json.RoundTrip
import SignOn.Proofs.Pattern.Characters
import SignOn.Proofs.Pattern.Meaning
import SignOn.Proofs.Rpc.Alike
import SignOn.Proofs.Rpc.Discretion
import SignOn.Proofs.Rpc.Listing
import SignOn.Proofs.Rpc.Metadata
import SignOn.Proofs.Rpc.Reads
import SignOn.Proofs.Rpc.Timeout
import SignOn.Proofs.Rpc.Unhashed
import SignOn.Proofs.Service.Aftermath
import SignOn.Proofs.Service.Alike
import SignOn.Proofs.Service.Calm
import SignOn.Proofs.Service.Conduct
import SignOn.Proofs.Service.Failure
import SignOn.Proofs.Service.History
import SignOn.Proofs.Service.InTurn
import SignOn.Proofs.Service.Internal
import SignOn.Proofs.Service.Isolation
import SignOn.Proofs.Service.Late
import SignOn.Proofs.Service.Leads
import SignOn.Proofs.Service.Logic
import SignOn.Proofs.Service.Quiet
import SignOn.Proofs.Service.Reach
import SignOn.Proofs.Service.Registered
import SignOn.Proofs.Service.Runs
import SignOn.Proofs.Service.Trace
import SignOn.Proofs.Service.Undisturbed
import SignOn.Proofs.Service.Ways
import SignOn.Proofs.Session.Admission
import SignOn.Proofs.Session.Changes
import SignOn.Proofs.Session.Logout
import SignOn.Proofs.Session.Opacity
import SignOn.Proofs.Session.Outcomes
import SignOn.Proofs.Session.Pairing
import SignOn.Proofs.Session.Purge
import SignOn.Proofs.Session.Purging
import SignOn.Proofs.Session.Race
import SignOn.Proofs.Session.Redeemed
import SignOn.Proofs.Session.Redemption
import SignOn.Proofs.Session.SingleUse
import SignOn.Proofs.Session.Spent
import SignOn.Proofs.Store.Accounts
import SignOn.Proofs.Store.Opening
import SignOn.Proofs.Store.Pages
import SignOn.Proofs.Store.Profiles
import SignOn.Proofs.Store.Revisions
import SignOn.Proofs.Store.SessionMap
import SignOn.Proofs.Store.Sessions
import SignOn.Proofs.Store.Unhashed
import SignOn.Proofs.Text.Ascii
import SignOn.Proofs.Text.Decimal
import SignOn.Proofs.Text.Utf8
import SignOn.Proofs.Token.Acceptance
import SignOn.Proofs.Token.Lifetime
import SignOn.Proofs.Token.Signed
import SignOn.Proofs.Token.Wrapped
import SignOn.Proofs.Unicode.WhiteSpace
import SignOn.Rpc.Endpoint
import SignOn.Rpc.Message
import SignOn.Rpc.Metadata
import SignOn.Rpc.Status
import SignOn.Rpc.Timeout
import SignOn.Service.Accounts
import SignOn.Service.Basic
import SignOn.Service.Error
import SignOn.Service.Interleaving
import SignOn.Service.Operation
import SignOn.Service.Program
import SignOn.Service.Sessions
import SignOn.Store.Error
import SignOn.Store.Place
import SignOn.Store.Query
import SignOn.Store.Rows
import SignOn.Store.Tables
import SignOn.Text.Quoted
import SignOn.Text.Utf8
import SignOn.Token.Claims
import SignOn.Token.Header
import SignOn.Token.Identifier
import SignOn.Token.Issuer
import SignOn.Token.Signed
import SignOn.Token.Wrapped
import SignOn.Toml.Number
import SignOn.Toml.Reader
import SignOn.Toml.Table
import SignOn.Toml.Text
import SignOn.Unicode.Category
import SignOn.Unicode.Folding
import SignOn.Unicode.Property
import SignOn.Unicode.Ranges
import SignOn.Unicode.Script
import SignOn.Validation
