import Embargo.Action
import Embargo.Alias.Stock
import Embargo.Audit
import Embargo.Collection.OrderedSet
import Embargo.Collection.Table
import Embargo.Collection.Unrevoked
import Embargo.Decimal.Shortest
import Embargo.Decision.Arbiter
import Embargo.Decision.Context
import Embargo.Decision.Cooldown
import Embargo.Decision.Listener
import Embargo.Decision.Verdict
import Embargo.Expression
import Embargo.Expression.Domain
import Embargo.Expression.Scope
import Embargo.Folder
import Embargo.Inventory
import Embargo.Inventory.Scan
import Embargo.Item.Catalogue
import Embargo.Item.Identity
import Embargo.Item.Label
import Embargo.Item.Notation
import Embargo.Item.Predicate
import Embargo.Item.Stack
import Embargo.KeyMap
import Embargo.Level
import Embargo.Pattern
import Embargo.Pattern.CharSet
import Embargo.Pattern.Class
import Embargo.Pattern.Regex
import Embargo.Pattern.Syntax
import Embargo.Problem
import Embargo.Proofs.Decision.BypassNodes
import Embargo.Proofs.Decision.Contexts
import Embargo.Proofs.Decision.Effects
import Embargo.Proofs.Decision.History
import Embargo.Proofs.Decision.Lapse
import Embargo.Proofs.Decision.LoneBans
import Embargo.Proofs.Decision.Messages
import Embargo.Proofs.Decision.Policy
import Embargo.Proofs.Decision.Ruling
import Embargo.Proofs.Decision.Templates
import Embargo.Proofs.Decision.Windows
import Embargo.Proofs.Expression.Anchoring
import Embargo.Proofs.Expression.BareNames
import Embargo.Proofs.Expression.CustomNames
import Embargo.Proofs.Expression.DataTokens
import Embargo.Proofs.Expression.Denoted
import Embargo.Proofs.Expression.Display
import Embargo.Proofs.Expression.LevelTokens
import Embargo.Proofs.Expression.Membership
import Embargo.Proofs.Expression.OneToken
import Embargo.Proofs.Expression.OtherNames
import Embargo.Proofs.Expression.Resolution
import Embargo.Proofs.Expression.Selection
import Embargo.Proofs.Expression.Tokens
import Embargo.Proofs.Inventory.Scan
import Embargo.Proofs.Inventory.Search
import Embargo.Proofs.Inventory.Visits
import Embargo.Proofs.Item.Captured
import Embargo.Proofs.Item.Conditions
import Embargo.Proofs.Item.Entries
import Embargo.Proofs.Item.Independence
import Embargo.Proofs.Item.Index
import Embargo.Proofs.Item.LevelNotations
import Embargo.Proofs.Item.Likeness
import Embargo.Proofs.Item.Names
import Embargo.Proofs.Item.Payloads
import Embargo.Proofs.Item.Recognition
import Embargo.Proofs.Item.Registrations
import Embargo.Proofs.Item.Requirements
import Embargo.Proofs.Item.RoundTrip
import Embargo.Proofs.Item.Weakening
import Embargo.Proofs.Item.Written
import Embargo.Proofs.Load.Additive
import Embargo.Proofs.Load.Places
import Embargo.Proofs.Load.Readers
import Embargo.Proofs.Name.Canonical
import Embargo.Proofs.Name.Characters
import Embargo.Proofs.Rule.Blacklist
import Embargo.Proofs.Rule.Layers
import Embargo.Proofs.Rule.Listing
import Embargo.Proofs.Rule.Locations
import Embargo.Proofs.Rule.Losses
import Embargo.Proofs.Rule.Malformed
import Embargo.Proofs.Rule.Refusals
import Embargo.Proofs.Rule.Trails
import Embargo.Proofs.Rule.Whitelists
import Embargo.Proofs.Store.Coherence
import Embargo.Proofs.Store.Edits
import Embargo.Proofs.Warden.Announcements
import Embargo.Proofs.Warden.AuditTrail
import Embargo.Proofs.Warden.Pruning
import Embargo.Proofs.Warden.Specimens
import Embargo.Registry
import Embargo.Rule.Bans
import Embargo.Rule.Book
import Embargo.Rule.Compile
import Embargo.Rule.Options
import Embargo.Rule.Source
import Embargo.Rule.Store
import Embargo.Rule.Whitelist
import Embargo.Settings
import Embargo.Text.Decimal
import Embargo.Text.Lowercase
import Embargo.Text.Search
import Embargo.Text.WhiteSpace
import Embargo.Unicode.Case
import Embargo.Unicode.Category
import Embargo.Unicode.Property
import Embargo.Unicode.Script
import Embargo.Warden
import Embargo.Yaml.Document
import Embargo.Yaml.Node
import Embargo.Yaml.Print
import Embargo.Yaml.Scalar
import Embargo.Yaml.Token
import Embargo.Yaml.Value
