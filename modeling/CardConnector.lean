import CardConnector.AuxiliaryData.Basic
import CardConnector.AuxiliaryData.ExtraHeaders
import CardConnector.AuxiliaryData.OpenForm
import CardConnector.AuxiliaryData.Vocabulary
import CardConnector.Binding.Action
import CardConnector.Binding.Error
import CardConnector.Binding.Layer
import CardConnector.Binding.Rendering
import CardConnector.Binding.Request
import CardConnector.Binding.Result
import CardConnector.Binding.ResultCode
import CardConnector.Binding.Service
import CardConnector.Binding.Settings
import CardConnector.CardEvent.Basic
import CardConnector.CardEvent.Ledger
import CardConnector.Configuration.Basic
import CardConnector.Configuration.Error
import CardConnector.Configuration.Host
import CardConnector.Configuration.Loader
import CardConnector.Configuration.Profile
import CardConnector.Configuration.Sources
import CardConnector.Configuration.Validity
import CardConnector.ConnectionHandle.Basic
import CardConnector.ConnectionHandle.Text
import CardConnector.Connector
import CardConnector.Decimal.Digits
import CardConnector.Decimal.Double
import CardConnector.Decimal.Layout
import CardConnector.Decimal.Nearest
import CardConnector.Decimal.Reader
import CardConnector.Decimal.Shortest
import CardConnector.Environment.Basic
import CardConnector.Environment.Settings
import CardConnector.Environment.Value
import CardConnector.Files.Tree
import CardConnector.Http.Header
import CardConnector.Http.Headers
import CardConnector.Http.Response
import CardConnector.Json.Lexeme
import CardConnector.Json.Number
import CardConnector.Json.Printer
import CardConnector.Json.Reader
import CardConnector.Json.Skipping
import CardConnector.Json.Value
import CardConnector.KeyMap
import CardConnector.Logging.Directive
import CardConnector.Logging.Event
import CardConnector.Logging.Filter
import CardConnector.Logging.Installation
import CardConnector.Logging.Level
import CardConnector.Logging.LogFile
import CardConnector.Logging.Pattern
import CardConnector.Logging.Settings
import CardConnector.Logging.Setup
import CardConnector.Logging.SpanEvents
import CardConnector.Proofs.Absorption
import CardConnector.Proofs.AcceptedEntries
import CardConnector.Proofs.AddOnFailures
import CardConnector.Proofs.AskedHeaders
import CardConnector.Proofs.BreachLog
import CardConnector.Proofs.ByteOrder
import CardConnector.Proofs.CanonicalForm
import CardConnector.Proofs.Change
import CardConnector.Proofs.ConfigurationTree
import CardConnector.Proofs.DirectiveBreakdowns
import CardConnector.Proofs.DirectiveScopes
import CardConnector.Proofs.DirectiveText
import CardConnector.Proofs.DocumentEdits
import CardConnector.Proofs.EffectiveFilters
import CardConnector.Proofs.EntryFaults
import CardConnector.Proofs.EnvironmentIsolation
import CardConnector.Proofs.EventIdentity
import CardConnector.Proofs.FilesRead
import CardConnector.Proofs.FilterOrder
import CardConnector.Proofs.HandleForms
import CardConnector.Proofs.HandleMembers
import CardConnector.Proofs.HandleParts
import CardConnector.Proofs.HandleText
import CardConnector.Proofs.HandleValues
import CardConnector.Proofs.HeaderLog
import CardConnector.Proofs.HeaderSafety
import CardConnector.Proofs.HeaderText
import CardConnector.Proofs.History
import CardConnector.Proofs.Influence
import CardConnector.Proofs.JsonGrammar
import CardConnector.Proofs.JsonText
import CardConnector.Proofs.KeyMap
import CardConnector.Proofs.LastGiven
import CardConnector.Proofs.LayerStacks
import CardConnector.Proofs.LooseForm
import CardConnector.Proofs.MissingFileWarning
import CardConnector.Proofs.NameOrder
import CardConnector.Proofs.Outcome
import CardConnector.Proofs.Overrides
import CardConnector.Proofs.PartialForms
import CardConnector.Proofs.Precedence
import CardConnector.Proofs.ProcessLife
import CardConnector.Proofs.RecordParts
import CardConnector.Proofs.Rendering
import CardConnector.Proofs.RenderingFaults
import CardConnector.Proofs.Reopening
import CardConnector.Proofs.Representation
import CardConnector.Proofs.ResultLog
import CardConnector.Proofs.ServicePolicies
import CardConnector.Proofs.Settings
import CardConnector.Proofs.SettingsTree
import CardConnector.Proofs.SourceOrder
import CardConnector.Proofs.Splitting
import CardConnector.Proofs.StepLog
import CardConnector.Proofs.StepOrder
import CardConnector.Proofs.TreeMerge
import CardConnector.Proofs.Usability
import CardConnector.Protocol
import CardConnector.Text.Alphanumeric
import CardConnector.Text.Blank
import CardConnector.Text.CaseTables
import CardConnector.Text.Hex
import CardConnector.Text.LetterCase
import CardConnector.Text.Quoted
import CardConnector.Text.Ranges
import CardConnector.Text.Unprintable
import CardConnector.Toml.DateTime
import CardConnector.Toml.Document
import CardConnector.Toml.Number
import CardConnector.Toml.Scanner
import CardConnector.Toml.Strings
import CardConnector.Toml.Table
import CardConnector.Toml.Value
import CardConnector.Tree.Basic
import CardConnector.Tree.Decoder
import CardConnector.Tree.Fault
